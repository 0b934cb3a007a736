import SourceIndex.Proofs.Cache.Programs

/-!
# One shared cache

The first cache that gets into the slot is there for good, and whoever asks for one gets that. It
can be disposed where it is, once.
-/

namespace SourceIndex

variable {ω σ κ υ α : Type}

/-! ## The end of the process -/

namespace SharedCache

/-- There is a cache, and it still has its context. -/
def isOpen (shared : SharedCache ω σ κ υ) : Bool :=
  shared.slot.any fun locked => !locked.value.isDestroyed

theorem isMade_eq_false {shared : SharedCache ω σ κ υ} (not_made : shared.isMade = false) :
    shared = .empty := by
  obtain ⟨_ | locked⟩ := shared
  · rfl
  · cases not_made

theorem run_exit_dispose_of_sound (world : ω) (walk : Walk (Path × Entry υ))
    (setup : Setup ω σ κ υ) {s : CacheState σ κ υ} (sound : Sound s) (poisoned : Bool) :
    ∃ effects inner, (exit world walk .dispose).run (.of setup s poisoned) =
      ⟨.ok (!s.context.isNone), effects,
        .of setup (.destroyed { s.analyzer with inner }) poisoned⟩ := by
  obtain ⟨pieces, last, inner, ran, -⟩ := setup.run_destroy world walk sound
  refine ⟨pieces.flatten ++ last, inner, ?_⟩
  simp only [run_exit_dispose, ran]
  simp [Except.map, Except.isOk, Except.toBool, CacheState.destroyed]

theorem exit_dispose_result (world : ω) (walk : Walk (Path × Entry υ)) {y : SharedState ω σ κ υ}
    (alive : y.Alive) : ((exit world walk .dispose).run y).result = .ok y.shared.isOpen := by
  rcases y.empty_or_of with empty | ⟨setup, s, poisoned, rfl⟩
  · rw [run_exit_of_empty world walk .dispose empty, empty]
    rfl
  · obtain ⟨log, life⟩ := alive _ _ _ rfl
    obtain ⟨effects, inner, ran⟩ := run_exit_dispose_of_sound world walk setup life.sound poisoned
    rw [ran]
    rfl

end SharedCache

theorem Program.never_reopens {asks : Bool} {act : SharedAct ω σ κ υ α}
    (program : Program asks act) {setup : Setup ω σ κ υ} {s : CacheState σ κ υ} {poisoned : Bool}
    (alive : (SharedState.of setup s poisoned).Alive) (gone : s.context = none) :
    (act.run (.of setup s poisoned)).state.shared.isOpen = false := by
  obtain ⟨earlier, life⟩ := alive _ _ _ rfl
  obtain ⟨s', poisoned', log, now, -, continues⟩ := (program.evolves alive).kept _ _ _ rfl
  have still_gone := continues.gone life.sound gone
  rw [now]
  simp [SharedState.of, SharedCache.isOpen, Cache.isDestroyed, still_gone]

/-! ## One cache for good -/

/-- All that can become of the shared cache from here. -/
structure KeepsOneCache (y : SharedState ω σ κ υ) : Prop where
  /-- A cache that is in the slot stays there, and makes some of the calls. -/
  kept {asks : Bool} {α : Type} {act : SharedAct ω σ κ υ α} (program : Program asks act)
    {setup : Setup ω σ κ υ} {s : CacheState σ κ υ} {poisoned : Bool}
    (here : y = .of setup s poisoned) :
    ∃ s' poisoned' log, (act.run y).state = .of setup s' poisoned' ∧
      log.Sublist (callsOf (act.run y).effects) ∧ Continues setup s log s'
  /-- Who asks for a cache gets that one. No other one is made. -/
  answered (made : y.shared.isMade) (world : ω) (walk : Walk (Path × Entry υ))
    (make : SharedAct ω σ κ υ (Except BuildError (Cache ω σ κ υ))) :
    (SharedCache.ensure world walk make).run y = ⟨.ok (.ok ()), [], y⟩
  /-- An empty slot is filled for those only who ask for a cache. -/
  untouched (not_made : y.shared.isMade = false) {α : Type} {act : SharedAct ω σ κ υ α}
    (program : Program false act) : (act.run y).state.shared.isMade = false
  obtained (not_made : y.shared.isMade = false) (world : ω) (walk : Walk (Path × Entry υ))
    {make : SharedAct ω σ κ υ (Except BuildError (Cache ω σ κ υ))} (bears : SharedCache.Bears make) :
    Obtains world walk make y ((SharedCache.ensure world walk make).run y)
  /-- Every error is one of making a cache, never one of a slot that is still empty. -/
  own_errors (world : ω) (walk : Walk (Path × Entry υ))
    {make : SharedAct ω σ κ υ (Except BuildError (Cache ω σ κ υ))} (bears : SharedCache.Bears make)
    {error : BuildError}
    (failed : ((SharedCache.ensure world walk make).run y).result = .ok (.error error)) :
    (make.run y).result = .ok (.error error)
  leaked (world : ω) (walk : Walk (Path × Entry υ)) :
    ∃ effects, (SharedCache.exit world walk .leak).run y = ⟨.ok false, effects, y⟩ ∧
      callsOf effects = []
  disposed (world : ω) (walk : Walk (Path × Entry υ)) :
    ((SharedCache.exit world walk .dispose).run y).result = .ok y.shared.isOpen
  /-- Afterwards the cache is there as ever, but it is destroyed. -/
  destroyed {setup : Setup ω σ κ υ} {s : CacheState σ κ υ} {poisoned : Bool}
    (here : y = .of setup s poisoned) (world : ω) (walk : Walk (Path × Entry υ)) :
    ∃ analyzer, ((SharedCache.exit world walk .dispose).run y).state =
      .of setup (.destroyed analyzer) poisoned
  /-- The cache is disposed once, whatever happens in between. -/
  once (was_open : y.shared.isOpen) (world : ω) (walk : Walk (Path × Entry υ)) {asks : Bool}
    {α : Type} {act : SharedAct ω σ κ υ α} (program : Program asks act) (world' : ω)
    (walk' : Walk (Path × Entry υ)) :
    let later := (act.run ((SharedCache.exit world walk .dispose).run y).state).state
    ((SharedCache.exit world' walk' .dispose).run later).result = .ok false

theorem Obtains.own_error {world : ω} {walk : Walk (Path × Entry υ)}
    {make : SharedAct ω σ κ υ (Except BuildError (Cache ω σ κ υ))} {y : SharedState ω σ κ υ}
    {ran : Ran (SharedState ω σ κ υ) (Effect κ υ) (Except BuildError Unit)}
    (obtains : Obtains world walk make y ran) {error : BuildError}
    (failed : ran.result = .ok (.error error)) : (make.run y).result = .ok (.error error) := by
  cases obtains with
  | panicked | filled | lost => cases failed
  | failed made =>
    cases failed
    rw [made]

theorem SharedState.Alive.keepsOneCache {y : SharedState ω σ κ υ} (alive : y.Alive) :
    KeepsOneCache y where
  kept program _ _ _ here := (program.evolves alive).kept _ _ _ here
  answered made world walk make := by
    rcases y.empty_or_of with empty | ⟨setup, s, poisoned, rfl⟩
    · rw [empty] at made
      cases made
    · exact SharedCache.run_ensure world walk make setup s poisoned
  untouched not_made _ _ program := by
    rw [program.stays_empty (SharedCache.isMade_eq_false not_made)]
    rfl
  obtained not_made world walk _ bears :=
    SharedCache.obtains_ensure world walk bears (SharedCache.isMade_eq_false not_made)
  own_errors world walk make bears error failed := by
    rcases y.empty_or_of with empty | ⟨setup, s, poisoned, rfl⟩
    · exact (SharedCache.obtains_ensure world walk bears empty).own_error failed
    · rw [SharedCache.run_ensure] at failed
      cases failed
  leaked world walk := by
    obtain ⟨analyzer, ⟨_ | locked⟩⟩ := y
    · exact ⟨[], rfl, rfl⟩
    · exact ⟨_, rfl, rfl⟩
  disposed world walk := SharedCache.exit_dispose_result world walk alive
  destroyed here world walk := by
    obtain ⟨log, life⟩ := alive _ _ _ here
    obtain ⟨effects, inner, ran⟩ :=
      SharedCache.run_exit_dispose_of_sound world walk _ life.sound _
    rw [here, ran]
    exact ⟨_, rfl⟩
  once was_open world walk _ _ act program world' walk' := by
    intro later
    rcases y.empty_or_of with empty | ⟨setup, s, poisoned, rfl⟩
    · rw [empty] at was_open
      cases was_open
    · obtain ⟨log, life⟩ := alive _ _ _ rfl
      have ended := evolves_exit world walk .dispose alive
      obtain ⟨effects, inner, ran⟩ :=
        SharedCache.run_exit_dispose_of_sound world walk setup life.sound poisoned
      simp only [ran] at ended
      simp only [later, ran]
      rw [SharedCache.exit_dispose_result world' walk' (program.evolves ended.alive).alive,
        program.never_reopens ended.alive rfl]

/-! ## Openings -/

/-- The cache that is made was built, and no unit is unmade on the way. -/
def Builds (make : AnalyzerAct σ κ υ (Except BuildError (Cache ω σ κ υ))) : Prop :=
  ∀ start, start.units ≤ (make.run start).state.units ∧
    ∀ cache, (make.run start).result = .ok (.ok cache) →
      ∃ log, Life cache.setup log ⟨(make.run start).state, cache.context, cache.table⟩

def Opening.Builds : Opening ω σ κ υ → Prop
  | .make act => SourceIndex.Builds act
  | .after inner outer => inner.Builds ∧ outer.Builds

def Blueprint.opening (plan : Blueprint ω) (analyzer : Analyzer ω σ κ υ) (world : ω) :
    Opening ω σ κ υ :=
  .make (Except.mapError .setup <$> plan.build analyzer world)

theorem Blueprint.units_build (plan : Blueprint ω) (analyzer : Analyzer ω σ κ υ) (world : ω)
    (start : AnalyzerState σ) :
    ((plan.build analyzer world).run start).state.units = start.units := by
  obtain ⟨answer, inner, answered⟩ : ∃ answer inner, analyzer.createContext world
      plan.contextOptions start.inner = (answer, inner) := ⟨_, _, rfl⟩
  cases answer with
  | value value => rw [run_build_of_value answered]
  | fault message => rw [run_build_of_fault answered]
  | panic payload => rw [run_build_of_panic answered]

theorem Blueprint.builds_opening (plan : Blueprint ω) (analyzer : Analyzer ω σ κ υ) (world : ω) :
    (plan.opening analyzer world).Builds := by
  show SourceIndex.Builds _
  intro start
  have units_eq := plan.units_build analyzer world start
  rcases built : (plan.build analyzer world).run start with ⟨payload | error | cache, effects, left⟩
  all_goals
    rw [built] at units_eq
    simp only [Act.run_map, built]
    refine ⟨Nat.le_of_eq units_eq.symm, ?_⟩
    rintro cache' ⟨⟩
  exact ⟨_, .of_opened (opened_of_build built)⟩

namespace Opening

variable {opening : Opening ω σ κ υ} (world : ω) (walk : Walk (Path × Entry υ))

theorem Builds.bears (builds : opening.Builds) :
    SharedCache.Bears (SharedCache.make world walk opening) := by
  induction opening with
  | make act =>
    intro y cache made
    exact (builds y.analyzer).2 cache made
  | after inner outer _ ih =>
    intro y cache made
    rcases asked : (SharedCache.ensure world walk (SharedCache.make world walk inner)).run y with
      ⟨payload | answer, effects, left⟩
    · rw [SharedCache.make, Act.run_bind_of_panic asked] at made
      cases made
    · rw [SharedCache.make, Act.run_bind_of_ok asked] at made ⊢
      exact ih builds.2 left cache made

theorem Builds.program (builds : opening.Builds) :
    Program true (SharedCache.make world walk opening) := by
  induction opening with
  | make act => exact .outside fun start => (builds start).1
  | after inner outer ih ih' =>
    exact .bind (.ensure world walk (ih builds.1) (builds.1.bears world walk)) fun _ =>
      ih' builds.2

theorem Builds.obtain (builds : opening.Builds) :
    Program true (SharedCache.obtain world walk opening) :=
  .ensure world walk (builds.program world walk) (builds.bears world walk)

end Opening

/-! ## Whatever happens -/

/-- Whatever was asked of the shared cache and of the analyzer, the first cache that came into the
slot is there for good, and it is disposed once at most. -/
theorem shared_cache_is_kept_for_good {asks : Bool} {act : SharedAct ω σ κ υ α}
    (program : Program asks act) (start : AnalyzerState σ) :
    KeepsOneCache (act.run ⟨start, .empty⟩).state := by
  have nothing_yet : SharedState.Alive (⟨start, .empty⟩ : SharedState ω σ κ υ) := .of_empty rfl
  exact (program.evolves nothing_yet).alive.keepsOneCache

/-- Who makes a cache asks for the shared one first, and is too late then. -/
theorem shared_cache_is_kept_for_good_after_lost_race :
    let opening := Blueprint.blank.opening Scripted.setup.analyzer .empty
    let act := SharedCache.obtain .empty .inOrder (.after opening opening)
    let ran := act.run ⟨.start .start, .empty⟩
    let first := (SharedCache.exit .empty .inOrder .dispose).run ran.state
    let second := (SharedCache.exit .empty .inOrder .dispose).run first.state
    Program true act ∧
      callsOf ran.effects = [.createContext ⟨false, false⟩ (.value ⟨0, ⟨0⟩⟩),
        .createContext ⟨false, false⟩ (.value ⟨1, ⟨1⟩⟩),
        .disposeContext ⟨1, ⟨1⟩⟩ .explicit (.value ())] ∧
      ran.state.shared.slot.map (·.value.context) = some (some (.hold ⟨0, ⟨0⟩⟩)) ∧
      first.result.toOption = some true ∧ second.result.toOption = some false ∧
      KeepsOneCache ran.state := by
  intro opening act ran first second
  have builds : opening.Builds := Blueprint.builds_opening _ _ _
  have program : Program true act := Opening.Builds.obtain _ _ ⟨builds, builds⟩
  exact ⟨program, by decide +kernel +zetaReduce, by decide +kernel +zetaReduce,
    by decide +kernel +zetaReduce, by decide +kernel +zetaReduce,
    shared_cache_is_kept_for_good program _⟩

end SourceIndex
