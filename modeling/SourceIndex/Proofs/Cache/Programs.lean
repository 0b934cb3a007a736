import SourceIndex.Proofs.Cache.Lives
import SourceIndex.Proofs.Cache.Sharing

/-!
# Programs around the shared cache

A program asks for the shared cache, uses it and ends it, and does whatever it likes in between.
A cache that is in the slot stays there. One that comes too late is dropped, and disposes all that it
has made.
-/

namespace SourceIndex

variable {ω σ κ υ α : Type}

/-! ## Programs -/

/-- Every cache that the action makes was built, and only used since. -/
def SharedCache.Bears (make : SharedAct ω σ κ υ (Except BuildError (Cache ω σ κ υ))) : Prop :=
  ∀ y cache, (make.run y).result = .ok (.ok cache) →
    ∃ log, Life cache.setup log ⟨(make.run y).state.analyzer, cache.context, cache.table⟩

/-- A program around the shared cache. It may use analyzers on its own, which never unmakes a unit,
look at the slot, use the cache, end it and, if `asks`, ask for it, with other programs to make it. -/
inductive Program : (asks : Bool) → {α : Type} → SharedAct ω σ κ υ α → Prop
  | pure {asks α} (a : α) : Program asks (Pure.pure a)
  | bind {asks α β} {act : SharedAct ω σ κ υ α} {next : α → SharedAct ω σ κ υ β}
      (first : Program asks act) (then_ : ∀ a, Program asks (next a)) :
      Program asks (act >>= next)
  | raise {asks α} (payload : Payload) : Program asks (Act.raise payload : SharedAct ω σ κ υ α)
  | attempt {asks α} {act : SharedAct ω σ κ υ α} (tried : Program asks act) :
      Program asks act.attempt
  | outside {asks α} {act : AnalyzerAct σ κ υ α}
      (grows : ∀ start, start.units ≤ (act.run start).state.units) :
      Program asks (SharedCache.outside act)
  | look {asks α} (view : SharedCache ω σ κ υ → α) :
      Program asks ((fun y => view y.shared) <$> Act.state)
  | use {asks} (occasion : Occasion ω υ) :
      Program asks (SharedCache.use fun setup => occasion.request.act setup occasion.moment)
  | exit {asks} (world : ω) (walk : Walk (Path × Entry υ)) (policy : ExitPolicy) :
      Program asks (SharedCache.exit world walk policy)
  | ensure {asks} (world : ω) (walk : Walk (Path × Entry υ))
      {make : SharedAct ω σ κ υ (Except BuildError (Cache ω σ κ υ))}
      (makes : Program asks make) (bears : SharedCache.Bears make) :
      Program true (SharedCache.ensure world walk make)

/-! ## Full and empty slots -/

namespace SharedState

theorem of_inj {setup setup' : Setup ω σ κ υ} {s s' : CacheState σ κ υ}
    {poisoned poisoned' : Bool} :
    SharedState.of setup s poisoned = .of setup' s' poisoned' ↔
      setup = setup' ∧ s = s' ∧ poisoned = poisoned' := by
  obtain ⟨_, _, _⟩ := s
  obtain ⟨_, _, _⟩ := s'
  simp only [of, mk.injEq, SharedCache.mk.injEq, Option.some.injEq, Locked.mk.injEq,
    Cache.mk.injEq, CacheState.mk.injEq]
  tauto

theorem empty_or_of (y : SharedState ω σ κ υ) :
    y.shared = .empty ∨ ∃ setup s poisoned, y = .of setup s poisoned := by
  obtain ⟨analyzer, ⟨_ | ⟨⟨setup, context, table⟩, poisoned⟩⟩⟩ := y
  · exact .inl rfl
  · exact .inr ⟨setup, ⟨analyzer, context, table⟩, poisoned, rfl⟩

theorem not_empty_of (setup : Setup ω σ κ υ) (s : CacheState σ κ υ) (poisoned : Bool) :
    (SharedState.of setup s poisoned).shared ≠ .empty := by
  simp [of, SharedCache.empty]

def Alive (y : SharedState ω σ κ υ) : Prop :=
  ∀ setup s poisoned, y = .of setup s poisoned → ∃ log, Life setup log s

theorem Alive.of_life {setup : Setup ω σ κ υ} {s : CacheState σ κ υ} {log : List (Call κ υ)}
    (life : Life setup log s) (poisoned : Bool) : (SharedState.of setup s poisoned).Alive := by
  intro setup' s' poisoned' same
  obtain ⟨rfl, rfl, -⟩ := of_inj.1 same
  exact ⟨log, life⟩

theorem Alive.of_empty {y : SharedState ω σ κ υ} (empty : y.shared = .empty) : y.Alive := by
  rintro setup s poisoned rfl
  exact absurd empty (not_empty_of setup s poisoned)

end SharedState

/-! ## What becomes of the slot -/

/-- A cache that is in the slot stays there, and makes some of the calls. -/
structure Evolves (y : SharedState ω σ κ υ) (calls : List (Call κ υ))
    (y' : SharedState ω σ κ υ) : Prop where
  alive : y'.Alive
  grown : y.analyzer.units ≤ y'.analyzer.units
  kept : ∀ setup s poisoned, y = .of setup s poisoned →
    ∃ s' poisoned' log, y' = .of setup s' poisoned' ∧ log.Sublist calls ∧
      Continues setup s log s'

namespace Evolves

variable {y y' y'' : SharedState ω σ κ υ} {calls calls' : List (Call κ υ)}

theorem refl (alive : y.Alive) : Evolves y [] y where
  alive := alive
  grown := Nat.le_refl _
  kept _ s poisoned was := ⟨s, poisoned, [], was, .slnil, .here⟩

theorem trans (first : Evolves y calls y') (last : Evolves y' calls' y'') :
    Evolves y (calls ++ calls') y'' where
  alive := last.alive
  grown := Nat.le_trans first.grown last.grown
  kept setup s poisoned was := by
    obtain ⟨s', poisoned', log, now, part, continues⟩ := first.kept setup s poisoned was
    obtain ⟨s'', poisoned'', log', later, part', continues'⟩ := last.kept setup s' poisoned' now
    exact ⟨s'', poisoned'', log ++ log', later, part.append part', continues.trans continues'⟩

theorem of_empty (empty : y.shared = .empty) (alive : y'.Alive)
    (grown : y.analyzer.units ≤ y'.analyzer.units) (calls : List (Call κ υ)) :
    Evolves y calls y' := by
  refine ⟨alive, grown, ?_⟩
  rintro setup s poisoned rfl
  exact absurd empty (SharedState.not_empty_of setup s poisoned)

theorem of_continues {setup : Setup ω σ κ υ} {s s' : CacheState σ κ υ} {poisoned : Bool}
    (poisoned' : Bool) {log : List (Call κ υ)}
    (alive : (SharedState.of setup s poisoned).Alive)
    (grown : s.analyzer.units ≤ s'.analyzer.units) (part : log.Sublist calls)
    (continues : Continues setup s log s') :
    Evolves (.of setup s poisoned) calls (.of setup s' poisoned') := by
  refine ⟨?_, grown, ?_⟩
  · obtain ⟨earlier, life⟩ := alive _ _ _ rfl
    exact .of_life (life.continues continues) poisoned'
  · intro _ _ _ was
    obtain ⟨rfl, rfl, -⟩ := SharedState.of_inj.1 was
    exact ⟨s', poisoned', log, rfl, part, continues⟩

theorem meanwhile (alive : y.Alive) {analyzer : AnalyzerState σ}
    (grown : y.analyzer.units ≤ analyzer.units) (calls : List (Call κ υ)) :
    Evolves y calls ⟨analyzer, y.shared⟩ := by
  rcases y.empty_or_of with empty | ⟨setup, s, poisoned, rfl⟩
  · have alive' : SharedState.Alive ⟨analyzer, y.shared⟩ := .of_empty empty
    exact .of_empty empty alive' grown calls
  · have continues : Continues setup s [] { s with analyzer } := .meanwhile .here grown
    refine .of_continues poisoned alive ?_ (List.nil_sublist _) continues
    exact grown

end Evolves

/-! ## Requests to the cache -/

theorem Setup.Removes.units_eq {setup : Setup ω σ κ υ} {world : ω} {path : Path}
    {s : CacheState σ κ υ} {ran : Ran (CacheState σ κ υ) (Effect κ υ) Unit}
    (removes : setup.Removes world path s ran) : ran.state.analyzer.units = s.analyzer.units := by
  obtain ⟨inner, left⟩ := removes.state_eq
  rw [left]

theorem Does.units_le {setup : Setup ω σ κ υ} {occasion : Occasion ω υ} {s s' : CacheState σ κ υ}
    {effects : List (Effect κ υ)} (does : Does setup occasion s effects s') :
    s.analyzer.units ≤ s'.analyzer.units := by
  cases does with
  | nothing | cleared | closed | read | set => exact Nat.le_refl _
  | removed removes => exact Nat.le_of_eq removes.units_eq.symm
  | served asks serves =>
    cases serves with
    | unindexable | unreadable | hit => exact Nat.le_refl _
    | refreshed indexable readable found held stale refreshes =>
      cases refreshes <;> exact Nat.le_refl _
    | rebuilt indexable readable outdated parses =>
      cases parses with
      | destroyed removes => exact Nat.le_of_eq removes.units_eq.symm
      | parsed => exact Nat.le_succ _
      | failed | panicked => exact Nat.le_refl _

namespace SharedCache

variable {y : SharedState ω σ κ υ}

theorem run_use_of_empty (act : Setup ω σ κ υ → CacheAct σ κ υ α) (empty : y.shared = .empty) :
    (use act).run y = ⟨.ok none, [], y⟩ := by
  obtain ⟨analyzer, shared⟩ := y
  obtain rfl : shared = .empty := empty
  rfl

theorem run_exit_of_empty (world : ω) (walk : Walk (Path × Entry υ)) (policy : ExitPolicy)
    (empty : y.shared = .empty) : (exit world walk policy).run y = ⟨.ok false, [], y⟩ := by
  obtain ⟨analyzer, shared⟩ := y
  obtain rfl : shared = .empty := empty
  rfl

end SharedCache

theorem evolves_use (occasion : Occasion ω υ) {y : SharedState ω σ κ υ} (alive : y.Alive) :
    let ran := (SharedCache.use fun setup => occasion.request.act setup occasion.moment).run y
    Evolves y (callsOf ran.effects) ran.state := by
  rcases y.empty_or_of with empty | ⟨setup, s, poisoned, rfl⟩
  · rw [SharedCache.run_use_of_empty _ empty]
    exact .refl alive
  · obtain ⟨log, life⟩ := alive _ _ _ rfl
    have does := Does.step setup life.sound occasion
    simp only [SharedCache.run_use]
    refine .of_continues _ alive does.units_le (.refl _) ?_
    exact .step .here occasion

theorem evolves_exit (world : ω) (walk : Walk (Path × Entry υ)) (policy : ExitPolicy)
    {y : SharedState ω σ κ υ} (alive : y.Alive) :
    let ran := (SharedCache.exit world walk policy).run y
    Evolves y (callsOf ran.effects) ran.state := by
  rcases y.empty_or_of with empty | ⟨setup, s, poisoned, rfl⟩
  · rw [SharedCache.run_exit_of_empty world walk policy empty]
    exact .refl alive
  · cases policy with
    | leak => exact .refl alive
    | dispose =>
      let occasion : Occasion ω υ := ⟨⟨fun _ => .error .notFound, world⟩, .destroy walk⟩
      obtain ⟨log, life⟩ := alive _ _ _ rfl
      have does := Does.step setup life.sound occasion
      have continues := Continues.step (.here : Continues setup s [] s) occasion
      simp only [occasion, Setup.step, Request.act, Act.run_map, List.nil_append] at does continues
      simp only [SharedCache.run_exit_dispose]
      exact .of_continues _ alive does.units_le (.refl _) continues

/-! ## Asking for the cache -/

/-- All that can come of asking for a cache that is not there yet. -/
inductive Obtains (world : ω) (walk : Walk (Path × Entry υ))
    (make : SharedAct ω σ κ υ (Except BuildError (Cache ω σ κ υ))) (y : SharedState ω σ κ υ) :
    Ran (SharedState ω σ κ υ) (Effect κ υ) (Except BuildError Unit) → Prop
  | panicked {payload effects left} (made : make.run y = ⟨.error payload, effects, left⟩) :
      Obtains world walk make y ⟨.error payload, effects, left⟩
  | failed {error effects left} (made : make.run y = ⟨.ok (.error error), effects, left⟩) :
      Obtains world walk make y ⟨.ok (.error error), effects, left⟩
  | filled {cache effects analyzer}
      (made : make.run y = ⟨.ok (.ok cache), effects, ⟨analyzer, .empty⟩⟩) :
      Obtains world walk make y ⟨.ok (.ok ()), effects, ⟨analyzer, ⟨some (.fresh cache)⟩⟩⟩
  | lost {cache effects analyzer winner dropping inner}
      (made : make.run y = ⟨.ok (.ok cache), effects, ⟨analyzer, ⟨some winner⟩⟩⟩)
      (lived : ∃ log, Life cache.setup log ⟨analyzer, cache.context, cache.table⟩)
      (disposed : ∀ log, Life cache.setup log ⟨analyzer, cache.context, cache.table⟩ →
        AllDisposed (log ++ callsOf dropping)) :
      Obtains world walk make y
        ⟨.ok (.ok ()), effects ++ dropping, ⟨{ analyzer with inner }, ⟨some winner⟩⟩⟩

namespace SharedCache

variable {make : SharedAct ω σ κ υ (Except BuildError (Cache ω σ κ υ))} {y : SharedState ω σ κ υ}

theorem obtains_ensure (world : ω) (walk : Walk (Path × Entry υ)) (bears : Bears make)
    (empty : y.shared = .empty) : Obtains world walk make y ((ensure world walk make).run y) := by
  have not_made : y.shared.isMade = false := by
    rw [empty]
    rfl
  rw [ensure, Act.run_bind_of_ok (Act.run_state _)]
  simp only [not_made, Bool.false_eq_true, if_false, List.nil_append]
  have born := bears y
  rcases made : make.run y with ⟨payload | error | cache, effects, analyzer, ⟨slot⟩⟩
  · rw [Act.run_bind_of_panic made]
    exact .panicked made
  · rw [Act.run_bind_of_ok made]
    simp only [Act.run_pure, List.append_nil]
    exact .failed made
  · rw [made] at born
    obtain ⟨log, life⟩ := born cache rfl
    rw [Act.run_bind_of_ok made]
    cases slot with
    | none =>
      have filled : (offer world walk cache).run ⟨analyzer, ⟨none⟩⟩ =
          ⟨.ok (), [], ⟨analyzer, ⟨some (.fresh cache)⟩⟩⟩ := rfl
      rw [Act.run_bind_of_ok filled]
      simp only [Act.run_bind, Act.run_state, Act.andThen_ok, Act.run_pure, List.append_nil]
      exact .filled made
    | some winner =>
      obtain ⟨dropping, inner, dropped, disposed⟩ := cache.run_drop life.sound world walk
      have lost : (offer world walk cache).run ⟨analyzer, ⟨some winner⟩⟩ =
          ⟨.ok (), dropping, ⟨{ analyzer with inner }, ⟨some winner⟩⟩⟩ := by
        rw [offer, Act.run_bind_of_ok (Act.run_state _)]
        simp only [outside, Act.run_onPart, dropped, List.nil_append]
      rw [Act.run_bind_of_ok lost]
      simp only [Act.run_bind, Act.run_state, Act.andThen_ok, Act.run_pure, List.append_nil]
      exact .lost made ⟨log, life⟩ disposed

theorem evolves_ensure (world : ω) (walk : Walk (Path × Entry υ)) (bears : Bears make)
    (alive : y.Alive)
    (makes : Evolves y (callsOf (make.run y).effects) (make.run y).state) :
    Evolves y (callsOf ((ensure world walk make).run y).effects)
      ((ensure world walk make).run y).state := by
  rcases y.empty_or_of with empty | ⟨setup, s, poisoned, rfl⟩
  · have obtains := obtains_ensure world walk bears empty
    have born := bears y
    generalize (ensure world walk make).run y = ran at obtains
    cases obtains with
    | panicked made | failed made => simpa only [made] using makes
    | @filled cache effects analyzer made =>
      rw [made] at makes born
      obtain ⟨log, life⟩ := born cache rfl
      exact .of_empty empty (.of_life life false) makes.grown _
    | @lost cache effects analyzer winner dropping inner made =>
      rw [made] at makes
      -- The drop goes to the analyzer only, which was there for the winner before.
      have winner_alive : SharedState.Alive ⟨analyzer, ⟨some winner⟩⟩ := makes.alive
      have no_new : analyzer.units ≤ ({ analyzer with inner } : AnalyzerState σ).units :=
        Nat.le_refl _
      rw [callsOf_append]
      exact makes.trans (.meanwhile winner_alive no_new _)
  · rw [run_ensure]
    exact .refl alive

end SharedCache

/-! ## Whole programs -/

namespace Program

variable {asks : Bool} {act : SharedAct ω σ κ υ α} {y : SharedState ω σ κ υ}

theorem evolves (program : Program asks act) (alive : y.Alive) :
    Evolves y (callsOf (act.run y).effects) (act.run y).state := by
  induction program generalizing y with
  | pure | raise | look => exact .refl alive
  | @bind _ _ _ act next _ _ first rest =>
    have evolved := first alive
    rw [Act.run_bind]
    rcases ran : act.run y with ⟨payload | a, effects, left⟩
    · rw [ran] at evolved
      exact evolved
    · rw [ran] at evolved
      simp only [Act.andThen_ok, callsOf_append]
      exact evolved.trans (rest a evolved.alive)
  | attempt _ tried => exact tried alive
  | outside grows => exact .meanwhile alive (grows _) _
  | use occasion => exact evolves_use occasion alive
  | exit world walk policy => exact evolves_exit world walk policy alive
  | ensure world walk _ bears makes =>
    exact SharedCache.evolves_ensure world walk bears alive (makes alive)

theorem stays_empty (program : Program false act) (empty : y.shared = .empty) :
    (act.run y).state.shared = .empty := by
  generalize asking : false = asks at program
  induction program generalizing y with
  | pure | raise | look | outside => exact empty
  | @bind _ _ _ act next _ _ first rest =>
    have still := first empty asking
    rw [Act.run_bind]
    rcases ran : act.run y with ⟨payload | a, effects, left⟩
    · rw [ran] at still
      exact still
    · rw [ran] at still
      exact rest a still asking
  | attempt _ tried => exact tried empty asking
  | use occasion =>
    rw [SharedCache.run_use_of_empty _ empty]
    exact empty
  | exit world walk policy =>
    rw [SharedCache.run_exit_of_empty world walk policy empty]
    exact empty
  | ensure => contradiction

end Program

end SourceIndex
