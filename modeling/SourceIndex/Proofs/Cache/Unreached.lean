import SourceIndex.Proofs.Cache.Fallbacks
import SourceIndex.Proofs.Cache.OneCache

/-!
# Fallbacks are never reached

Whatever a cache could fall back on, it does the same without. It holds all that it owns, finds the
entries that it has just seen, keeps a unit only once the old one is gone, and hands back everything
on purpose.
-/

namespace SourceIndex

variable {ω σ κ υ : Type}

/-! ## Actions that come to the same -/

namespace Act

variable {ε α β : Type}

theorem run_bind_congr {act act' : Act σ ε α} {next next' : α → Act σ ε β} {s : σ}
    (first : act.run s = act'.run s)
    (rest : ∀ a, (act.run s).result = .ok a →
      (next a).run (act.run s).state = (next' a).run (act.run s).state) :
    (act >>= next).run s = (act' >>= next').run s := by
  rw [run_bind, run_bind, ← first]
  rcases ran : act.run s with ⟨payload | a, effects, left⟩
  · rfl
  · rw [ran] at rest
    simp only [andThen_ok, rest a rfl]

theorem run_state_bind_congr {next next' : σ → Act σ ε β} {s : σ}
    (rest : (next s).run s = (next' s).run s) :
    (state >>= next).run s = (state >>= next').run s := by
  apply run_bind_congr rfl
  rintro _ ⟨⟩
  exact rest

theorem each_congr {act act' : α → Act σ ε Unit} {list : List α}
    (same : ∀ a ∈ list, act a = act' a) : each act list = each act' list := by
  induction list with
  | nil => rfl
  | cons a rest ih =>
    obtain ⟨first, others⟩ := List.forall_mem_cons.1 same
    rw [each, each, first, ih others]

theorem mapM_congr {act act' : α → Act σ ε β} {list : List α}
    (same : ∀ a ∈ list, act a = act' a) : list.mapM act = list.mapM act' := by
  induction list with
  | nil => rfl
  | cons a rest ih =>
    obtain ⟨first, others⟩ := List.forall_mem_cons.1 same
    rw [List.mapM_cons, List.mapM_cons, first, ih others]

end Act

/-! ## Requests with other fallbacks -/

namespace Fallbacks

variable {fallbacks : Fallbacks ω σ κ υ} {setup : Setup ω σ κ υ} {s : CacheState σ κ υ}
  {path : Path} {entry : Entry υ}

theorem lendEntry_of_held (held : ∃ unit, entry.unit = .hold unit) :
    fallbacks.lendEntry setup entry = setup.lendEntry entry := by
  obtain ⟨unit, held⟩ := held
  unfold lendEntry Setup.lendEntry
  rw [held]
  rfl

theorem run_lend (found : s.table.find? path = some entry)
    (held : ∃ unit, entry.unit = .hold unit) :
    (fallbacks.lend setup path).run s = (setup.lend path).run s := by
  unfold lend Setup.lend
  apply Act.run_state_bind_congr
  simp only [found, lendEntry_of_held held]

theorem run_lendAll (sound : Sound s) (walk : Walk (Entry υ)) :
    (fallbacks.lendAll setup walk).run s = (setup.lendAll walk).run s := by
  unfold lendAll Setup.lendAll
  apply Act.run_state_bind_congr
  rw [Act.mapM_congr]
  intro entry mem
  obtain ⟨cached, known, rfl⟩ := List.mem_map.1 ((walk.perm _).mem_iff.1 mem)
  exact lendEntry_of_held (sound.unit_held cached known)

/-! ### Disposing -/

theorem disposeEntry_of_held (held : ∃ unit, entry.unit = .hold unit) (world : ω) :
    fallbacks.disposeEntry setup world entry = setup.disposeEntry world entry := by
  obtain ⟨unit, held⟩ := held
  unfold disposeEntry Setup.disposeEntry
  rw [held]
  rfl

theorem run_remove (sound : Sound s) (world : ω) (path : Path) :
    (fallbacks.remove setup world path).run s = (setup.remove world path).run s := by
  unfold remove Setup.remove
  apply Act.run_state_bind_congr
  cases found : s.table.find? path with
  | none => rfl
  | some entry => simp only [disposeEntry_of_held (sound.found found).1]

theorem run_removeAll (sound : Sound s) (world : ω) (walk : Walk (Path × Entry υ)) :
    (fallbacks.removeAll setup world walk).run s = (setup.removeAll world walk).run s := by
  unfold removeAll Setup.removeAll
  apply Act.run_state_bind_congr
  rw [Act.each_congr]
  intro cached mem
  have held := sound.unit_held cached ((walk.perm _).mem_iff.1 mem)
  rw [disposeCached, Setup.disposeCached, disposeEntry_of_held held]

theorem run_destroy (sound : Sound s) (world : ω) (walk : Walk (Path × Entry υ)) :
    (fallbacks.destroy setup world walk).run s = (setup.destroy world walk).run s := by
  unfold destroy Setup.destroy
  apply Act.run_bind_congr (run_removeAll sound world walk)
  intro _ _
  obtain ⟨pieces, inner, ran, -⟩ := setup.run_removeAll world walk sound
  rw [run_removeAll sound world walk, ran]
  apply Act.run_state_bind_congr
  cases alive : s.context with
  | none => rfl
  | some owned =>
    obtain ⟨context, rfl⟩ := sound.context_held owned alive
    rfl

theorem run_drop {cache : Cache ω σ κ υ} {analyzer : AnalyzerState σ}
    (sound : Sound ⟨analyzer, cache.context, cache.table⟩) (world : ω)
    (walk : Walk (Path × Entry υ)) :
    (fallbacks.drop cache world walk).run analyzer = (cache.drop world walk).run analyzer := by
  unfold drop Cache.drop
  apply Act.run_bind_congr
  · simp only [Cache.run, run_destroy sound]
  · exact fun _ _ => rfl

theorem run_letGo (sound : Sound s) (world : ω) (walk : Walk (Path × Entry υ)) :
    (fallbacks.letGo setup world walk).run s = (setup.letGo world walk).run s := by
  let cache : Cache ω σ κ υ := ⟨setup, s.context, s.table⟩
  have same : (fallbacks.drop cache world walk).run s.analyzer =
      (cache.drop world walk).run s.analyzer := run_drop sound world walk
  simp only [letGo, Setup.letGo, cache, same]

/-! ### Serving -/

theorem run_refresh (found : s.table.find? path = some entry)
    (held : ∃ unit, entry.unit = .hold unit) (world : ω) (time : FileTime) (reason : String) :
    (fallbacks.refresh setup world path time reason).run s =
      (setup.refresh world path time reason).run s := by
  obtain ⟨unit, held⟩ := held
  unfold refresh Setup.refresh
  apply Act.run_bind_congr rfl
  intro _ _
  rw [setup.run_announce]
  apply Act.run_state_bind_congr
  simp only [found, held, unitOf, Owned.held_hold, Owned.get_hold, pure_bind]
  apply Act.run_bind_congr rfl
  rintro ⟨after, answer⟩ -
  cases answer with
  | fault | panic => rfl
  | value =>
    apply Act.run_bind_congr rfl
    intro _ _
    apply Act.run_bind_congr rfl
    intro _ _
    exact run_lend (s.table.find?_insert_of_same _ (SameKey.refl path)) ⟨_, rfl⟩

theorem run_store (unknown : s.table.find? path = none) :
    (fallbacks.store path entry).run s =
      ⟨.ok (), [], { s with table := s.table.insert path entry }⟩ := by
  unfold store
  rw [Act.run_bind_of_ok (Act.run_state s)]
  simp only [unknown]
  rfl

theorem run_parseAnew (sound : Sound s) (world : ω) (path : Path) (args : List String)
    (time : FileTime) :
    (fallbacks.parseAnew setup world path args time).run s =
      (setup.parseAnew world path args time).run s := by
  unfold parseAnew Setup.parseAnew
  apply Act.run_bind_congr (run_remove sound world path)
  intro _ _
  obtain ⟨inner, left⟩ := (setup.removes_remove sound world path).state_eq
  rw [run_remove sound world path, left]
  apply Act.run_state_bind_congr
  cases alive : s.context with
  | none => rfl
  | some owned =>
    obtain ⟨context, rfl⟩ := sound.context_held owned alive
    simp only [contextOf, Owned.held_hold, Owned.get_hold, pure_bind]
    apply Act.run_bind_congr rfl
    intro _ _
    rw [setup.run_announce]
    apply Act.run_bind_congr rfl
    rintro (message | unit) -
    · rfl
    · have unknown := s.table.find?_erase_of_same (SameKey.refl path)
      rw [← store_asWritten setup world]
      apply Act.run_bind_congr ((run_store unknown).trans (run_store unknown).symm)
      intro _ _
      rw [run_store unknown]
      apply Act.run_bind_congr rfl
      intro _ _
      exact run_lend (SortedTable.find?_insert_of_same _ _ (SameKey.refl path)) ⟨_, rfl⟩

theorem run_serve (sound : Sound s) (moment : Moment ω) (path : Path) (force : Bool) :
    (fallbacks.serve setup moment path force).run s = (setup.serve moment path force).run s := by
  unfold serve Setup.serve
  apply Act.run_bind_congr rfl
  intro _ _
  rw [setup.run_announce]
  cases setup.argsFor? moment.world path with
  | none => rfl
  | some args =>
    cases moment.fileTime path with
    | error fault => rfl
    | ok time =>
      apply Act.run_state_bind_congr
      -- Whatever does not parse the file anew has found its entry.
      cases found : s.table.find? path with
      | none => exact run_parseAnew sound moment.world path args time
      | some entry =>
        have held := (sound.found found).1
        cases Action.needed (some entry) args time force with
        | hit =>
          apply Act.run_bind_congr rfl
          intro _ _
          exact run_lend found held
        | forcedReparse => exact run_refresh found held moment.world time _
        | changedOnDisk => exact run_refresh found held moment.world time _
        | rebuild => exact run_parseAnew sound moment.world path args time

theorem run_prime (sound : Sound s) (moment : Moment ω) (path : Path) :
    (fallbacks.prime setup moment path).run s = (setup.prime moment path).run s := by
  unfold prime Setup.prime
  apply Act.run_state_bind_congr
  split
  · rfl
  · rw [Act.run_discard, Act.run_discard, run_serve sound]

theorem run_reprime (sound : Sound s) (moment : Moment ω) (path : Path) :
    (fallbacks.reprime setup moment path).run s = (setup.reprime moment path).run s := by
  unfold reprime Setup.reprime
  apply Act.run_state_bind_congr
  split
  · rw [Act.run_discard, Act.run_discard, run_serve sound]
  · rfl

/-! ### All requests -/

theorem run_globalOptions (sound : Sound s) (world : ω) :
    (fallbacks.globalOptions setup world).run s = (setup.globalOptions world).run s := by
  unfold globalOptions Setup.globalOptions
  apply Act.run_state_bind_congr
  cases alive : s.context with
  | none => rfl
  | some owned =>
    obtain ⟨context, rfl⟩ := sound.context_held owned alive
    rfl

theorem run_setGlobalOptions (sound : Sound s) (world : ω) (options : GlobalOptions) :
    (fallbacks.setGlobalOptions setup world options).run s =
      (setup.setGlobalOptions world options).run s := by
  unfold setGlobalOptions Setup.setGlobalOptions
  apply Act.run_state_bind_congr
  cases alive : s.context with
  | none => rfl
  | some owned =>
    obtain ⟨context, rfl⟩ := sound.context_held owned alive
    rfl

/-- A request to a sound cache never gets to what the cache could fall back on. -/
theorem run_act (sound : Sound s) (occasion : Occasion ω υ) :
    (fallbacks.act setup occasion.moment occasion.request).run s = setup.step s occasion := by
  obtain ⟨moment, request⟩ := occasion
  unfold Setup.step
  cases request with
  | serve path force => simp only [act, Request.act, Act.run_map, run_serve sound]
  | prime path => simp only [act, Request.act, Act.run_map, run_prime sound]
  | reprime path => simp only [act, Request.act, Act.run_map, run_reprime sound]
  | remove path => simp only [act, Request.act, Act.run_map, run_remove sound]
  | removeAll walk => simp only [act, Request.act, Act.run_map, run_removeAll sound]
  | destroy walk => simp only [act, Request.act, Act.run_map, run_destroy sound]
  | drop walk => simp only [act, Request.act, Act.run_map, run_letGo sound]
  | lendAll walk => simp only [act, Request.act, Act.run_map, run_lendAll sound]
  | globalOptions => simp only [act, Request.act, Act.run_map, run_globalOptions sound]
  | setGlobalOptions options =>
    simp only [act, Request.act, Act.run_map, run_setGlobalOptions sound]

theorem history_eq (sound : Sound s) (fallbacks : ω → Fallbacks ω σ κ υ)
    (occasions : List (Occasion ω υ)) :
    history setup fallbacks s occasions = setup.history s occasions := by
  induction occasions generalizing s with
  | nil => rfl
  | cons occasion rest ih =>
    have sound' := (Does.step setup sound occasion).sound sound
    simp only [history, Setup.history, run_act sound, ih sound']

end Fallbacks

/-! ## Handing back on purpose -/

/-- Nothing was handed back by dropping it. -/
def Call.OnPurpose : Call κ υ → Prop
  | .disposeUnit _ release _ | .disposeContext _ release _ => release = .explicit
  | _ => True

theorem Disposes.onPurpose {list : List (Path × Entry υ)} {calls : List (Call κ υ)}
    (disposes : List.Forall₂ Disposes list calls) : ∀ call ∈ calls, call.OnPurpose := by
  induction disposes with
  | nil => simp
  | cons first _ ih =>
    obtain ⟨unit, answer, -, rfl⟩ := first
    exact List.forall_mem_cons.2 ⟨rfl, ih⟩

section

variable {setup : Setup ω σ κ υ} {s s' : CacheState σ κ υ} {path : Path}

theorem Setup.Removes.onPurpose {world : ω} {ran : Ran (CacheState σ κ υ) (Effect κ υ) Unit}
    (removes : setup.Removes world path s ran) :
    ∀ call ∈ callsOf ran.effects, call.OnPurpose := by
  cases removes with
  | absent => simp
  | present => simp [Call.OnPurpose]

theorem Setup.Serves.onPurpose {moment : Moment ω} {force : Bool}
    {ran : Ran (CacheState σ κ υ) (Effect κ υ) (Option (LentUnit ω υ))}
    (serves : setup.Serves moment path force s ran) :
    ∀ call ∈ callsOf ran.effects, call.OnPurpose := by
  cases serves with
  | unindexable | unreadable | hit => simp
  | refreshed indexable readable found held stale refreshes =>
    cases refreshes <;> simp [Call.OnPurpose]
  | rebuilt indexable readable outdated parses =>
    cases parses with
    | destroyed removes => simpa using removes.onPurpose
    | parsed removes | failed removes | panicked removes =>
      simpa [or_imp, forall_and, Call.OnPurpose] using removes.onPurpose

theorem Does.onPurpose {occasion : Occasion ω υ} {effects : List (Effect κ υ)}
    (does : Does setup occasion s effects s') :
    ∀ call ∈ callsOf effects, call.OnPurpose := by
  cases does with
  | nothing => simp
  | served asks serves => exact serves.onPurpose
  | removed removes => exact removes.onPurpose
  | cleared disposals => exact Disposes.onPurpose (setup.disposes_of_disposals disposals)
  | closed alive disposals =>
    have disposed := Disposes.onPurpose (setup.disposes_of_disposals disposals)
    simpa [or_imp, forall_and, Call.OnPurpose] using disposed
  | read | set => simp [Call.OnPurpose]

theorem Continues.onPurpose {log : List (Call κ υ)} (continues : Continues setup s log s')
    (sound : Sound s) : ∀ call ∈ log, call.OnPurpose := by
  induction continues with
  | here => simp
  | step earlier occasion ih =>
    have does := Does.step setup (earlier.sound sound) occasion
    exact List.forall_mem_append.2 ⟨ih, does.onPurpose⟩
  | meanwhile _ _ ih => exact ih

theorem Life.onPurpose {log : List (Call κ υ)} (life : Life setup log s) :
    ∀ call ∈ log, call.OnPurpose := by
  obtain ⟨built, start, more, opened, continues, rfl⟩ := life
  obtain ⟨context, options, set, -, -, rfl, only_set⟩ := opened.spec
  refine List.forall_mem_append.2 ⟨List.forall_mem_cons.2 ⟨trivial, ?_⟩,
    continues.onPurpose opened.sound⟩
  intro call mem
  obtain ⟨options, rfl⟩ := only_set call mem
  trivial

end

/-! ## What is never reached -/

/-- Nothing that a cache could fall back on is reached from here, and nothing was handed back but on
purpose. -/
structure NeverFallsBack (setup : Setup ω σ κ υ) (log : List (Call κ υ)) (s : CacheState σ κ υ) :
    Prop where
  units_held : ∀ cached ∈ s.table.entries, ∃ unit, cached.2.unit = .hold unit
  context_held : ∀ owned, s.context = some owned → ∃ context, owned = .hold context
  same_runs : ∀ fallbacks occasions,
    Fallbacks.history setup fallbacks s occasions = setup.history s occasions
  same_drop : ∀ (fallbacks : Fallbacks ω σ κ υ) world walk,
    (fallbacks.drop ⟨setup, s.context, s.table⟩ world walk).run s.analyzer =
      (Cache.drop ⟨setup, s.context, s.table⟩ world walk).run s.analyzer
  /-- Once the cache is destroyed it has nothing left to be dropped. -/
  emptied : ∀ world walk, ∃ effects analyzer,
    (setup.destroy world walk).run s = ⟨.ok (), effects, ⟨analyzer, none, .empty⟩⟩
  on_purpose : ∀ call ∈ log, call.OnPurpose

theorem Life.neverFallsBack {setup : Setup ω σ κ υ} {log : List (Call κ υ)}
    {s : CacheState σ κ υ} (life : Life setup log s) : NeverFallsBack setup log s where
  units_held := life.sound.unit_held
  context_held := life.sound.context_held
  same_runs := Fallbacks.history_eq life.sound
  same_drop _ world walk := Fallbacks.run_drop life.sound world walk
  emptied world walk := by
    obtain ⟨pieces, last, inner, ran, -⟩ := setup.run_destroy world walk life.sound
    exact ⟨_, _, ran⟩
  on_purpose := life.onPurpose

theorem SharedState.Alive.run_use_congr {y : SharedState ω σ κ υ} (alive : y.Alive) {α : Type}
    {act act' : Setup ω σ κ υ → CacheAct σ κ υ α}
    (same : ∀ setup s, Sound s → (act setup).run s = (act' setup).run s) :
    (SharedCache.use act).run y = (SharedCache.use act').run y := by
  rcases y.empty_or_of with empty | ⟨setup, s, poisoned, rfl⟩
  · rw [SharedCache.run_use_of_empty act empty, SharedCache.run_use_of_empty act' empty]
  · obtain ⟨log, life⟩ := alive _ _ _ rfl
    rw [SharedCache.run_use, SharedCache.run_use, same setup s life.sound]

/-- All that can be done with the shared cache, other than to ask for it. -/
structure NeverFallsBackBehindLock (y : SharedState ω σ κ υ) : Prop where
  lives : ∀ setup s poisoned, y = .of setup s poisoned → ∃ log, Life setup log s
  same_use : ∀ (fallbacks : Fallbacks ω σ κ υ) (occasion : Occasion ω υ),
    (SharedCache.use fun setup => fallbacks.act setup occasion.moment occasion.request).run y =
      (SharedCache.use fun setup => occasion.request.act setup occasion.moment).run y
  same_end : ∀ (fallbacks : Fallbacks ω σ κ υ) world walk,
    (SharedCache.use fun setup => fallbacks.destroy setup world walk).run y =
      (SharedCache.use fun setup => setup.destroy world walk).run y

theorem SharedState.Alive.neverFallsBack {y : SharedState ω σ κ υ} (alive : y.Alive) :
    NeverFallsBackBehindLock y where
  lives := alive
  same_use _ occasion := alive.run_use_congr fun _ _ sound => Fallbacks.run_act sound occasion
  same_end _ world walk :=
    alive.run_use_congr fun _ _ sound => Fallbacks.run_destroy sound world walk

/-- With its own fallbacks a cache does what it does with any others, be it on its own or shared,
and however the analyzer answered before. -/
theorem fallbacks_are_never_reached {α : Type} {asks : Bool} {act : SharedAct ω σ κ υ α}
    (program : Program asks act) (start : AnalyzerState σ) :
    (∀ (setup : Setup ω σ κ υ) moment request,
      (Fallbacks.asWritten setup.analyzer moment.world).act setup moment request =
        request.act setup moment) ∧
    (∀ (setup : Setup ω σ κ υ) log s, Life setup log s → NeverFallsBack setup log s) ∧
    NeverFallsBackBehindLock (act.run ⟨start, .empty⟩).state := by
  have nothing_yet : SharedState.Alive (⟨start, .empty⟩ : SharedState ω σ κ υ) := .of_empty rfl
  exact ⟨fun setup => Fallbacks.act_asWritten setup, fun _ _ _ life => life.neverFallsBack,
    (program.evolves nothing_yet).alive.neverFallsBack⟩

/-- The first request panicked behind the lock. Whatever the cache could fall back on, the second one
parses the file. -/
theorem fallbacks_are_never_reached_after_panic :
    let opening := Blueprint.blank.opening Scripted.setup.analyzer .empty
    let time : FileTime := ⟨0, by decide, by decide⟩
    let panicking := Simulation.Script.empty.set .parse (some ⟨.panic .unreadable, none⟩)
    let first := Scripted.occasion time panicking (.serve (.ofText "a") false)
    let second := Scripted.occasion time .empty (.serve (.ofText "a") false)
    let act := SharedCache.obtain .empty .inOrder opening >>= fun _ =>
      Act.attempt (SharedCache.use fun setup => first.request.act setup first.moment)
    let y := (act.run ⟨.start .start, .empty⟩).state
    Program true act ∧ y.shared.slot.map (·.poisoned) = some true ∧
      ∀ fallbacks : Fallbacks _ _ _ _, callsOf ((SharedCache.use fun setup =>
          fallbacks.act setup second.moment second.request).run y).effects =
        [.parse ⟨0, ⟨0⟩⟩ (.ofText "a") [] [] (.value ⟨0, ⟨0, 0⟩⟩)] := by
  intro opening time panicking first second act y
  have builds : opening.Builds := Blueprint.builds_opening _ _ _
  have program : Program true act :=
    .bind (Opening.Builds.obtain _ _ builds) fun _ => .attempt (.use first)
  refine ⟨program, by decide +kernel +zetaReduce, fun fallbacks => ?_⟩
  rw [(fallbacks_are_never_reached program _).2.2.same_use fallbacks second]
  decide +kernel +zetaReduce

end SourceIndex
