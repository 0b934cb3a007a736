import SourceIndex.Proofs.Cache.Isolation
import SourceIndex.Proofs.Cache.Reports

/-!
# Destroyed caches

A cache without its context has no units either, and it stays as it is. It asks nothing of the
analyzer any more and has nothing to give. Who wants a file from it is told that it is too late,
if the file could have been served at all.
-/

namespace SourceIndex

variable {ω σ κ υ : Type}

/-! ## Too late -/

/-- The response of a cache that has nothing to give. -/
def Request.emptyHanded : Request υ → Response ω υ
  | serve _ _ => .unit none
  | lendAll _ => .units []
  | globalOptions => .options .none
  | prime _ | reprime _ | remove _ | removeAll _ | destroy _ | drop _ | setGlobalOptions _ => .done

/-- An error in the log, and E004 in the inbox if there is one. -/
def destroyedReport (inbox : Option InboxId) (path : Path) : List (Effect κ υ) :=
  .event ⟨.error, "index has been destroyed; cannot parse " ++ path.shown, []⟩ ::
    (inbox.map fun inbox => .diagnostic inbox
      ⟨.error, ⟨.error, 4⟩, "index has been destroyed", some path, [], []⟩).toList

/-- The file is to be indexed and can be read. -/
def Setup.Servable (setup : Setup ω σ κ υ) (moment : Moment ω) (path : Path) : Prop :=
  (∃ args, setup.Provides moment.world path args) ∧ ∃ time, moment.fileTime path = .ok time

/-- All that comes of a request to a cache that was destroyed. -/
structure TooLate (setup : Setup ω σ κ υ) (s : CacheState σ κ υ) (occasion : Occasion ω υ) :
    Prop where
  state : (setup.step s occasion).state = s
  calls : callsOf (setup.step s occasion).effects = []
  result : (setup.step s occasion).result = .ok occasion.request.emptyHanded
  /-- A file that could be served is refused, and that is reported once. -/
  refused : ∀ path force, occasion.request.asks? s.table = some (path, force) →
    setup.Servable occasion.moment path →
    loud (setup.step s occasion).effects = destroyedReport setup.inbox path
  /-- Any other file is refused as by a cache that is still alive, or in any other state. -/
  as_ever : ∀ path force, occasion.request.asks? s.table = some (path, force) →
    ¬ setup.Servable occasion.moment path → ∀ live,
      (setup.serve occasion.moment path force).run live =
        ⟨.ok none, (setup.step s occasion).effects, live⟩
  unasked : occasion.request.asks? s.table = none → (setup.step s occasion).effects = []

/-! ## Nothing to do -/

theorem Walk.arrange_nil {α : Type} (walk : Walk α) : walk.arrange [] = [] :=
  (walk.perm []).eq_nil

def CacheState.destroyed (analyzer : AnalyzerState σ) : CacheState σ κ υ :=
  ⟨analyzer, none, .empty⟩

namespace Setup

variable (setup : Setup ω σ κ υ) (analyzer : AnalyzerState σ)

theorem run_remove_destroyed (world : ω) (path : Path) :
    (setup.remove world path).run (.destroyed analyzer) = ⟨.ok (), [], .destroyed analyzer⟩ := rfl

theorem run_removeAll_destroyed (world : ω) (walk : Walk (Path × Entry υ)) :
    (setup.removeAll world walk).run (.destroyed analyzer) =
      ⟨.ok (), [], .destroyed analyzer⟩ := by
  have nothing_left : walk.arrange (CacheState.destroyed (κ := κ) analyzer).table.entries = [] :=
    walk.arrange_nil
  rw [removeAll, Act.run_bind_of_ok (Act.run_state _), nothing_left]
  rfl

theorem run_destroy_destroyed (world : ω) (walk : Walk (Path × Entry υ)) :
    (setup.destroy world walk).run (.destroyed analyzer) =
      ⟨.ok (), [], .destroyed analyzer⟩ := by
  rw [destroy, Act.run_bind_of_ok (setup.run_removeAll_destroyed analyzer world walk)]
  rfl

theorem run_lendAll_destroyed (walk : Walk (Entry υ)) :
    (setup.lendAll walk).run (.destroyed (κ := κ) analyzer) =
      ⟨.ok [], [], .destroyed analyzer⟩ := by
  have nothing_left : walk.arrange (CacheState.destroyed (κ := κ) analyzer).table.values = [] :=
    walk.arrange_nil
  rw [lendAll, Act.run_bind_of_ok (Act.run_state _), nothing_left]
  rfl

/-! ## Asked for a file -/

variable {setup} {moment : Moment ω} {path : Path} {force : Bool}

theorem servable_iff : setup.Servable moment path ↔
    ∃ args time, setup.argsFor? moment.world path = some args ∧
      moment.fileTime path = .ok time := by
  simp only [Servable, ← argsFor?_eq_some_iff, exists_and_left, exists_and_right]

theorem run_serve_of_not_servable (unservable : ¬ setup.Servable moment path) (force : Bool) :
    ∃ effects, callsOf effects = [] ∧ ∀ live,
      (setup.serve moment path force).run live = ⟨.ok none, effects, live⟩ := by
  cases provided : setup.argsFor? moment.world path with
  | none =>
    refine ⟨setup.announced path "indexing" ++ [.event (.about path .trace "not indexable")],
      by simp, fun live => ?_⟩
    rw [serve, Act.run_bind_of_ok (setup.run_announce path _ live)]
    simp only [provided]
    rfl
  | some args =>
    cases read : moment.fileTime path with
    | ok time => exact absurd (servable_iff.2 ⟨args, time, provided, read⟩) unservable
    | error fault =>
      refine ⟨setup.announced path "indexing" ++ setup.told .error (.unreadable path fault),
        by simp, fun live => ?_⟩
      rw [serve, Act.run_bind_of_ok (setup.run_announce path _ live)]
      simp only [provided, read, run_fail]

theorem run_serve_destroyed {args : List String} {time : FileTime}
    (indexable : setup.argsFor? moment.world path = some args)
    (readable : moment.fileTime path = .ok time) :
    (setup.serve moment path force).run (.destroyed analyzer) =
      ⟨.ok none, setup.announced path "indexing" ++ setup.told .error (.destroyed path),
        .destroyed analyzer⟩ := by
  have refused : (setup.parseAnew moment.world path args time).run (.destroyed analyzer) =
      ⟨.ok none, setup.told .error (.destroyed path), .destroyed analyzer⟩ := by
    rw [parseAnew, Act.run_bind_of_ok (setup.run_remove_destroyed analyzer moment.world path),
      Act.run_bind_of_ok (Act.run_state _)]
    simp only [CacheState.destroyed, run_fail, List.nil_append]
  rw [serve, Act.run_bind_of_ok (setup.run_announce path _ _)]
  simp only [indexable, readable]
  -- Nothing is cached, so whatever is asked for has to be parsed.
  rw [Act.run_bind_of_ok (Act.run_state _)]
  simp only [CacheState.destroyed, SortedTable.find?_empty, Action.needed, List.nil_append]
    at refused ⊢
  rw [refused]

/-! ## Every request -/

theorem step_destroyed_of_unasked (setup : Setup ω σ κ υ) {occasion : Occasion ω υ}
    (unasked : occasion.request.asks? (.empty : PathTable (Entry υ)) = none) :
    setup.step (.destroyed analyzer) occasion =
      ⟨.ok occasion.request.emptyHanded, [], .destroyed analyzer⟩ := by
  obtain ⟨moment, request⟩ := occasion
  unfold step
  cases request with
  | serve | prime => cases unasked
  | removeAll walk =>
    simp only [Request.act, Act.run_map, setup.run_removeAll_destroyed analyzer]
    rfl
  | destroy walk =>
    simp only [Request.act, Act.run_map, setup.run_destroy_destroyed analyzer]
    rfl
  | drop walk =>
    have sound : Sound (.destroyed analyzer : CacheState σ κ υ) :=
      ⟨by simp [CacheState.destroyed, SortedTable.empty], by simp [CacheState.destroyed],
        by simp [CacheState.destroyed, SortedTable.empty]⟩
    simp only [Request.act, Act.run_map, setup.run_letGo moment.world walk sound,
      setup.run_destroy_destroyed analyzer]
    rfl
  | lendAll walk =>
    simp only [Request.act, Act.run_map, setup.run_lendAll_destroyed analyzer]
    rfl
  | reprime | remove | globalOptions | setGlobalOptions => rfl

theorem step_destroyed_of_asks (setup : Setup ω σ κ υ) {occasion : Occasion ω υ}
    {effects : List (Effect κ υ)}
    (asks : occasion.request.asks? (.empty : PathTable (Entry υ)) = some (path, force))
    (ran : (setup.serve occasion.moment path force).run (.destroyed analyzer) =
      ⟨.ok none, effects, .destroyed analyzer⟩) :
    setup.step (.destroyed analyzer) occasion =
      ⟨.ok occasion.request.emptyHanded, effects, .destroyed analyzer⟩ := by
  obtain ⟨moment, request⟩ := occasion
  unfold step
  cases request with
  | serve other forced =>
    cases asks
    simp only [Request.act, Act.run_map, ran]
    rfl
  | prime other =>
    cases asks
    have unknown : (CacheState.destroyed analyzer : CacheState σ κ υ).table.contains path =
        false := rfl
    simp only [Request.act, Act.run_map, setup.run_prime_of_unknown moment unknown, ran]
    rfl
  | _ => cases asks

theorem tooLate (setup : Setup ω σ κ υ) (occasion : Occasion ω υ) :
    TooLate setup (.destroyed analyzer) occasion := by
  cases asks : occasion.request.asks? (.empty : PathTable (Entry υ)) with
  | none =>
    have unasked {path : Path} {force : Bool}
        (asked : occasion.request.asks? (.empty : PathTable (Entry υ)) = some (path, force)) :
        False := by simp [asks] at asked
    have ran := step_destroyed_of_unasked analyzer setup asks
    exact ⟨by rw [ran], by rw [ran]; rfl, by rw [ran], fun _ _ asked => (unasked asked).elim,
      fun _ _ asked => (unasked asked).elim, fun _ => by rw [ran]⟩
  | some asked =>
    obtain ⟨path, force⟩ := asked
    have unique {path' : Path} {force' : Bool}
        (asked : occasion.request.asks? (.empty : PathTable (Entry υ)) = some (path', force')) :
        path' = path ∧ force' = force := by simpa [asks, eq_comm] using asked
    have always_asked : occasion.request.asks? (.empty : PathTable (Entry υ)) ≠ none := by
      simp [asks]
    by_cases servable : setup.Servable occasion.moment path
    · obtain ⟨args, time, indexable, readable⟩ := servable_iff.1 servable
      have ran := step_destroyed_of_asks analyzer setup asks
        (run_serve_destroyed analyzer indexable readable)
      refine ⟨by rw [ran], by rw [ran]; simp, by rw [ran], ?_, ?_,
        fun unasked => absurd unasked always_asked⟩
      · intro path' force' asked _
        obtain ⟨rfl, rfl⟩ := unique asked
        rw [ran, loud_append, loud_announced, List.nil_append]
        unfold told destroyedReport
        cases setup.inbox <;> rfl
      · intro path' force' asked unservable
        obtain ⟨rfl, rfl⟩ := unique asked
        exact absurd servable unservable
    · obtain ⟨effects, no_calls, served⟩ := run_serve_of_not_servable servable force
      have ran := step_destroyed_of_asks analyzer setup asks (served _)
      refine ⟨by rw [ran], by rw [ran]; exact no_calls, by rw [ran], ?_, ?_,
        fun unasked => absurd unasked always_asked⟩
      · intro path' force' asked servable'
        obtain ⟨rfl, rfl⟩ := unique asked
        exact absurd servable' servable
      · intro path' force' asked _ live
        obtain ⟨rfl, rfl⟩ := unique asked
        rw [ran, served live]

theorem after_destroyed (setup : Setup ω σ κ υ) (occasions : List (Occasion ω υ)) :
    setup.after (.destroyed analyzer) occasions = .destroyed analyzer ∧
      ∀ visit ∈ setup.visits (.destroyed analyzer) occasions, visit.1 = .destroyed analyzer := by
  induction occasions with
  | nil => exact ⟨rfl, by simp [visits]⟩
  | cons occasion rest ih =>
    simpa [after, visits, (tooLate analyzer setup occasion).state] using ih

end Setup

/-! ## For good -/

theorem Reachable.eq_destroyed {setup : Setup ω σ κ υ} {s : CacheState σ κ υ}
    (reachable : Reachable setup s) (gone : s.context = none) : s = .destroyed s.analyzer := by
  obtain ⟨log, books⟩ := reachable.books
  have empty : s.table = .empty :=
    SortedTable.ext_entries (books.entries_of_gone reachable.sound gone)
  obtain ⟨analyzer, context, table⟩ := s
  obtain rfl : context = none := gone
  obtain rfl : table = .empty := empty
  rfl

/-- Whatever a destroyed cache is asked, it asks nothing of the analyzer, has nothing to give and
stays as it is. -/
theorem destroyed_stays_silent {setup : Setup ω σ κ υ} {s : CacheState σ κ υ}
    (reachable : Reachable setup s) (gone : s.context = none) :
    s.table = .empty ∧ ∀ occasions,
      let left : Cache ω σ κ υ :=
        ⟨setup, (setup.after s occasions).context, (setup.after s occasions).table⟩
      left.isDestroyed ∧ left.length = 0 ∧ callLog (setup.history s occasions) = [] ∧
        ∀ visit ∈ setup.visits s occasions, TooLate setup visit.1 visit.2 := by
  rw [reachable.eq_destroyed gone]
  refine ⟨rfl, fun occasions => ?_⟩
  obtain ⟨same, visited⟩ := Setup.after_destroyed s.analyzer setup occasions
  have too_late : ∀ visit ∈ setup.visits (.destroyed s.analyzer) occasions,
      TooLate setup visit.1 visit.2 := by
    intro visit mem
    rw [visited visit mem]
    exact Setup.tooLate s.analyzer setup visit.2
  rw [same]
  refine ⟨rfl, rfl, ?_, too_late⟩
  rw [callLog, setup.history_eq_visits, List.flatMap_map]
  exact List.flatMap_eq_nil_iff.2 fun visit mem => (too_late visit mem).calls

/-- Two requests come too late for their files, and nobody hears of the others. -/
theorem destroyed_stays_silent_when_asked_again :
    let plan := Blueprint.ofClauses
      [.provider fun _ path => if path = .ofText "notes" then [] else ["-w"]]
    let setup := plan.setup (Simulation.scripted id)
    let time : FileTime := ⟨0, by decide, by decide⟩
    let s := setup.after Scripted.start
      [Scripted.occasion time .empty (.serve (.ofText "a") false),
        Scripted.occasion time .empty (.destroy .inOrder)]
    let again := [Scripted.occasion time .empty (.serve (.ofText "a") true),
      Scripted.occasion time .empty (.prime (.ofText "b")),
      Scripted.occasion time .empty (.prime (.ofText "notes")),
      Scripted.occasion time .empty (.reprime (.ofText "a")),
      Scripted.occasion time .empty .globalOptions,
      Scripted.occasion time .empty (.drop .inOrder)]
    let steps := setup.history s again
    s.context = none ∧ steps.map (fun step => loud step.ran.effects) =
        [destroyedReport none (.ofText "a"), destroyedReport none (.ofText "b"), [], [], [], []] ∧
      callLog steps = [] ∧ ∀ visit ∈ setup.visits s again, TooLate setup visit.1 visit.2 := by
  intro plan setup time s again steps
  have opened : Opened setup Scripted.built Scripted.start :=
    ⟨plan, .empty, _, .start .start, _, rfl, rfl, rfl, rfl, rfl⟩
  have reachable : Reachable setup s := ⟨_, _, _, opened, rfl⟩
  have gone : s.context = none := rfl
  obtain ⟨-, -, no_calls, too_late⟩ := (destroyed_stays_silent reachable gone).2 again
  exact ⟨gone, by decide +kernel +zetaReduce, no_calls, too_late⟩

end SourceIndex
