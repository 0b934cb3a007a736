import SourceIndex.Cache.Shared
import SourceIndex.Proofs.Cache.Failures
import SourceIndex.Proofs.Cache.Panics

/-!
# Panics behind the lock

A panic while the shared cache is used poisons its lock. Nothing comes of that: whatever the
cache is asked later, it does what it would have done after a refusal.
-/

namespace SourceIndex

variable {ω σ κ υ α : Type}

/-! ## Requests to the shared cache -/

/-- What can be asked where there is a shared cache. -/
inductive SharedRequest (ω σ κ υ : Type) where
  | use (occasion : Occasion ω υ)
  | obtain (world : ω) (walk : Walk (Path × Entry υ)) (opening : Opening ω σ κ υ)
  | exit (world : ω) (walk : Walk (Path × Entry υ)) (policy : ExitPolicy)

inductive SharedResponse (ω υ : Type) where
  | used (response : Option (Response ω υ))
  | obtained (made : Except BuildError Unit)
  | exited (disposed : Bool)

namespace SharedRequest

def act : SharedRequest ω σ κ υ → SharedAct ω σ κ υ (SharedResponse ω υ)
  | use occasion =>
    .used <$> SharedCache.use fun setup => occasion.request.act setup occasion.moment
  | obtain world walk opening => .obtained <$> SharedCache.obtain world walk opening
  | exit world walk policy => .exited <$> SharedCache.exit world walk policy

def servedPath? : SharedRequest ω σ κ υ → Option Path
  | use occasion => occasion.request.servedPath?
  | obtain _ _ _ | exit _ _ _ => none

/-- The response when the cache could not serve the file of the request. -/
def unserved : SharedRequest ω σ κ υ → SharedResponse ω υ
  | use occasion => .used (some occasion.request.unserved)
  | obtain _ _ _ | exit _ _ _ => .used none

end SharedRequest

structure SharedStep (ω σ κ υ : Type) where
  request : SharedRequest ω σ κ υ
  ran : Ran (SharedState ω σ κ υ) (Effect κ υ) (SharedResponse ω υ)

def sharedHistory (x : SharedState ω σ κ υ) :
    List (SharedRequest ω σ κ υ) → List (SharedStep ω σ κ υ)
  | [] => []
  | request :: rest => ⟨request, request.act.run x⟩ :: sharedHistory (request.act.run x).state rest

/-! ## One request -/

/-- The shared cache has this setup, and is in this state. -/
def SharedState.of (setup : Setup ω σ κ υ) (s : CacheState σ κ υ) (poisoned : Bool) :
    SharedState ω σ κ υ :=
  ⟨s.analyzer, ⟨some ⟨⟨setup, s.context, s.table⟩, poisoned⟩⟩⟩

/-- The lock may be poisoned in one state only, and the second analyzer may be another one. -/
def SharedState.Alike (setup setup' : Setup ω σ κ υ) (x x' : SharedState ω σ κ υ) : Prop :=
  ∃ s poisoned poisoned', x = .of setup s poisoned ∧ x' = .of setup' s poisoned'

variable {setup : Setup ω σ κ υ} {analyzer' : Analyzer ω σ κ υ}

theorem SharedCache.run_use (act : Setup ω σ κ υ → CacheAct σ κ υ α) (setup : Setup ω σ κ υ)
    (s : CacheState σ κ υ) (poisoned : Bool) :
    (SharedCache.use act).run (.of setup s poisoned) =
      ⟨((act setup).run s).result.map some, ((act setup).run s).effects,
        .of setup ((act setup).run s).state (poisoned || !((act setup).run s).result.isOk)⟩ := by
  rw [use, Act.run_bind_of_ok (Act.run_state _)]
  simp only [SharedState.of, Locked.enter, outside, Cache.run, setSlot, Act.run_bind,
    Act.run_onPart, Act.andThen_ok, Act.run_modify, Locked.leave, Act.run_map]
  obtain ⟨result, effects, left⟩ := (act setup).run s
  cases result <;> simp [Act.resume]

theorem SharedCache.run_ensure (world : ω) (walk : Walk (Path × Entry υ))
    (make : SharedAct ω σ κ υ (Except BuildError (Cache ω σ κ υ))) (setup : Setup ω σ κ υ)
    (s : CacheState σ κ υ) (poisoned : Bool) :
    (SharedCache.ensure world walk make).run (.of setup s poisoned) =
      ⟨.ok (.ok ()), [], .of setup s poisoned⟩ := by
  rw [ensure, Act.run_bind_of_ok (Act.run_state _)]
  rfl

theorem SharedCache.run_obtain (world : ω) (walk : Walk (Path × Entry υ))
    (opening : Opening ω σ κ υ) (setup : Setup ω σ κ υ) (s : CacheState σ κ υ)
    (poisoned : Bool) :
    (SharedCache.obtain world walk opening).run (.of setup s poisoned) =
      ⟨.ok (.ok ()), [], .of setup s poisoned⟩ :=
  run_ensure world walk (make world walk opening) setup s poisoned

theorem SharedCache.run_exit_dispose (world : ω) (walk : Walk (Path × Entry υ))
    (setup : Setup ω σ κ υ) (s : CacheState σ κ υ) (poisoned : Bool) :
    let ran := (setup.destroy world walk).run s
    (SharedCache.exit world walk .dispose).run (.of setup s poisoned) =
      ⟨ran.result.map fun _ => !s.context.isNone, ran.effects,
        .of setup ran.state (poisoned || !ran.result.isOk)⟩ := by
  dsimp only
  have used := run_use (fun setup => setup.destroy world walk) setup s poisoned
  generalize (setup.destroy world walk).run s = ran at used
  obtain ⟨result, effects, left⟩ := ran
  rw [exit, Act.run_bind_of_ok (Act.run_state _)]
  simp only [SharedState.of] at used ⊢
  simp only [Act.run_bind, Act.run_discard, used]
  cases result <;> simp [Except.map, Act.andThen_ok, Locked.enter, Cache.isDestroyed]

/-- A request to the shared cache, and the same one with a calmer analyzer. -/
structure SharedStep.Calmed (setup : Setup ω σ κ υ) (setup' : Setup ω σ κ υ)
    (step step' : SharedStep ω σ κ υ) : Prop where
  request : step'.request = step.request
  state : SharedState.Alike setup setup' step.ran.state step'.ran.state
  ran : setup.Calmed step.request.servedPath? step.request.unserved step.ran step'.ran

theorem sharedStep_calmed (calmer : setup.analyzer.Calmer analyzer')
    (request : SharedRequest ω σ κ υ) {x x' : SharedState ω σ κ υ}
    (alike : SharedState.Alike setup (setup.withAnalyzer analyzer') x x') :
    SharedStep.Calmed setup (setup.withAnalyzer analyzer') ⟨request, request.act.run x⟩
      ⟨request, request.act.run x'⟩ := by
  obtain ⟨s, poisoned, poisoned', rfl, rfl⟩ := alike
  cases request with
  | use occasion =>
    obtain ⟨same_state, calmed⟩ := occasion.request.act_calmed calmer occasion.moment s
    simp only [SharedRequest.act, Act.run_map, SharedCache.run_use, same_state]
    exact ⟨rfl, ⟨_, _, _, rfl, rfl⟩, (calmed.map some s s).map SharedResponse.used _ _⟩
  | obtain world walk opening =>
    simp only [SharedRequest.act, Act.run_map, SharedCache.run_obtain]
    exact ⟨rfl, ⟨s, poisoned, poisoned', rfl, rfl⟩, .same⟩
  | exit world walk policy =>
    cases policy with
    | leak => exact ⟨rfl, ⟨s, poisoned, poisoned', rfl, rfl⟩, .same⟩
    | dispose =>
      have same_destroy : (setup.withAnalyzer analyzer').destroy world walk =
          setup.destroy world walk := by
        obtain ⟨parse, reparse, rfl⟩ := calmer.eq_with
        rfl
      simp only [SharedRequest.act, Act.run_map, SharedCache.run_exit_dispose, same_destroy]
      exact ⟨rfl, ⟨_, _, _, rfl, rfl⟩, .same⟩

theorem sharedHistory_calmed (calmer : setup.analyzer.Calmer analyzer')
    (requests : List (SharedRequest ω σ κ υ)) {x x' : SharedState ω σ κ υ}
    (alike : SharedState.Alike setup (setup.withAnalyzer analyzer') x x') :
    List.Forall₂ (SharedStep.Calmed setup (setup.withAnalyzer analyzer'))
      (sharedHistory x requests) (sharedHistory x' requests) := by
  induction requests generalizing x x' with
  | nil => exact .nil
  | cons request rest ih =>
    have first := sharedStep_calmed calmer request alike
    exact .cons first (ih first.state)

/-! ## Failed requests -/

/-- A request without a unit leaves behind what can be told from how it ended. A panic makes no
difference to what comes later, with a lock around the cache and without. -/
theorem failures_leave_cache_consistent {s : CacheState σ κ υ} (reachable : Reachable setup s) :
    (∀ moment path force, Aftermath setup moment path s ((setup.serve moment path force).run s)) ∧
      ∀ analyzer', setup.analyzer.Calmer analyzer' →
        (∀ occasions,
          (setup.withAnalyzer analyzer').after s occasions = setup.after s occasions ∧
            List.Forall₂ (Step.Calmed setup) (setup.history s occasions)
              ((setup.withAnalyzer analyzer').history s occasions)) ∧
        ∀ poisoned poisoned' requests,
          List.Forall₂ (SharedStep.Calmed setup (setup.withAnalyzer analyzer'))
            (sharedHistory (.of setup s poisoned) requests)
            (sharedHistory (.of (setup.withAnalyzer analyzer') s poisoned') requests) := by
  constructor
  · intro moment path force
    obtain ⟨log, books⟩ := reachable.books
    exact (setup.serves_serve reachable.sound moment path force).aftermath books reachable.sound
  · intro analyzer' calmer
    refine ⟨fun occasions => Setup.history_calmed calmer s occasions, ?_⟩
    intro poisoned poisoned' requests
    exact sharedHistory_calmed calmer requests ⟨s, poisoned, poisoned', rfl, rfl⟩

/-- A parse that panics poisons the lock, and the file is served nevertheless when it is asked for
again. -/
theorem failures_leave_cache_consistent_behind_poisoned_lock :
    let panicking := Simulation.Script.empty.set .parse (some ⟨.panic .unreadable, none⟩)
    let time : FileTime := ⟨0, by decide, by decide⟩
    let first := Scripted.occasion time panicking (.serve (.ofText "a") false)
    let second := Scripted.occasion time .empty (.serve (.ofText "a") false)
    let requests : List (SharedRequest _ Simulation.ScriptedState Simulation.ScriptedContext _) :=
      [.use first, .use second]
    let setup' := Scripted.setup.withAnalyzer (Simulation.scripted Simulation.Script.calmed)
    let steps := sharedHistory (.of Scripted.setup Scripted.start false) requests
    steps.map (fun step => step.ran.state.shared.slot.map (·.poisoned)) = [some true, some true] ∧
      steps.map (·.ran.result.isOk) = [false, true] ∧
      List.Forall₂ (SharedStep.Calmed Scripted.setup setup') steps
        (sharedHistory (.of setup' Scripted.start false) requests) ∧
      Aftermath Scripted.setup first.moment (.ofText "a") Scripted.start
        ((Scripted.setup.serve first.moment (.ofText "a") false).run Scripted.start) :=
  have reachable := ⟨_, _, [], Scripted.opened, rfl⟩
  have order := failures_leave_cache_consistent reachable
  ⟨rfl, rfl, (order.2 _ (Simulation.scripted_calmer id)).2 false false _, order.1 _ _ _⟩

end SourceIndex
