import SourceIndex.Proofs.Cache.Contrast

/-!
# Verbosity

How verbose a cache is makes no difference to what it does, only to what it says about it. Nothing
is said for information at verbosity zero.
-/

namespace SourceIndex

variable {ω σ κ υ : Type}

/-! ## Clauses -/

/-- The clauses say the same, except how verbose the cache is to be. -/
inductive Clause.AlikeButVerbosity : Clause ω → Clause ω → Prop
  | verbosity (level level' : UInt8) : AlikeButVerbosity (.verbosity level) (.verbosity level')
  | settings (given : Settings) (level : UInt8) :
      AlikeButVerbosity (.settings given) (.settings { given with verbosity := level })
  | provider (provider : ω → Path → List String) :
      AlikeButVerbosity (.provider provider) (.provider provider)
  | overlay (overlay : ω → List Buffer) : AlikeButVerbosity (.overlay overlay) (.overlay overlay)
  | inbox (inbox : InboxId) : AlikeButVerbosity (.inbox inbox) (.inbox inbox)
  | excludeDeclarationsFromPch (exclude : Bool) :
      AlikeButVerbosity (.excludeDeclarationsFromPch exclude) (.excludeDeclarationsFromPch exclude)
  | displayDiagnostics (display : Bool) :
      AlikeButVerbosity (.displayDiagnostics display) (.displayDiagnostics display)
  | globalOptions (options : GlobalOptions) :
      AlikeButVerbosity (.globalOptions options) (.globalOptions options)

/-- What is said about displaying diagnostics once one more clause was read. Settings may leave that
open, and then it is open again. -/
def Clause.displaySaid (said : Option Bool) : Clause ω → Option Bool
  | .displayDiagnostics display => some display
  | .settings given => given.displayDiagnostics
  | _ => said

/-- What the clauses say about displaying diagnostics, if it is not left to its default. -/
def Clause.display? (clauses : List (Clause ω)) : Option Bool :=
  clauses.foldl displaySaid none

namespace Contrast

/-- The blueprints are the same but for their verbosity and what follows from that. -/
structure Plans (said : Option Bool) (plan plan' : Blueprint ω) : Prop where
  provider : plan'.provider = plan.provider
  overlay : plan'.overlay = plan.overlay
  inbox : plan'.inbox = plan.inbox
  exclude : plan'.excludeDeclarationsFromPch = plan.excludeDeclarationsFromPch
  globalOptions : plan'.globalOptions = plan.globalOptions
  display : ∀ b, said = some b →
    plan.displayDiagnostics = some b ∧ plan'.displayDiagnostics = some b

theorem Plans.add {said : Option Bool} {plan plan' : Blueprint ω} {clause clause' : Clause ω}
    (plans : Plans said plan plan') (same : clause.AlikeButVerbosity clause') :
    Plans (clause.displaySaid said) (plan.add clause) (plan'.add clause') := by
  cases same with
  | settings settings level =>
    refine ⟨plans.provider, plans.overlay, plans.inbox, rfl, ?_, ?_⟩
    · simp only [Blueprint.add, Blueprint.withSettings, plans.globalOptions]
    · intro b said
      have said : settings.displayDiagnostics = some b := said
      simp [Blueprint.add, Blueprint.withSettings, Settings.displays, said]
  | displayDiagnostics display =>
    refine { plans with display := ?_ }
    rintro b ⟨⟩
    exact ⟨rfl, rfl⟩
  | verbosity => exact { plans with }
  | provider => exact { plans with provider := rfl }
  | overlay => exact { plans with overlay := rfl }
  | inbox => exact { plans with inbox := rfl }
  | excludeDeclarationsFromPch => exact { plans with exclude := rfl }
  | globalOptions => exact { plans with globalOptions := rfl }

theorem Plans.foldl {clauses clauses' : List (Clause ω)}
    (same : List.Forall₂ Clause.AlikeButVerbosity clauses clauses') {said : Option Bool}
    {plan plan' : Blueprint ω} (plans : Plans said plan plan') :
    Plans (clauses.foldl Clause.displaySaid said) (clauses.foldl Blueprint.add plan)
      (clauses'.foldl Blueprint.add plan') := by
  induction same generalizing said plan plan' with
  | nil => exact plans
  | cons first _ ih => exact ih (plans.add first)

theorem Plans.ofClauses {clauses clauses' : List (Clause ω)}
    (same : List.Forall₂ Clause.AlikeButVerbosity clauses clauses') :
    Plans (Clause.display? clauses) (Blueprint.ofClauses clauses)
      (Blueprint.ofClauses clauses') :=
  .foldl same ⟨rfl, rfl, rfl, rfl, rfl, by simp⟩

/-! ## Building -/

structure Caches (contrast : Contrast σ) (cache cache' : Cache ω σ κ υ) : Prop where
  verbosity : cache.setup.verbosity = contrast.verbosity
  setup : cache'.setup = cache.setup.withVerbosity contrast.verbosity'
  context : cache'.context = cache.context
  table : cache'.table = cache.table

theorem alike_build {analyzer : Analyzer ω σ κ υ} {alike : σ → σ → Prop}
    (ignores : analyzer.IgnoresVerbosity alike) {said : Option Bool} {plan plan' : Blueprint ω}
    (plans : Plans said plan plan') (world : ω) :
    let contrast : Contrast σ := ⟨alike, plan.verbosity, plan'.verbosity, said⟩
    Act.Alike contrast.Analyzers contrast.Effects (EndedAlike contrast.Caches)
      (plan.build analyzer world) (plan'.build analyzer world) := by
  intro contrast
  have created : contrast.Calling (analyzer.callCreateContext world plan.contextOptions)
      (analyzer.callCreateContext world plan'.contextOptions) := by
    unfold Blueprint.contextOptions
    rw [plans.exclude]
    refine calling_createContext ignores world _ fun b said => ?_
    obtain ⟨display, display'⟩ := plans.display b said
    simp [display, display']
  refine created.bind ?_
  rintro answer - rfl
  cases answer with
  | error message => exact .pure (.error _)
  | ok context =>
    have set : contrast.Calling (plan.setOptions analyzer world (.hold context))
        (plan'.setOptions analyzer world (.hold context)) := by
      unfold Blueprint.setOptions
      rw [plans.globalOptions]
      cases plan.globalOptions with
      | none => exact .pure rfl
      | some options => exact calling_setGlobalOptions ignores world context options
    have setup_eq : plan'.setup analyzer =
        (plan.setup analyzer).withVerbosity plan'.verbosity := by
      simp only [Blueprint.setup, Setup.withVerbosity, plans.provider, plans.overlay, plans.inbox]
    exact set.bind fun _ _ _ => .pure (.ok ⟨rfl, setup_eq, rfl, rfl⟩)

end Contrast

/-! ## Silence -/

def Effect.isInfo : Effect κ υ → Bool
  | .call _ | .diagnostic _ _ => false
  | .event noted => noted.level == .info

/-- Nothing is said for information. -/
def Hushed (effects : List (Effect κ υ)) : Prop := ∀ effect ∈ effects, effect.isInfo = false

namespace Hushed

@[simp] theorem nil : Hushed ([] : List (Effect κ υ)) := by simp [Hushed]

@[simp] theorem append_iff {first last : List (Effect κ υ)} :
    Hushed (first ++ last) ↔ Hushed first ∧ Hushed last := by
  simp [Hushed, or_imp, forall_and]

@[simp] theorem cons_iff {effect : Effect κ υ} {rest : List (Effect κ υ)} :
    Hushed (effect :: rest) ↔ effect.isInfo = false ∧ Hushed rest := by
  simp [Hushed]

@[simp] theorem call (call : Call κ υ) : (Effect.call call).isInfo = false := rfl

section

variable {setup : Setup ω σ κ υ} {world : ω} {path : Path} {s : CacheState σ κ υ}

theorem told {level : Level} (serious : level = .warn ∨ level = .error) (failure : Failure) :
    Hushed (setup.told level failure) := by
  unfold Setup.told
  cases setup.inbox <;> rcases serious with rfl | rfl <;> simp [Effect.isInfo]

@[simp] theorem told_error (failure : Failure) : Hushed (setup.told .error failure) :=
  told (.inr rfl) failure

@[simp] theorem disposalNoted (what : String) (answer : Answer Unit) :
    Hushed (setup.disposalNoted what answer) := by
  unfold Setup.disposalNoted
  split
  · exact nil
  · exact told (.inl rfl) _

variable (silent : setup.verbosity = 0)

include silent

@[simp] theorem announced (message : String) : Hushed (setup.announced path message) := by
  simp [Setup.announced, Setup.isVerbose, silent]

@[simp] theorem concluded (outcome : String) :
    (setup.concluded path outcome).isInfo = false := by
  simp [Setup.concluded, Setup.isVerbose, silent, Effect.isInfo, Event.about]

theorem disposals {list : List (Path × Entry υ)} {pieces : List (List (Effect κ υ))}
    (disposals : List.Forall₂ setup.Disposal list pieces) : Hushed pieces.flatten := by
  induction disposals with
  | nil => exact nil
  | cons first _ ih =>
    obtain ⟨unit, answer, -, rfl⟩ := first
    simpa [silent] using ih

theorem removes {ran : Ran (CacheState σ κ υ) (Effect κ υ) Unit}
    (removes : setup.Removes world path s ran) : Hushed ran.effects := by
  cases removes <;> simp [silent]

theorem serves {moment : Moment ω} {force : Bool}
    {ran : Ran (CacheState σ κ υ) (Effect κ υ) (Option (LentUnit ω υ))}
    (serves : setup.Serves moment path force s ran) : Hushed ran.effects := by
  cases serves with
  | unindexable => simp [silent, Effect.isInfo, Event.about]
  | unreadable | hit => simp [silent]
  | refreshed indexable readable found held stale refreshes =>
    cases refreshes <;> simp [silent]
  | rebuilt indexable readable outdated parses =>
    cases parses with
    | destroyed removes | parsed removes | failed removes | panicked removes =>
      simp [silent, Hushed.removes silent removes]

theorem does {occasion : Occasion ω υ} {effects : List (Effect κ υ)} {s' : CacheState σ κ υ}
    (does : Does setup occasion s effects s') : Hushed effects := by
  cases does with
  | nothing => exact nil
  | served asks serves => exact Hushed.serves silent serves
  | removed removes => exact Hushed.removes silent removes
  | cleared disposals => exact Hushed.disposals silent disposals
  | closed alive disposals => simp [Hushed.disposals silent disposals]
  | read | set => simp

end

end Hushed

/-! ## Runs -/

namespace Contrast

/-- A request at the two verbosities: it ends the same and leaves the same records, and its calls,
warnings, errors and diagnostics are alike. At verbosity zero nothing is said for information. -/
structure Steps (contrast : Contrast σ) (step step' : Step ω σ κ υ) : Prop where
  occasion : step'.occasion = step.occasion
  result : step'.ran.result = step.ran.result
  table : step'.ran.state.table = step.ran.state.table
  context : step'.ran.state.context = step.ran.state.context
  effects : List.Forall₂ contrast.Effects (loud step.ran.effects) (loud step'.ran.effects)
  hushed : contrast.verbosity = 0 → Hushed step.ran.effects
  hushed' : contrast.verbosity' = 0 → Hushed step'.ran.effects

theorem States.sound {contrast : Contrast σ} {s s' : CacheState σ κ υ}
    (states : contrast.States s s') (sound : Sound s) : Sound s' := by
  refine ⟨?_, ?_, ?_⟩
  · rw [states.table]
    exact sound.unit_held
  · rw [states.context]
    exact sound.context_held
  · rw [states.table]
    exact sound.own_path

theorem steps_history {contrast : Contrast σ} {setup : Setup ω σ κ υ}
    (ignores : setup.analyzer.IgnoresVerbosity contrast.inner)
    (occasions : List (Occasion ω υ)) {s s' : CacheState σ κ υ} (states : contrast.States s s')
    (sound : Sound s) :
    List.Forall₂ contrast.Steps
      ((setup.withVerbosity contrast.verbosity).history s occasions)
      ((setup.withVerbosity contrast.verbosity').history s' occasions) := by
  induction occasions generalizing s s' with
  | nil => exact .nil
  | cons occasion rest ih =>
    obtain ⟨ended, done, left⟩ := same_request ignores occasion.moment occasion.request s s' states
    have does := Does.step (setup.withVerbosity contrast.verbosity) sound occasion
    have does' := Does.step (setup.withVerbosity contrast.verbosity') (states.sound sound) occasion
    exact .cons ⟨rfl, ended.eq.symm, left.table, left.context, done,
      fun silent => .does silent does, fun silent => .does silent does'⟩
      (ih left (does.sound sound))

end Contrast

/-- How verbose a cache is makes no difference to how it is built and to what comes of any requests
to it, but for a flag for the compiler, the display of diagnostics where that is left to its default,
and what is said for information. -/
theorem verbosity_changes_no_behaviour {analyzer : Analyzer ω σ κ υ} {alike : σ → σ → Prop}
    (ignores : analyzer.IgnoresVerbosity alike) {clauses clauses' : List (Clause ω)}
    (same : List.Forall₂ Clause.AlikeButVerbosity clauses clauses') (world : ω) {inner inner' : σ}
    (start : alike inner inner') (units contexts : Nat) :
    let plan := Blueprint.ofClauses clauses
    let plan' := Blueprint.ofClauses clauses'
    let contrast : Contrast σ :=
      ⟨alike, plan.verbosity, plan'.verbosity, Clause.display? clauses⟩
    let ran := (plan.build analyzer world).run ⟨inner, units, contexts⟩
    let ran' := (plan'.build analyzer world).run ⟨inner', units, contexts⟩
    ran.Alike contrast.Analyzers contrast.Effects (EndedAlike contrast.Caches) ran' ∧
      ∀ cache cache', ran.result = .ok (.ok cache) → ran'.result = .ok (.ok cache') →
        ∀ occasions, List.Forall₂ contrast.Steps
          (cache.setup.history ⟨ran.state, cache.context, cache.table⟩ occasions)
          (cache'.setup.history ⟨ran'.state, cache'.context, cache'.table⟩ occasions) := by
  intro plan plan' contrast ran ran'
  have built : ran.Alike contrast.Analyzers contrast.Effects (EndedAlike contrast.Caches) ran' :=
    Contrast.alike_build ignores (.ofClauses same) world _ _ ⟨start, rfl, rfl⟩
  refine ⟨built, ?_⟩
  intro cache cache' made made' occasions
  obtain ⟨ended, -, left⟩ := built
  rw [made, made'] at ended
  obtain ⟨verbosity, setup_eq, context_eq, table_eq⟩ : contrast.Caches cache cache' := by
    cases ended with
    | ok both => cases both with
      | ok caches => exact caches
  have ran_eq : ran = ⟨.ok (.ok cache), ran.effects, ran.state⟩ := by rw [← made]
  have opened := Blueprint.opened_of_build ran_eq
  obtain ⟨context, set, rfl, -⟩ := Blueprint.build_spec ran_eq
  have respects : (plan.setup analyzer).analyzer.IgnoresVerbosity contrast.inner := ignores
  rw [setup_eq]
  exact Contrast.steps_history respects occasions ⟨left, context_eq, table_eq⟩ opened.sound

theorem Simulation.scripted_ignoresVerbosity (script : ω → Script) :
    (scripted script).IgnoresVerbosity Eq where
  createContext _ _ _ _ _ _ := by
    rintro rfl
    exact ⟨_, _, _, rfl, rfl, rfl⟩
  parse _ _ _ _ _ _ _ _ _ := by
    rintro rfl
    exact ⟨_, _, _, rfl, rfl, rfl⟩
  reparse _ _ _ _ _ := by
    rintro rfl
    exact ⟨_, _, _, _, rfl, rfl, rfl⟩
  disposeUnit _ _ _ _ := by
    rintro rfl
    exact ⟨_, _, _, rfl, rfl, rfl⟩
  disposeContext _ _ _ _ := by
    rintro rfl
    exact ⟨_, _, _, rfl, rfl, rfl⟩
  globalOptions _ _ _ _ := by
    rintro rfl
    exact ⟨_, _, _, rfl, rfl, rfl⟩
  setGlobalOptions _ _ _ _ _ := by
    rintro rfl
    rfl

/-- The compiler is asked to be verbose, and nevertheless the second request finds its file as the
first one has left it. -/
theorem verbosity_changes_no_behaviour_from_zero_to_two :
    let provider : Simulation.Script → Path → List String := fun _ _ => ["-Wall"]
    let clauses := [.provider provider, .inbox ⟨0⟩]
    let setup := (Blueprint.ofClauses (.verbosity 0 :: clauses)).setup (Simulation.scripted id)
    let setup' := (Blueprint.ofClauses (.verbosity 2 :: clauses)).setup (Simulation.scripted id)
    let time : FileTime := ⟨0, by decide, by decide⟩
    let panicking := Simulation.Script.empty.set .disposeUnit (some ⟨.panic .unreadable, none⟩)
    let occasions := [Scripted.occasion time .empty (.serve (.ofText "a") false),
      Scripted.occasion time .empty (.serve (.ofText "a/") false),
      Scripted.occasion time panicking (.remove (.ofText "a"))]
    let steps := setup.history Scripted.start occasions
    let steps' := setup'.history Scripted.start occasions
    callLog steps = [.parse ⟨0, ⟨0⟩⟩ (.ofText "a") ["-Wall"] [] (.value ⟨0, ⟨0, 0⟩⟩),
        .disposeUnit ⟨0, ⟨0, 0⟩⟩ .explicit (.panic .unreadable)] ∧
      callLog steps' = [.parse ⟨0, ⟨0⟩⟩ (.ofText "a") ["-Wall", "-v"] [] (.value ⟨0, ⟨0, 0⟩⟩),
        .disposeUnit ⟨0, ⟨0, 0⟩⟩ .explicit (.panic .unreadable)] ∧
      List.Forall₂ (Contrast.Steps ⟨Eq, 0, 2, none⟩) steps steps' := by
  intro provider clauses setup setup' time panicking occasions steps steps'
  have alike : List.Forall₂ Clause.AlikeButVerbosity (.verbosity 0 :: clauses)
      (.verbosity 2 :: clauses) :=
    .cons (.verbosity 0 2) (.cons (.provider provider) (.cons (.inbox ⟨0⟩) .nil))
  have same := (verbosity_changes_no_behaviour (Simulation.scripted_ignoresVerbosity id) alike
    .empty (rfl : Simulation.ScriptedState.start = _) 0 0).2 _ _ rfl rfl occasions
  exact ⟨by decide +kernel +zetaReduce, by decide +kernel +zetaReduce, same⟩

end SourceIndex
