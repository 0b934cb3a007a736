import SourceIndex.Proofs.Cache.Runs
import SourceIndex.Proofs.Cache.Outcomes
import Mathlib.Data.List.Forall2

/-!
# Panics

A panic of the analyzer over a file leaves the cache as a refusal would. Two runs, one with
panics where the other one has refusals, go through the same states.
-/

namespace SourceIndex

variable {ω σ κ υ α β : Type}

/-! ## Calmer analyzers -/

/-- The second analyzer may refuse to parse or to reparse where the first one panics. In all else
they are alike. Both go by their state and by the moment, so they may differ once in a run only. -/
structure Analyzer.Calmer (analyzer analyzer' : Analyzer ω σ κ υ) : Prop where
  otherwise : analyzer' = { analyzer with parse := analyzer'.parse, reparse := analyzer'.reparse }
  parse : ∀ world context path args buffers inner,
    analyzer'.parse world context path args buffers inner =
        analyzer.parse world context path args buffers inner ∨
      ∃ payload message left,
        analyzer.parse world context path args buffers inner = (.panic payload, left) ∧
          analyzer'.parse world context path args buffers inner = (.fault message, left)
  reparse : ∀ world unit buffers inner,
    analyzer'.reparse world unit buffers inner = analyzer.reparse world unit buffers inner ∨
      ∃ payload message after left,
        analyzer.reparse world unit buffers inner = (.panic payload, after, left) ∧
          analyzer'.reparse world unit buffers inner = (.fault message, after, left)

theorem Analyzer.Calmer.eq_with {analyzer analyzer' : Analyzer ω σ κ υ}
    (calmer : analyzer.Calmer analyzer') :
    ∃ parse reparse, analyzer' = { analyzer with parse, reparse } :=
  ⟨_, _, calmer.otherwise⟩

namespace Setup

def withAnalyzer (setup : Setup ω σ κ υ) (analyzer : Analyzer ω σ κ υ) : Setup ω σ κ υ :=
  { setup with analyzer }

/-! ## Runs that differ in a panic -/

/-- Either both ran alike, or the first panicked over the file where the second was refused, and
then reported that and ended with `unserved`. -/
inductive Calmed {τ : Type} (setup : Setup ω σ κ υ) (file : Option Path) (unserved : α) :
    Ran τ (Effect κ υ) α → Ran τ (Effect κ υ) α → Prop
  | same {result effects t t'} : Calmed setup file unserved ⟨result, effects, t⟩
      ⟨result, effects, t'⟩
  | parse {path context args buffers payload message t t'} (effects : List (Effect κ υ))
      (about : file = some path) :
      Calmed setup file unserved
        ⟨.error payload, effects ++
          [.call (.parse context path args buffers (.panic payload))], t⟩
        ⟨.ok unserved, effects ++ .call (.parse context path args buffers (.fault message)) ::
          setup.told .error (.parseFailed path message), t'⟩
  | reparse {path unit buffers after payload message t t'} (effects : List (Effect κ υ))
      (about : file = some path) :
      Calmed setup file unserved
        ⟨.error payload, effects ++ [.call (.reparse unit buffers after (.panic payload))], t⟩
        ⟨.ok unserved, effects ++ .call (.reparse unit buffers after (.fault message)) ::
          setup.told .error (.reparseFailed path message), t'⟩

/-- How a run differs does not depend on the states, and not on the form of its result. -/
theorem Calmed.map {τ τ' : Type} {setup : Setup ω σ κ υ} {file : Option Path} {unserved : α}
    {ran ran' : Ran τ (Effect κ υ) α} (f : α → β) (t t' : τ')
    (calmed : setup.Calmed file unserved ran ran') :
    setup.Calmed file (f unserved) ⟨ran.result.map f, ran.effects, t⟩
      ⟨ran'.result.map f, ran'.effects, t'⟩ := by
  cases calmed with
  | same => exact .same
  | parse effects about => exact .parse effects about
  | reparse effects about => exact .reparse effects about

/-- The actions differ in panics only, and leave the same state. -/
def CalmedActs (setup : Setup ω σ κ υ) (file : Option Path) (unserved : α)
    (act act' : CacheAct σ κ υ α) : Prop :=
  ∀ s, (act'.run s).state = (act.run s).state ∧
    setup.Calmed file unserved (act.run s) (act'.run s)

namespace CalmedActs

variable {setup : Setup ω σ κ υ} {file : Option Path} {unserved : α} {act act' : CacheAct σ κ υ α}

theorem refl (act : CacheAct σ κ υ α) : setup.CalmedActs file unserved act act :=
  fun _ => ⟨rfl, .same⟩

theorem bind (first : CacheAct σ κ υ β) {next next' : β → CacheAct σ κ υ α}
    (calmed : ∀ b, setup.CalmedActs file unserved (next b) (next' b)) :
    setup.CalmedActs file unserved (first >>= next) (first >>= next') := by
  intro s
  rw [Act.run_bind, Act.run_bind]
  obtain ⟨_ | b, effects, left⟩ := first.run s
  · exact ⟨rfl, .same⟩
  · obtain ⟨same_state, calmed⟩ := calmed b left
    refine ⟨same_state, ?_⟩
    rw [Act.andThen_ok, Act.andThen_ok]
    generalize (next b).run left = ran at calmed
    generalize (next' b).run left = ran' at calmed
    cases calmed with
    | same => exact .same
    | parse later about =>
      simp only [← List.append_assoc]
      exact .parse (effects ++ later) about
    | reparse later about =>
      simp only [← List.append_assoc]
      exact .reparse (effects ++ later) about

theorem map (f : α → β) (calmed : setup.CalmedActs file unserved act act') :
    setup.CalmedActs file (f unserved) (f <$> act) (f <$> act') := by
  intro s
  obtain ⟨same_state, calmed⟩ := calmed s
  rw [Act.run_map, Act.run_map]
  exact ⟨same_state, calmed.map f _ _⟩

end CalmedActs

/-! ## Requests with a calmer analyzer -/

variable {setup : Setup ω σ κ υ} {analyzer' : Analyzer ω σ κ υ}

theorem refresh_calmed (calmer : setup.analyzer.Calmer analyzer') (world : ω) (path : Path)
    (time : FileTime) (reason : String) :
    setup.CalmedActs (some path) none (setup.refresh world path time reason)
      ((setup.withAnalyzer analyzer').refresh world path time reason) := by
  unfold refresh
  refine .bind (setup.announce path reason) fun _ => .bind Act.state fun s => ?_
  cases s.table.find? path with
  | none => exact .refl _
  | some entry =>
    refine .bind (entry.unit.get "unit") fun unit => ?_
    -- Up to here both do the same. They may part at the next call only.
    intro t
    rcases calmer.reparse world unit.value (setup.overlay world) t.analyzer.inner with
      same | ⟨payload, message, after, left, panics, refuses⟩
    · obtain ⟨answer, after, inner, answered⟩ : ∃ answer after inner, setup.analyzer.reparse
          world unit.value (setup.overlay world) t.analyzer.inner = (answer, after, inner) :=
        ⟨_, _, _, rfl⟩
      have answered' : (setup.withAnalyzer analyzer').analyzer.reparse world unit.value
          ((setup.withAnalyzer analyzer').overlay world) t.analyzer.inner =
            (answer, after, inner) := same.trans answered
      rw [Act.run_bind_of_ok (run_callReparse answered),
        Act.run_bind_of_ok (run_callReparse answered')]
      exact ⟨rfl, .same⟩
    · have refuses' : (setup.withAnalyzer analyzer').analyzer.reparse world unit.value
          ((setup.withAnalyzer analyzer').overlay world) t.analyzer.inner =
            (.fault message, after, left) := refuses
      rw [Act.run_bind_of_ok (run_callReparse panics),
        Act.run_bind_of_ok (run_callReparse refuses')]
      simp only [CacheAct.setTable, Act.run_bind, Act.run_modify, run_fail, Act.run_raise,
        Act.andThen_ok, List.nil_append, List.append_nil, List.singleton_append]
      exact ⟨trivial, .reparse [] rfl⟩

theorem remove_calmed (calmer : setup.analyzer.Calmer analyzer') :
    (setup.withAnalyzer analyzer').remove = setup.remove := by
  obtain ⟨parse, reparse, rfl⟩ := calmer.eq_with
  rfl

theorem store_calmed (calmer : setup.analyzer.Calmer analyzer') :
    (setup.withAnalyzer analyzer').store = setup.store := by
  obtain ⟨parse, reparse, rfl⟩ := calmer.eq_with
  rfl

theorem parseAnew_calmed (calmer : setup.analyzer.Calmer analyzer') (world : ω) (path : Path)
    (args : List String) (time : FileTime) :
    setup.CalmedActs (some path) none (setup.parseAnew world path args time)
      ((setup.withAnalyzer analyzer').parseAnew world path args time) := by
  unfold parseAnew
  rw [remove_calmed calmer, store_calmed calmer]
  refine .bind (setup.remove world path) fun _ => .bind Act.state fun s => ?_
  cases s.context with
  | none => exact .refl _
  | some context =>
    refine .bind (setup.announce path _) fun _ => .bind (context.get "context") fun context => ?_
    rintro ⟨⟨inner, units, contexts⟩, owned, table⟩
    rcases calmer.parse world context.value path (setup.parseArgs args) (setup.overlay world)
      inner with same | ⟨payload, message, left, panics, refuses⟩
    · obtain ⟨answer, left, answered⟩ : ∃ answer left, setup.analyzer.parse world context.value
          path (setup.parseArgs args) (setup.overlay world) inner = (answer, left) := ⟨_, _, rfl⟩
      have answered' : (setup.withAnalyzer analyzer').analyzer.parse world context.value path
          ((setup.withAnalyzer analyzer').parseArgs args)
            ((setup.withAnalyzer analyzer').overlay world) inner = (answer, left) :=
        same.trans answered
      rw [Act.run_bind, Act.run_bind, run_callParse units contexts owned table answered,
        run_callParse units contexts owned table answered']
      exact ⟨rfl, .same⟩
    · have refuses' : (setup.withAnalyzer analyzer').analyzer.parse world context.value path
          ((setup.withAnalyzer analyzer').parseArgs args)
            ((setup.withAnalyzer analyzer').overlay world) inner = (.fault message, left) :=
        refuses
      rw [Act.run_bind, Act.run_bind, run_callParse units contexts owned table panics,
        run_callParse units contexts owned table refuses']
      simp only [Answer.numbered, Answer.outcome, Act.andThen_ok, Act.andThen_panic, run_fail,
        Answer.count_fault, Answer.count_panic]
      exact ⟨trivial, .parse [] rfl⟩

theorem serve_calmed (calmer : setup.analyzer.Calmer analyzer') (moment : Moment ω) (path : Path)
    (force : Bool) :
    setup.CalmedActs (some path) none (setup.serve moment path force)
      ((setup.withAnalyzer analyzer').serve moment path force) := by
  unfold serve
  refine .bind (setup.announce path _) fun _ => ?_
  have same_args : (setup.withAnalyzer analyzer').argsFor? moment.world path =
      setup.argsFor? moment.world path := rfl
  rw [same_args]
  cases setup.argsFor? moment.world path with
  | none => exact .refl _
  | some args =>
    cases moment.fileTime path with
    | error fault => exact .refl _
    | ok time =>
      refine .bind Act.state fun s => ?_
      cases Action.needed (s.table.find? path) args time force with
      | hit => exact .refl _
      | forcedReparse => exact refresh_calmed calmer moment.world path time _
      | changedOnDisk => exact refresh_calmed calmer moment.world path time _
      | rebuild => exact parseAnew_calmed calmer moment.world path args time

theorem prime_calmed (calmer : setup.analyzer.Calmer analyzer') (moment : Moment ω)
    (path : Path) :
    setup.CalmedActs (some path) () (setup.prime moment path)
      ((setup.withAnalyzer analyzer').prime moment path) := by
  unfold prime
  refine .bind Act.state fun s => ?_
  split
  · exact .refl _
  · exact (serve_calmed calmer moment path false).map fun _ => ()

theorem reprime_calmed (calmer : setup.analyzer.Calmer analyzer') (moment : Moment ω)
    (path : Path) :
    setup.CalmedActs (some path) () (setup.reprime moment path)
      ((setup.withAnalyzer analyzer').reprime moment path) := by
  unfold reprime
  refine .bind Act.state fun s => ?_
  split
  · exact (serve_calmed calmer moment path false).map fun _ => ()
  · exact .refl _

end Setup

/-! ## Runs with a calmer analyzer -/

/-- The response to a request that could not serve its file. -/
def Request.unserved : Request υ → Response ω υ
  | .serve _ _ => .unit none
  | _ => .done

theorem Request.act_calmed {setup : Setup ω σ κ υ} {analyzer' : Analyzer ω σ κ υ}
    (calmer : setup.analyzer.Calmer analyzer') (request : Request υ) (moment : Moment ω) :
    setup.CalmedActs request.servedPath? request.unserved (request.act setup moment)
      (request.act (setup.withAnalyzer analyzer') moment) := by
  cases request with
  | serve path force => exact (Setup.serve_calmed calmer moment path force).map _
  | prime path => exact (Setup.prime_calmed calmer moment path).map _
  | reprime path => exact (Setup.reprime_calmed calmer moment path).map _
  | _ =>
    obtain ⟨parse, reparse, rfl⟩ := calmer.eq_with
    exact .refl _

/-- A step of a run and the same step with a calmer analyzer. -/
structure Step.Calmed (setup : Setup ω σ κ υ) (step step' : Step ω σ κ υ) : Prop where
  occasion : step'.occasion = step.occasion
  state : step'.ran.state = step.ran.state
  ran : setup.Calmed step.occasion.request.servedPath? step.occasion.request.unserved step.ran
    step'.ran

namespace Setup

variable {setup : Setup ω σ κ υ} {analyzer' : Analyzer ω σ κ υ}

theorem step_calmed (calmer : setup.analyzer.Calmer analyzer') (s : CacheState σ κ υ)
    (occasion : Occasion ω υ) :
    Step.Calmed setup ⟨occasion, setup.step s occasion⟩
      ⟨occasion, (setup.withAnalyzer analyzer').step s occasion⟩ := by
  obtain ⟨same_state, calmed⟩ := occasion.request.act_calmed calmer occasion.moment s
  exact ⟨rfl, same_state, calmed⟩

theorem history_calmed (calmer : setup.analyzer.Calmer analyzer') (s : CacheState σ κ υ)
    (occasions : List (Occasion ω υ)) :
    (setup.withAnalyzer analyzer').after s occasions = setup.after s occasions ∧
      List.Forall₂ (Step.Calmed setup) (setup.history s occasions)
        ((setup.withAnalyzer analyzer').history s occasions) := by
  induction occasions generalizing s with
  | nil => exact ⟨rfl, .nil⟩
  | cons occasion rest ih =>
    have first := step_calmed calmer s occasion
    have same_state : ((setup.withAnalyzer analyzer').step s occasion).state =
        (setup.step s occasion).state := first.state
    obtain ⟨same_end, others⟩ := ih (setup.step s occasion).state
    simp only [after, history, same_state]
    exact ⟨same_end, .cons first others⟩

end Setup

/-! ## Calmer scripts -/

namespace Simulation

def Misbehaviour.calmed : Misbehaviour → Misbehaviour
  | .refuse message => .refuse message
  | .panic _ => .refuse "calmed"

def Mode.calmed (mode : Mode) : Mode := { mode with misbehaviour := mode.misbehaviour.calmed }

/-- The script without panics over files. -/
def Script.calmed (script : Script) : Script :=
  { script with
    parse := script.parse.map Mode.calmed
    reparse := script.reparse.map Mode.calmed }

theorem answerBy_calmed (mode : Option Mode) (subject : Option Subject) (a : α) :
    answerBy (mode.map Mode.calmed) subject a = answerBy mode subject a ∨
      ∃ payload message, answerBy mode subject a = .panic payload ∧
        answerBy (mode.map Mode.calmed) subject a = .fault message := by
  have same : misbehaviour? (mode.map Mode.calmed) subject =
      (misbehaviour? mode subject).map Misbehaviour.calmed := by
    cases mode with
    | none => rfl
    | some mode =>
      simp only [misbehaviour?, Option.map_some, Option.bind_eq_bind, Option.bind_some,
        Mode.calmed]
      cases mode.only with
      | none => rfl
      | some subjects =>
        dsimp only
        split <;> rfl
  unfold answerBy
  rw [same]
  cases misbehaviour? mode subject with
  | none => exact .inl rfl
  | some misbehaviour =>
    cases misbehaviour with
    | refuse message => exact .inl rfl
    | panic payload => exact .inr ⟨payload, "calmed", rfl, rfl⟩

theorem scripted_calmer (script : ω → Script) :
    (scripted script).Calmer (scripted fun world => (script world).calmed) where
  otherwise := rfl
  parse world context path args buffers s := by
    rcases answerBy_calmed (script world).parse (some (.path path)) (⟨s.units, 0⟩ : ScriptedUnit)
      with same | ⟨payload, message, panics, refuses⟩
    · exact .inl (by simp only [scripted, Script.calmed, same])
    · refine .inr ⟨payload, message, s, ?_, ?_⟩
      · simp [scripted, panics, Answer.isValue]
      · simp [scripted, Script.calmed, refuses, Answer.isValue]
  reparse world unit buffers s := by
    rcases answerBy_calmed (script world).reparse (some (.number unit.id)) ()
      with same | ⟨payload, message, panics, refuses⟩
    · exact .inl (by simp only [scripted, Script.calmed, same])
    · refine .inr ⟨payload, message, unit, s, ?_, ?_⟩
      · simp [scripted, panics, Answer.isValue]
      · simp [scripted, Script.calmed, refuses, Answer.isValue]

end Simulation

end SourceIndex
