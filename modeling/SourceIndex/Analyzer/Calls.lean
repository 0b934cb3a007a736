import SourceIndex.Effect

/-!
# Calls to an analyzer

Every call is an effect, together with its answer. Whatever a call makes gets the next number.
-/

namespace SourceIndex

/-- The state of an analyzer, and how many units and contexts it has made. -/
structure AnalyzerState (σ : Type) where
  inner : σ
  units : Nat
  contexts : Nat
  deriving DecidableEq, Repr

/-- An analyzer that has made nothing yet. -/
def AnalyzerState.start {σ : Type} (inner : σ) : AnalyzerState σ := ⟨inner, 0, 0⟩

/-- An action that calls an analyzer with contexts `κ` and units `υ`. -/
abbrev AnalyzerAct (σ κ υ α : Type) := Act (AnalyzerState σ) (Effect κ υ) α

/-- What was made, with its number. -/
def Answer.numbered {α : Type} (serial : Nat) : Answer α → Answer (Handle α)
  | value a => .value ⟨serial, a⟩
  | fault message => .fault message
  | panic payload => .panic payload

/-- How many were made once one more call was answered. -/
def Answer.count {α : Type} (made : Nat) (answer : Answer α) : Nat :=
  if answer.isValue then made + 1 else made

namespace Analyzer

variable {ω σ κ υ : Type}

/-! ## Calls that make something -/

def callCreateContext (analyzer : Analyzer ω σ κ υ) (world : ω) (options : ContextOptions) :
    AnalyzerAct σ κ υ (Except String (Handle κ)) :=
  ⟨fun s =>
    let (answer, inner) := analyzer.createContext world options s.inner
    let numbered := answer.numbered s.contexts
    ⟨numbered.outcome, [.call (.createContext options numbered)],
      { s with inner, contexts := answer.count s.contexts }⟩⟩

def callParse (analyzer : Analyzer ω σ κ υ) (world : ω) (context : Handle κ) (path : Path)
    (args : List String) (buffers : List Buffer) :
    AnalyzerAct σ κ υ (Except String (Handle υ)) :=
  ⟨fun s =>
    let (answer, inner) := analyzer.parse world context.value path args buffers s.inner
    let numbered := answer.numbered s.units
    ⟨numbered.outcome, [.call (.parse context path args buffers numbered)],
      { s with inner, units := answer.count s.units }⟩⟩

/-! ## Calls on units and contexts -/

/-- Never panics itself: the unit has to be put back before a panic may go on. -/
def callReparse (analyzer : Analyzer ω σ κ υ) (world : ω) (unit : Handle υ)
    (buffers : List Buffer) : AnalyzerAct σ κ υ (Handle υ × Answer Unit) :=
  ⟨fun s =>
    let (answer, after, inner) := analyzer.reparse world unit.value buffers s.inner
    ⟨.ok (⟨unit.serial, after⟩, answer), [.call (.reparse unit buffers after answer)],
      { s with inner }⟩⟩

def callDisposeUnit (analyzer : Analyzer ω σ κ υ) (world : ω) (unit : Handle υ)
    (release : Release) : AnalyzerAct σ κ υ (Except String Unit) :=
  ⟨fun s =>
    let (answer, inner) := analyzer.disposeUnit world unit.value s.inner
    ⟨answer.outcome, [.call (.disposeUnit unit release answer)], { s with inner }⟩⟩

def callDisposeContext (analyzer : Analyzer ω σ κ υ) (world : ω) (context : Handle κ)
    (release : Release) : AnalyzerAct σ κ υ (Except String Unit) :=
  ⟨fun s =>
    let (answer, inner) := analyzer.disposeContext world context.value s.inner
    ⟨answer.outcome, [.call (.disposeContext context release answer)], { s with inner }⟩⟩

def callGlobalOptions (analyzer : Analyzer ω σ κ υ) (world : ω) (context : Handle κ) :
    AnalyzerAct σ κ υ GlobalOptions :=
  ⟨fun s =>
    let (options, inner) := analyzer.globalOptions world context.value s.inner
    ⟨.ok options, [.call (.globalOptions context options)], { s with inner }⟩⟩

def callSetGlobalOptions (analyzer : Analyzer ω σ κ υ) (world : ω) (context : Handle κ)
    (options : GlobalOptions) : AnalyzerAct σ κ υ Unit :=
  ⟨fun s =>
    ⟨.ok (), [.call (.setGlobalOptions context options)],
      { s with inner := analyzer.setGlobalOptions world context.value options s.inner }⟩⟩

end Analyzer

end SourceIndex
