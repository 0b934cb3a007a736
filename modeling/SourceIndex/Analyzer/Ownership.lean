import SourceIndex.Analyzer.Calls

/-!
# Owning units and contexts

Whoever owns a unit or a context hands it back to the analyzer once, either on purpose, and then
learns the answer, or by dropping it, and then a fault can only be logged.
-/

namespace SourceIndex

/-- Holds a handle until it is handed back. -/
structure Owned (α : Type) where
  held : Option (Handle α)
  deriving DecidableEq, Repr

namespace Owned

variable {ω σ κ υ α ε : Type}

def hold (handle : Handle α) : Owned α := ⟨some handle⟩

/-- What asking for a handle that was handed back would panic with. -/
def handedBack (what : String) : Payload :=
  .text ("internal error: entered unreachable code: " ++ what ++ " used after dispose")

/-- The handle. Once it was handed back nobody can ask for it. -/
def get (what : String) (owned : Owned α) : Act σ ε (Handle α) :=
  match owned.held with
  | some handle => pure handle
  | none => Act.raise (handedBack what)

@[simp] theorem held_hold (handle : Handle α) : (hold handle).held = some handle := rfl

@[simp] theorem get_hold (what : String) (handle : Handle α) :
    ((hold handle).get what : Act σ ε (Handle α)) = pure handle := rfl

/-- Logs how something was dropped, if not without a fault. -/
def logDropped (what : String) : Except String Unit → AnalyzerAct σ κ υ Unit
  | .ok () => pure ()
  | .error message =>
    Act.emit (.event ⟨.warn, "fault while disposing " ++ what, [("error", message)]⟩)

/-! ## Units -/

def disposeUnit (analyzer : Analyzer ω σ κ υ) (world : ω) (owned : Owned υ) :
    AnalyzerAct σ κ υ (Except String Unit) :=
  match owned.held with
  | some unit => analyzer.callDisposeUnit world unit .explicit
  | none => pure (.ok ())

def dropUnit (analyzer : Analyzer ω σ κ υ) (world : ω) (owned : Owned υ) :
    AnalyzerAct σ κ υ Unit :=
  match owned.held with
  | some unit => do logDropped "translation unit" (← analyzer.callDisposeUnit world unit .dropped)
  | none => pure ()

/-! ## Contexts -/

def disposeContext (analyzer : Analyzer ω σ κ υ) (world : ω) (owned : Owned κ) :
    AnalyzerAct σ κ υ (Except String Unit) :=
  match owned.held with
  | some context => analyzer.callDisposeContext world context .explicit
  | none => pure (.ok ())

def dropContext (analyzer : Analyzer ω σ κ υ) (world : ω) (owned : Owned κ) :
    AnalyzerAct σ κ υ Unit :=
  match owned.held with
  | some context => do
    logDropped "index context" (← analyzer.callDisposeContext world context .dropped)
  | none => pure ()

end Owned

end SourceIndex
