import SourceIndex.Analyzer.Basic

/-!
# An analyzer that follows a script

Its units and contexts are just numbers. The script says which of its calls are refused or
panic.
-/

namespace SourceIndex.Simulation

/-! ## The script -/

/-- How a call ends that does not succeed. -/
inductive Misbehaviour where
  | refuse (message : String)
  | panic (payload : Payload)
  deriving DecidableEq, Repr

/-- What a call is about: a path, or the number of a unit or a context. -/
inductive Subject where
  | path (path : Path)
  | number (number : Nat)
  deriving DecidableEq, Repr

/-- How the calls of one function go wrong, for all subjects or for some. -/
structure Mode where
  misbehaviour : Misbehaviour
  only : Option (List Subject)
  deriving DecidableEq, Repr

structure Script where
  createContext : Option Mode
  parse : Option Mode
  reparse : Option Mode
  disposeUnit : Option Mode
  disposeContext : Option Mode
  deriving DecidableEq, Repr

/-- The functions whose calls can go wrong. -/
inductive EntryPoint where
  | createContext
  | parse
  | reparse
  | disposeUnit
  | disposeContext
  deriving DecidableEq, Repr

def Script.empty : Script := ⟨none, none, none, none, none⟩

def Script.set (script : Script) (entry : EntryPoint) (mode : Option Mode) : Script :=
  match entry with
  | .createContext => { script with createContext := mode }
  | .parse => { script with parse := mode }
  | .reparse => { script with reparse := mode }
  | .disposeUnit => { script with disposeUnit := mode }
  | .disposeContext => { script with disposeContext := mode }

/-- How a call about `subject` goes wrong, if it does. A call about nothing is no subject. -/
def misbehaviour? (mode : Option Mode) (subject : Option Subject) : Option Misbehaviour := do
  let mode ← mode
  match mode.only with
  | none => some mode.misbehaviour
  | some subjects => if subject.any subjects.contains then some mode.misbehaviour else none

def answerBy {α : Type} (mode : Option Mode) (subject : Option Subject) (a : α) : Answer α :=
  match misbehaviour? mode subject with
  | none => .value a
  | some (.refuse message) => .fault message
  | some (.panic payload) => .panic payload

/-! ## The analyzer -/

structure ScriptedContext where
  id : Nat
  deriving DecidableEq, Repr

structure ScriptedUnit where
  id : Nat
  /-- Counts the reparses that succeeded. -/
  reparses : Nat
  deriving DecidableEq, Repr

/-- Counts what was made, and keeps the global options of each context. -/
structure ScriptedState where
  contexts : Nat
  units : Nat
  options : List (Nat × GlobalOptions)
  deriving DecidableEq, Repr

def ScriptedState.start : ScriptedState := ⟨0, 0, []⟩

/-- The analyzer follows the script of its world. -/
def scripted {ω : Type} (script : ω → Script) :
    Analyzer ω ScriptedState ScriptedContext ScriptedUnit where
  createContext world _ s :=
    let answer := answerBy (script world).createContext none (⟨s.contexts⟩ : ScriptedContext)
    (answer, if answer.isValue then { s with contexts := s.contexts + 1 } else s)
  parse world _ path _ _ s :=
    let answer := answerBy (script world).parse (some (.path path)) (⟨s.units, 0⟩ : ScriptedUnit)
    (answer, if answer.isValue then { s with units := s.units + 1 } else s)
  reparse world unit _ s :=
    let answer := answerBy (script world).reparse (some (.number unit.id)) ()
    (answer, if answer.isValue then { unit with reparses := unit.reparses + 1 } else unit, s)
  disposeUnit world unit s :=
    (answerBy (script world).disposeUnit (some (.number unit.id)) (), s)
  disposeContext world context s :=
    (answerBy (script world).disposeContext (some (.number context.id)) (), s)
  globalOptions _ context s :=
    (((s.options.find? (·.1 == context.id)).map (·.2)).getD .none, s)
  setGlobalOptions _ context options s :=
    { s with options := (context.id, options) :: s.options.filter (·.1 != context.id) }

end SourceIndex.Simulation
