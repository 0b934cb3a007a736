import SourceIndex.Act
import SourceIndex.Analyzer.Options
import SourceIndex.File.Buffers

/-!
# Analyzers

An analyzer parses a file into a unit, inside a context. What units and contexts are is its own
business. Any call that makes, reparses or disposes something may be refused or may panic. Reading
and setting the global options always goes well: an analyzer that panics there is left out.
-/

namespace SourceIndex

/-- How a call ends. -/
inductive Answer (α : Type) where
  | value (a : α)
  | fault (message : String)
  | panic (payload : Payload)
  deriving DecidableEq, Repr

namespace Answer

variable {α : Type}

/-- The answer as an action sees it. -/
def outcome : Answer α → Except Payload (Except String α)
  | value a => .ok (.ok a)
  | fault message => .ok (.error message)
  | panic payload => .error payload

def isValue : Answer α → Bool
  | value _ => true
  | fault _ | panic _ => false

end Answer

/-- An analyzer in the world `ω`, with a state `σ`, contexts `κ` and units `υ`. A call to reparse
answers with the unit as it left it, also when it failed. -/
structure Analyzer (ω σ κ υ : Type) where
  createContext : ω → ContextOptions → σ → Answer κ × σ
  parse : ω → κ → Path → List String → List Buffer → σ → Answer υ × σ
  reparse : ω → υ → List Buffer → σ → Answer Unit × υ × σ
  disposeUnit : ω → υ → σ → Answer Unit × σ
  disposeContext : ω → κ → σ → Answer Unit × σ
  globalOptions : ω → κ → σ → GlobalOptions × σ
  setGlobalOptions : ω → κ → GlobalOptions → σ → σ

end SourceIndex
