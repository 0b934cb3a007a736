import SourceIndex.Analyzer.Basic
import SourceIndex.Diagnostic

/-!
# Effects

What the index does besides changing its own state: it calls the analyzer, logs events and
reports diagnostics. Each unit and each context gets a number when it is made, so that it can be
told apart from all others.
-/

namespace SourceIndex

/-! ## Handles -/

/-- A unit or a context with its number. -/
structure Handle (α : Type) where
  serial : Nat
  value : α
  deriving DecidableEq, Repr

/-! ## Calls -/

/-- Whether something is disposed on purpose or because nobody holds it any longer. -/
inductive Release where
  | explicit
  | dropped
  deriving DecidableEq, Repr

inductive Call (κ υ : Type) where
  | createContext (options : ContextOptions) (answer : Answer (Handle κ))
  | parse (context : Handle κ) (path : Path) (args : List String) (buffers : List Buffer)
    (answer : Answer (Handle υ))
  /-- `after` is the unit as the call left it. -/
  | reparse (unit : Handle υ) (buffers : List Buffer) (after : υ) (answer : Answer Unit)
  | disposeUnit (unit : Handle υ) (release : Release) (answer : Answer Unit)
  | disposeContext (context : Handle κ) (release : Release) (answer : Answer Unit)
  | globalOptions (context : Handle κ) (options : GlobalOptions)
  | setGlobalOptions (context : Handle κ) (options : GlobalOptions)
  deriving DecidableEq, Repr

/-! ## Events -/

inductive Level where
  | trace
  | debug
  | info
  | warn
  | error
  deriving DecidableEq, Repr

structure Event where
  level : Level
  message : String
  fields : List (String × String)
  deriving DecidableEq, Repr

/-- An event about a file. Times that were measured, such as how long a request took, are no part
of it. -/
def Event.about (path : Path) (level : Level) (message : String) : Event :=
  ⟨level, message, [("path", path.shown)]⟩

/-! ## Effects -/

/-- Tells one inbox from another. -/
structure InboxId where
  number : Nat
  deriving DecidableEq, Repr

inductive Effect (κ υ : Type) where
  | call (call : Call κ υ)
  | event (event : Event)
  | diagnostic (inbox : InboxId) (diagnostic : Diagnostic)
  deriving DecidableEq, Repr

end SourceIndex
