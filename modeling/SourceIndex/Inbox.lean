import SourceIndex.Diagnostic

/-!
# The inbox

Diagnostics wait in the inbox, in the order in which they came, until they are taken out. The
number of errors is never reset.
-/

namespace SourceIndex

structure Inbox where
  waiting : List Diagnostic
  /-- Counts in a machine word. -/
  errorCount : UInt64
  deriving DecidableEq, Repr

namespace Inbox

def empty : Inbox := ⟨[], 0⟩

def add (inbox : Inbox) (d : Diagnostic) : Inbox :=
  ⟨inbox.waiting ++ [d], if d.severity.isError then inbox.errorCount + 1 else inbox.errorCount⟩

def hasErrors (inbox : Inbox) : Bool := 0 < inbox.errorCount

/-- Takes everything out. -/
def takeAll (inbox : Inbox) : List Diagnostic × Inbox :=
  (inbox.waiting, { inbox with waiting := [] })

/-- What waits for one path. -/
def waitingFor (inbox : Inbox) (path : Path) : List Diagnostic :=
  inbox.waiting.filter (Diagnostic.isAbout path)

@[simp] theorem waiting_add (inbox : Inbox) (d : Diagnostic) :
    (inbox.add d).waiting = inbox.waiting ++ [d] := rfl

@[simp] theorem errorCount_takeAll (inbox : Inbox) :
    inbox.takeAll.2.errorCount = inbox.errorCount := rfl

end Inbox

end SourceIndex
