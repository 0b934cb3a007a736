import SourceIndex.Diagnostic
import SourceIndex.File.Fault

/-!
# Failures

What can go wrong while a unit is served or disposed. No failure leaves the cache: each is logged
and told to the user as a diagnostic.
-/

namespace SourceIndex

inductive Failure where
  | unreadable (path : Path) (source : FileFault)
  | reparseFailed (path : Path) (source : String)
  | parseFailed (path : Path) (source : String)
  | destroyed (path : Path)
  /-- `what` was disposed, but not without a fault. -/
  | disposeFailed (what reason : String)
  deriving DecidableEq, Repr

namespace Failure

def message : Failure → String
  | unreadable path source => "cannot read " ++ path.shown ++ ": " ++ source.message
  | reparseFailed path source =>
    "error re-parsing translation unit " ++ path.shown ++ ": " ++ source
  | parseFailed path source => "error parsing translation unit " ++ path.shown ++ ": " ++ source
  | destroyed path => "index has been destroyed; cannot parse " ++ path.shown
  | disposeFailed what reason => "fault while disposing " ++ what ++ ": " ++ reason

/-- What a user can do about a unit that is out of date. -/
def reparseAdvice : String :=
  "the previously parsed unit is kept; request a forced reparse to retry"

def diagnostic : Failure → Diagnostic
  | unreadable path source =>
    ((Diagnostic.error 1 "cannot read source file").withPath path).withNote source.message
  | reparseFailed path source =>
    (((Diagnostic.error 2 "error re-parsing translation unit").withPath path).withNote
      source).withHelp reparseAdvice
  | parseFailed path source =>
    ((Diagnostic.error 3 "error parsing translation unit").withPath path).withNote source
  | destroyed path => (Diagnostic.error 4 "index has been destroyed").withPath path
  | disposeFailed what reason =>
    (Diagnostic.warning 1 ("fault while disposing " ++ what)).withNote reason

end Failure

end SourceIndex
