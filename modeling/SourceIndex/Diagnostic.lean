import SourceIndex.Path.Basic

/-!
# Diagnostics

What went wrong, as it is told to the user: one line, the file it is about, and any number of
notes and pieces of advice. A code is a letter for the severity and a number of at least three
digits.
-/

namespace SourceIndex

/-! ## Severity -/

/-- How bad a diagnostic is. An error is worse than a warning. -/
inductive Severity where
  | warning
  | error
  deriving DecidableEq, Repr, Ord

namespace Severity

def isError (s : Severity) : Bool := s == .error

def shown : Severity → String
  | warning => "warning"
  | error => "error"

/-- The letter that a code starts with. -/
def letter : Severity → Char
  | warning => 'W'
  | error => 'E'

/-- The worse of two severities. -/
def worst (a b : Severity) : Severity := if (compare a b).isGT then a else b

end Severity

/-! ## Codes -/

structure Diagnostic.Code where
  severity : Severity
  number : UInt16
  deriving DecidableEq, Repr

namespace Diagnostic.Code

def digits (number : UInt16) : List Char :=
  let digits := Nat.toDigits 10 number.toNat
  List.replicate (3 - digits.length) '0' ++ digits

def shown (code : Code) : String := String.ofList (code.severity.letter :: digits code.number)

end Diagnostic.Code

/-! ## Diagnostics -/

structure Diagnostic where
  severity : Severity
  code : Diagnostic.Code
  message : String
  path : Option Path
  notes : List String
  help : List String
  deriving DecidableEq, Repr

namespace Diagnostic

/-- The code takes its severity from the diagnostic. -/
def ofSeverity (severity : Severity) (number : UInt16) (message : String) : Diagnostic :=
  ⟨severity, ⟨severity, number⟩, message, none, [], []⟩

def error (number : UInt16) (message : String) : Diagnostic := ofSeverity .error number message

def warning (number : UInt16) (message : String) : Diagnostic :=
  ofSeverity .warning number message

def withPath (d : Diagnostic) (path : Path) : Diagnostic := { d with path := some path }

def withNote (d : Diagnostic) (note : String) : Diagnostic :=
  { d with notes := d.notes ++ [note] }

def withHelp (d : Diagnostic) (help : String) : Diagnostic :=
  { d with help := d.help ++ [help] }

/-- Whether a diagnostic is about this path, in any spelling. -/
def isAbout (path : Path) (d : Diagnostic) : Bool :=
  match d.path with
  | some named => decide (named.Same path)
  | none => false

def shown (d : Diagnostic) : String :=
  let head := d.severity.shown ++ "[" ++ d.code.shown ++ "]: " ++ d.message
  let place := d.path.toList.map fun path => "\n  --> " ++ path.shown
  let notes := d.notes.map fun note => "\n   = note: " ++ note
  let help := d.help.map fun help => "\n   = help: " ++ help
  head ++ String.join (place ++ notes ++ help)

end Diagnostic

end SourceIndex
