import SourceIndex.Diagnostic
import SourceIndex.File.Kind
import SourceIndex.File.Time
import SourceIndex.Json.Decode
import SourceIndex.Json.Writing

/-!
# JSON forms

How the library's values are written as JSON and read back. Two values have no JSON text: a time
before the epoch, and a diagnostic whose path is no text.
-/

namespace SourceIndex

open Json

/-! ## Choices -/

namespace FileKind

def jsonName : FileKind → String
  | header => "Header"
  | c => "C"
  | cpp => "Cpp"
  | objC => "ObjC"

def json (kind : FileKind) : String := quote kind.jsonName

def decoder : Decoder FileKind := choice (all.map fun kind => (kind.jsonName, kind))

def ofJson (text : String) : Except Fault FileKind := decode decoder text

end FileKind

namespace Severity

def jsonName : Severity → String
  | warning => "Warning"
  | error => "Error"

def json (severity : Severity) : String := quote severity.jsonName

def decoder : Decoder Severity :=
  choice ([warning, error].map fun severity => (severity.jsonName, severity))

def ofJson (text : String) : Except Fault Severity := decode decoder text

end Severity

/-! ## Times -/

namespace FileTime

def json (t : FileTime) : Except Unwritable String :=
  if t.nanos < 0 then .error .timeBeforeEpoch
  else
    let distance := t.nanos.natAbs
    .ok (writeObject [("secs_since_epoch", toString (distance / perSecond)),
      ("nanos_since_epoch", toString (distance % perSecond))])

structure Parts where
  seconds : Option Nat
  nanos : Option Nat

/-- How far a moment lies behind the epoch. Any number of nanoseconds is carried over, as long as
the seconds have room for it. -/
def distance (seconds nanos : Nat) : Except Fault Nat :=
  if UInt64.size ≤ seconds + nanos / perSecond then .error (.mismatch .secondsOverflow)
  else .ok (seconds * perSecond + nanos)

def ofDistance (distance : Nat) : Except Fault FileTime :=
  (ofNanos? distance).elim (.error (.mismatch .momentOverflow)) .ok

def shape : Shape Parts Nat where
  wanted := "struct SystemTime"
  wantedFull := "struct SystemTime"
  fields := [
    .of "secs_since_epoch" (natural UInt64.size "u64") (·.seconds)
      fun parts seconds => { parts with seconds := some seconds },
    .of "nanos_since_epoch" (natural UInt32.size "u32") (·.nanos)
      fun parts nanos => { parts with nanos := some nanos }]
  strict := true
  start := ⟨none, none⟩
  finish parts := do
    let seconds ← required "secs_since_epoch" parts.seconds
    let nanos ← required "nanos_since_epoch" parts.nanos
    distance seconds nanos

/-- Whether there is such a moment is asked when the whole record was read. -/
def decoder : Decoder FileTime := fun json => do ofDistance (← record shape json)

def ofJson (text : String) : Except Fault FileTime := decode decoder text

end FileTime

/-! ## Codes -/

namespace Diagnostic.Code

def json (code : Diagnostic.Code) : String :=
  writeObject [("severity", code.severity.json), ("number", toString code.number.toNat)]

structure Parts where
  severity : Option Severity
  number : Option Nat

def shape : Shape Parts Diagnostic.Code where
  wanted := "struct DiagnosticCode"
  wantedFull := "struct DiagnosticCode with 2 elements"
  fields := [
    .of "severity" Severity.decoder (·.severity)
      fun parts severity => { parts with severity := some severity },
    .of "number" (natural UInt16.size "u16") (·.number)
      fun parts number => { parts with number := some number }]
  strict := false
  start := ⟨none, none⟩
  finish parts := do
    let severity ← required "severity" parts.severity
    let number ← required "number" parts.number
    pure ⟨severity, UInt16.ofNat number⟩

def decoder : Decoder Diagnostic.Code := record shape

def ofJson (text : String) : Except Fault Diagnostic.Code := decode decoder text

end Diagnostic.Code

/-! ## Diagnostics -/

namespace Diagnostic

/-- A missing path is null. -/
def pathJson : Option Path → Except Unwritable String
  | none => .ok "null"
  | some path =>
    match path.text? with
    | some text => .ok (quote text)
    | none => .error .pathIsNoText

def json (d : Diagnostic) : Except Unwritable String := do
  let path ← pathJson d.path
  pure (writeObject [("severity", d.severity.json), ("code", d.code.json),
    ("message", quote d.message), ("path", path), ("notes", writeArray (d.notes.map quote)),
    ("help", writeArray (d.help.map quote))])

structure Parts where
  severity : Option Severity
  code : Option Diagnostic.Code
  message : Option String
  /-- A path that was read may be null. -/
  path : Option (Option String)
  notes : Option (List String)
  help : Option (List String)

def texts : Decoder (List String) := list (text "a string")

def shape : Shape Parts Diagnostic where
  wanted := "struct Diagnostic"
  wantedFull := "struct Diagnostic with 6 elements"
  fields := [
    .of "severity" Severity.decoder (·.severity)
      fun parts severity => { parts with severity := some severity },
    .of "code" Diagnostic.Code.decoder (·.code)
      fun parts code => { parts with code := some code },
    .of "message" (text "a string") (·.message)
      fun parts message => { parts with message := some message },
    .of "path" (optional (text "path string")) (·.path)
      fun parts path => { parts with path := some path },
    .of "notes" texts (·.notes)
      fun parts notes => { parts with notes := some notes },
    .of "help" texts (·.help)
      fun parts help => { parts with help := some help }]
  strict := false
  start := ⟨none, none, none, none, none, none⟩
  finish parts := do
    let severity ← required "severity" parts.severity
    let code ← required "code" parts.code
    let message ← required "message" parts.message
    let path := (parts.path.getD none).map Path.ofText
    let notes ← required "notes" parts.notes
    let help ← required "help" parts.help
    pure ⟨severity, code, message, path, notes, help⟩

def decoder : Decoder Diagnostic := record shape

def ofJson (text : String) : Except Fault Diagnostic := decode decoder text

end Diagnostic

end SourceIndex
