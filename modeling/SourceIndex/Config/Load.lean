import SourceIndex.Config.Decode
import SourceIndex.Config.Validation
import SourceIndex.File.Fault
import SourceIndex.Path.Relative
import SourceIndex.Toml.Reading
import SourceIndex.Toml.Report

/-!
# Loading a configuration
-/

namespace SourceIndex

/-- Why a text is not read as a configuration. -/
structure ParseFault where
  /-- What does not fit, if the text is TOML. -/
  mismatch : Option Mismatch
  /-- What is wrong and where. -/
  report : String
  deriving DecidableEq, Repr

inductive ConfigError where
  | unreadable (fault : FileFault)
  | unparsable (fault : ParseFault)
  | invalid (fault : ConfigFault)
  deriving DecidableEq, Repr

/-! ## Messages -/

/-- The kinds of errors. -/
inductive ConfigErrorKind where
  | unreadable
  | unparsable
  | invalid
  deriving DecidableEq, Repr

def ConfigErrorKind.shown (kind : ConfigErrorKind) (message : String) : String :=
  match kind with
  | unreadable => "failed to read configuration: " ++ message
  | unparsable => "failed to parse configuration: " ++ message
  | invalid => "validation error: " ++ message

namespace ConfigError

def kind : ConfigError → ConfigErrorKind
  | unreadable _ => .unreadable
  | unparsable _ => .unparsable
  | invalid _ => .invalid

def message : ConfigError → String
  | unreadable fault => fault.message
  | unparsable fault => fault.report
  | invalid fault => fault.message

def shown (error : ConfigError) : String := error.kind.shown error.message

end ConfigError

/-! ## From a text -/

namespace Config

/-- Reads a configuration without looking at what it asks for. -/
def parse (text : String) : Except ParseFault Config :=
  match Toml.read text with
  | .error stop => .error ⟨none, Toml.report text stop.span stop.message⟩
  | .ok document =>
    (ofToml document.entries).mapError fun misfit =>
      let span := document.layout.locate ⟨text.toList, text.toList⟩ misfit.way
      ⟨some misfit.cause, Toml.report text span misfit.cause.message⟩

def load (text : String) : Except ConfigError Config :=
  match parse text with
  | .error fault => .error (.unparsable fault)
  | .ok config =>
    match config.fault? with
    | some fault => .error (.invalid fault)
    | none => .ok config

/-! ## From a project -/

def fileName : Path := .ofText "tuindex.toml"

/-- Loads the configuration of the project in `dir`. `read` reads a file. -/
def loadProject (read : Path → Except FileFault (List UInt8)) (dir : Path) :
    Except ConfigError Config :=
  match read (dir.join fileName) with
  | .error fault => .error (.unreadable fault)
  | .ok bytes =>
    match Utf8.decode? bytes with
    | some text => load text
    | none => .error (.unreadable .notUtf8)

/-- A project without the file has the default configuration. -/
def loadProjectOrDefault (read : Path → Except FileFault (List UInt8)) (dir : Path) :
    Except ConfigError Config :=
  match loadProject read dir with
  | .error (.unreadable fault) =>
    if fault = .notFound then .ok default else .error (.unreadable fault)
  | other => other

end Config

end SourceIndex
