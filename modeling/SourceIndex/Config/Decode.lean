import SourceIndex.Config.Basic
import SourceIndex.Toml.Decode

/-!
# Configurations in TOML

Whatever a document does not say has its default.
-/

namespace SourceIndex

open Toml

namespace GlobalOption

def configName : GlobalOption → String
  | backgroundIndexing => "background-indexing"
  | backgroundEditing => "background-editing"

def ofToml : Decoder GlobalOption :=
  choice ([backgroundIndexing, backgroundEditing].map fun option => (option.configName, option))

end GlobalOption

namespace ExitPolicy

def configName : ExitPolicy → String
  | leak => "leak"
  | dispose => "dispose"

def ofToml : Decoder ExitPolicy :=
  choice ([leak, dispose].map fun policy => (policy.configName, policy))

end ExitPolicy

namespace Settings

def fields : List (Toml.Field Settings) := [
  .of "verbosity" byte fun settings verbosity => { settings with verbosity },
  .of "exclude_declarations_from_pch" bool
    fun settings exclude => { settings with excludeDeclarationsFromPch := exclude },
  .of "display_diagnostics" bool
    fun settings display => { settings with displayDiagnostics := some display },
  .of "global_options" (list GlobalOption.ofToml)
    fun settings globalOptions => { settings with globalOptions },
  .of "shutdown" ExitPolicy.ofToml fun settings shutdown => { settings with shutdown }]

def ofToml : Decoder Settings := record "struct IndexSettings" fields default

end Settings

namespace Arguments

/-- Lists of arguments by name. -/
def dictionary (value : Toml) : Except Misfit (Dictionary (List String)) :=
  (Toml.entries (list Toml.text) value).map .ofList

def fields : List (Toml.Field Arguments) := [
  .of "default" textOrTexts fun arguments default => { arguments with default },
  .of "exclude" (list Toml.text) fun arguments exclude => { arguments with exclude },
  .of "extensions" dictionary fun arguments extensions => { arguments with extensions },
  .of "files" dictionary fun arguments files => { arguments with files }]

def ofToml : Decoder Arguments := record "struct ArgumentsConfig" fields empty

end Arguments

namespace Config

def fields : List (Toml.Field Config) := [
  .of "index" Settings.ofToml fun config index => { config with index },
  .of "arguments" Arguments.ofToml fun config arguments => { config with arguments }]

/-- Reads the entries of a document. -/
def ofToml (entries : List (String × Toml)) : Except Misfit Config :=
  fillEntries fields entries default

end Config

end SourceIndex
