import SourceIndex.Config.Basic
import SourceIndex.Text.Uppercase

/-!
# Valid configurations

A configuration that was read may still ask for something that makes no sense. The first fault is
reported: settings come before arguments, and tables are gone through by their keys.
-/

namespace SourceIndex

/-- What is wrong with a configuration. -/
inductive ConfigFault where
  | verbosityTooHigh (verbosity : UInt8)
  | emptyDefaultArgument
  | extensionShape (extension : String)
  | extensionNotLowercase (extension : String)
  | emptyExtensionArgument (extension : String)
  | emptyFilePath
  | emptyFileArgument (file : String)
  deriving DecidableEq, Repr

def maxVerbosity : UInt8 := 3

namespace ConfigFault

def message : ConfigFault → String
  | verbosityTooHigh verbosity =>
    "index.verbosity must be at most " ++ toString maxVerbosity.toNat ++ ", got " ++
      toString verbosity.toNat
  | emptyDefaultArgument => "arguments.default contains an empty argument"
  | extensionShape extension =>
    "arguments.extensions key '" ++ extension ++ "' must be an extension without the leading dot"
  | extensionNotLowercase extension =>
    "arguments.extensions key '" ++ extension ++ "' must be lowercase"
  | emptyExtensionArgument extension =>
    "arguments.extensions." ++ extension ++ " contains an empty argument"
  | emptyFilePath => "arguments.files contains an empty path"
  | emptyFileArgument file => "arguments.files.\"" ++ file ++ "\" contains an empty argument"

end ConfigFault

namespace Settings

def fault? (settings : Settings) : Option ConfigFault :=
  if maxVerbosity < settings.verbosity then some (.verbosityTooHigh settings.verbosity) else none

end Settings

namespace Arguments

def defaultFault? (arguments : List String) : Option ConfigFault :=
  if "" ∈ arguments then some .emptyDefaultArgument else none

def extensionFault? : String × List String → Option ConfigFault
  | (extension, arguments) =>
    if extension = "" ∨ extension.toList.head? = some '.' then some (.extensionShape extension)
    else if extension.toList.any Text.isUppercase then some (.extensionNotLowercase extension)
    else if "" ∈ arguments then some (.emptyExtensionArgument extension)
    else none

def fileFault? : String × List String → Option ConfigFault
  | (file, arguments) =>
    if file = "" then some .emptyFilePath
    else if "" ∈ arguments then some (.emptyFileArgument file)
    else none

def fault? (arguments : Arguments) : Option ConfigFault :=
  (defaultFault? arguments.default).or <|
    (arguments.extensions.entries.findSome? extensionFault?).or <|
      arguments.files.entries.findSome? fileFault?

end Arguments

/-- The first fault of a configuration. -/
def Config.fault? (config : Config) : Option ConfigFault :=
  config.index.fault?.or config.arguments.fault?

end SourceIndex
