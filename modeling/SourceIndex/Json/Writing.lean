import SourceIndex.Json.Quoted

/-!
# JSON as it is written

Written without blanks, on one line.
-/

namespace SourceIndex.Json

/-- Why a value has no JSON text. -/
inductive Unwritable where
  | timeBeforeEpoch
  | pathIsNoText
  deriving DecidableEq, Repr

def Unwritable.message : Unwritable → String
  | timeBeforeEpoch => "SystemTime must be later than UNIX_EPOCH"
  | pathIsNoText => "path contains invalid UTF-8 characters"

/-- An object from its names and written values. -/
def writeObject (members : List (String × String)) : String :=
  let written := members.map fun (name, value) => quote name ++ ":" ++ value
  "\x7b" ++ ",".intercalate written ++ "\x7d"

/-- An array from its written items. -/
def writeArray (items : List String) : String := "[" ++ ",".intercalate items ++ "]"

end SourceIndex.Json
