import SourceIndex.Text.Quoted

/-!
# Mismatches

Why a well-formed document does not hold what was wanted of it.
-/

namespace SourceIndex

/-- What stands where something else was wanted. -/
inductive Found where
  | null
  | boolean (value : Bool)
  | integer (value : Int)
  | float (shown : String)
  | string (text : String)
  | sequence
  | map
  deriving DecidableEq, Repr

def Found.shown : Found → String
  | null => "null"
  | boolean value => "boolean `" ++ toString value ++ "`"
  | integer value => "integer `" ++ toString value ++ "`"
  | float shown => "floating point `" ++ shown ++ "`"
  | string text => "string " ++ Text.quoted text
  | sequence => "sequence"
  | map => "map"

inductive Mismatch where
  | wrongType (found : Found) (wanted : String)
  | outOfRange (value : Int) (wanted : String)
  | tooShort (length : Nat) (wanted : String)
  | unknownVariant (name : String) (variants : List String)
  | unknownField (name : String) (fields : List String)
  | duplicateField (name : String)
  | missingField (name : String)
  /-- The sum of whole and fractional seconds leaves the range of seconds. -/
  | secondsOverflow
  /-- The seconds leave the range of moments. -/
  | momentOverflow
  | neitherStringNorTable
  | noElement
  | severalElements
  /-- A table or an array holds something where nothing is wanted. -/
  | notEmpty
  /-- An array of tables stands where nothing is wanted. -/
  | tablesNotEmpty
  | notATable (found : String)
  deriving DecidableEq, Repr

namespace Mismatch

/-- The names that would have been right. -/
def oneOf (names : List String) : String :=
  let ticked := names.map fun name => "`" ++ name ++ "`"
  match ticked with
  | [a] => a
  | [a, b] => a ++ " or " ++ b
  | _ => "one of " ++ ", ".intercalate ticked

def message : Mismatch → String
  | wrongType found wanted => "invalid type: " ++ found.shown ++ ", expected " ++ wanted
  | outOfRange value wanted =>
    "invalid value: integer `" ++ toString value ++ "`, expected " ++ wanted
  | tooShort length wanted => "invalid length " ++ toString length ++ ", expected " ++ wanted
  | unknownVariant name variants =>
    "unknown variant `" ++ name ++ "`, expected " ++ oneOf variants
  | unknownField name fields => "unknown field `" ++ name ++ "`, expected " ++ oneOf fields
  | duplicateField name => "duplicate field `" ++ name ++ "`"
  | missingField name => "missing field `" ++ name ++ "`"
  | secondsOverflow => "overflow deserializing SystemTime epoch offset"
  | momentOverflow => "overflow deserializing SystemTime"
  | neitherStringNorTable => "wanted string or table"
  | noElement => "wanted exactly 1 element, found 0 elements"
  | severalElements => "wanted exactly 1 element, more than 1 element"
  | notEmpty => "expected empty table"
  | tablesNotEmpty => "expected empty array"
  | notATable found => "expected table, found " ++ found

end Mismatch

end SourceIndex
