import SourceIndex.Decimal.Binary64

/-!
# TOML values

A TOML document is a table. The entries of a table stand in the order in which they were first
written.
-/

namespace SourceIndex

/-- How a table was written. -/
inductive TableKind where
  | standard
  | inline
  deriving DecidableEq, Repr

inductive Toml where
  | string (text : String)
  | integer (value : Int)
  | float (value : Float64)
  | boolean (value : Bool)
  /-- A date, a time or both, in their normal form. -/
  | date (shown : String)
  | array (items : List Toml)
  | arrayOfTables (tables : List Toml)
  | table (kind : TableKind) (entries : List (String × Toml))

namespace Toml

/-- What a value is called in messages. -/
def typeName : Toml → String
  | string _ => "string"
  | integer _ => "integer"
  | float _ => "float"
  | boolean _ => "boolean"
  | date _ => "datetime"
  | array _ => "array"
  | arrayOfTables _ => "array of tables"
  | table .inline _ => "inline table"
  | table .standard _ => "table"

end Toml

end SourceIndex
