import SourceIndex.Decimal.Shortest
import SourceIndex.Mismatch
import SourceIndex.Toml.Basic
import SourceIndex.Toml.Layout

/-!
# What a TOML value holds

Values are taken out of a document in the order in which they stand there, and the first that
does not fit is reported.
-/

namespace SourceIndex.Toml

/-- What does not fit in a value, and the way to it. -/
structure Misfit where
  way : List Step
  cause : Mismatch
  deriving DecidableEq, Repr

abbrev Decoder (α : Type) := Toml → Except Misfit α

/-- Puts a step in front of the way to what does not fit. -/
def within {α : Type} (step : Step) (decoded : Except Misfit α) : Except Misfit α :=
  decoded.mapError fun misfit => { misfit with way := step :: misfit.way }

/-! ## What is found -/

def floatShown : Float64 → String
  | .finite negative size =>
    (if negative then "-" else "") ++ Decimal.withPoint (size.shortest .upper).positional
  | .infinite negative => if negative then "-inf" else "inf"
  | .notANumber => "NaN"

/-- A date is a map with a single secret key. -/
def found : Toml → Found
  | string text => .string text
  | integer value => .integer value
  | float value => .float (floatShown value)
  | boolean value => .boolean value
  | date _ => .map
  | array _ => .sequence
  | arrayOfTables _ => .sequence
  | table _ _ => .map

def misfit {α : Type} (cause : Mismatch) : Except Misfit α := .error ⟨[], cause⟩

def refuse {α : Type} (wanted : String) (value : Toml) : Except Misfit α :=
  misfit (.wrongType value.found wanted)

/-! ## Plain values -/

def text : Decoder String
  | string text => .ok text
  | value => refuse "a string" value

def bool : Decoder Bool
  | boolean value => .ok value
  | value => refuse "a boolean" value

/-- A whole number of one byte. -/
def byte : Decoder UInt8
  | integer value =>
    if 0 ≤ value ∧ value < 256 then .ok (UInt8.ofNat value.toNat)
    else misfit (.outOfRange value "u8")
  | value => refuse "u8" value

/-- The items of an array. -/
def each {α : Type} (item : Decoder α) (items : List Toml) : Except Misfit (List α) :=
  items.zipIdx.mapM fun (value, index) => within (.item index) (item value)

def list {α : Type} (item : Decoder α) : Decoder (List α)
  | array items => each item items
  | arrayOfTables tables => each item tables
  | value => refuse "a sequence" value

/-- A list of texts, or one text that stands for the list of itself. -/
def textOrTexts : Decoder (List String)
  | string text => .ok [text]
  | array items => each text items
  | arrayOfTables tables => each text tables
  | value => refuse "a string or a list of strings" value

/-- The entries of a table. A date has one entry with its text. -/
def entries {α : Type} (item : Decoder α) : Decoder (List (String × α))
  | table _ entries => entries.mapM fun (key, value) =>
    within (.entry key) ((item value).map fun a => (key, a))
  | date shown => (item (string shown)).map fun a => [("date", a)]
  | value => refuse "a map" value

/-! ## Choices -/

def variant? {α : Type} (variants : List (String × α)) (name : String) : Except Misfit α :=
  match variants.find? (·.1 == name) with
  | some (_, value) => .ok value
  | none => misfit (.unknownVariant name (variants.map (·.1)))

/-- What may stand behind the name of a choice: an empty table, or an empty array. -/
def nothing : Decoder Unit
  | table _ [] | array [] | arrayOfTables [] => .ok ()
  | table _ (_ :: _) | array (_ :: _) => misfit .notEmpty
  | arrayOfTables (_ :: _) => misfit .tablesNotEmpty
  | value => misfit (.notATable value.typeName)

/-- One of some named values: its name, or a table with the name as its only key. -/
def choice {α : Type} (variants : List (String × α)) : Decoder α
  | string name => variant? variants name
  | table _ [] => misfit .noElement
  | table _ [(name, value)] => do
    let chosen ← within (.key name) (variant? variants name)
    within (.content name) (nothing value)
    pure chosen
  | table _ (_ :: _ :: _) => misfit .severalElements
  | _ => misfit .neitherStringNorTable

/-! ## Records -/

/-- A field of a record. -/
structure Field (σ : Type) where
  name : String
  fill : Toml → σ → Except Misfit σ

def Field.of {σ α : Type} (name : String) (decoder : Decoder α) (fill : σ → α → σ) : Field σ :=
  ⟨name, fun value parts => (decoder value).map (fill parts)⟩

/-- Fills the fields that the entries name. Other entries say nothing. -/
def fillEntries {σ : Type} (fields : List (Field σ)) :
    List (String × Toml) → σ → Except Misfit σ
  | [], parts => .ok parts
  | (name, value) :: rest, parts =>
    match fields.find? (·.name == name) with
    | some field => do
      let parts ← within (.entry name) (field.fill value parts)
      fillEntries fields rest parts
    | none => fillEntries fields rest parts

/-- Fills the fields in their own order, as far as there are items. `index` is that of the first
item. -/
def fillItems {σ : Type} :
    (index : Nat) → List (Field σ) → List Toml → σ → Except Misfit σ
  | index, field :: fields, item :: items, parts => do
    let parts ← within (.item index) (field.fill item parts)
    fillItems (index + 1) fields items parts
  | _, _, _, parts => .ok parts

/-- A record in which every field may be missing. -/
def record {σ : Type} (wanted : String) (fields : List (Field σ)) (start : σ) : Decoder σ
  | table _ entries => fillEntries fields entries start
  | array items => fillItems 0 fields items start
  | arrayOfTables tables => fillItems 0 fields tables start
  | date _ => .ok start
  | value => refuse wanted value

end SourceIndex.Toml
