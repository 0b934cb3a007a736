import SourceIndex.Json.Reading
import SourceIndex.Mismatch

/-!
# What a JSON text holds

A value is taken from a tree in reading order, and the first thing that is wrong decides: either
the text stops being JSON there, or it does not hold what is wanted.
-/

namespace SourceIndex.Json

inductive Fault where
  | syntaxError
  | mismatch (cause : Mismatch)
  deriving DecidableEq, Repr

/-- Takes a value from a tree. -/
abbrev Decoder (α : Type) := Json → Except Fault α

/-! ## Plain values -/

/-- Refuses a value of the wrong type, if it is a value at all. -/
def refuse {α : Type} (wanted : String) : Decoder α := fun json =>
  let wrong (found : Found) := .error (.mismatch (.wrongType found wanted))
  match json with
  | .null => wrong .null
  | .boolean value => wrong (.boolean value)
  | .number (.whole value) => wrong (.integer value)
  | .number (.fraction negative size) => wrong (.float (Number.fractionText negative size))
  | .number .tooLarge => .error .syntaxError
  | .string (some text) => wrong (.string text)
  | .string none => .error .syntaxError
  | .array _ _ => wrong .sequence
  | .object _ _ => wrong .map
  | .broken => .error .syntaxError

def text (wanted : String) : Decoder String
  | .string (some text) => .ok text
  | json => refuse wanted json

/-- A whole number from zero up to, but not including, `bound`. -/
def natural (bound : Nat) (wanted : String) : Decoder Nat
  | .number (.whole value) =>
    if 0 ≤ value ∧ value < bound then .ok value.toNat
    else .error (.mismatch (.outOfRange value wanted))
  | json => refuse wanted json

def list {α : Type} (item : Decoder α) : Decoder (List α)
  | .array items closed => do
    let values ← items.mapM item
    if closed then .ok values else .error .syntaxError
  | json => refuse "a sequence" json

/-- A value or null. -/
def optional {α : Type} (value : Decoder α) : Decoder (Option α)
  | .null => .ok none
  | json => (value json).map some

/-! ## Choices -/

def variant? {α : Type} (variants : List (String × α)) (name : String) : Except Fault α :=
  match variants.find? (·.1 == name) with
  | some (_, value) => .ok value
  | none => .error (.mismatch (.unknownVariant name (variants.map (·.1))))

/-- One of some named values: its name, or an object with the name as only key and null behind
it. Nothing else is read as a choice at all, and no key but a text. -/
def choice {α : Type} (variants : List (String × α)) : Decoder α
  | .string (some name) => variant? variants name
  | .object ((.string (some name), value) :: others) closed => do
    let chosen ← variant? variants name
    match value with
    | .null => if others.isEmpty && closed then .ok chosen else .error .syntaxError
    | _ => refuse "unit" value
  | _ => .error .syntaxError

/-! ## Records -/

/-- A field of a record that is put together in `σ`. -/
structure Field (σ : Type) where
  name : String
  isFilled : σ → Bool
  fill : Json → σ → Except Fault σ

/-- A field for one part of `σ`, read by `decoder`. -/
def Field.of {σ α : Type} (name : String) (decoder : Decoder α) (part : σ → Option α)
    (fill : σ → α → σ) : Field σ :=
  ⟨name, fun parts => (part parts).isSome, fun json parts => (decoder json).map (fill parts)⟩

/-- How a record is read. -/
structure Shape (σ α : Type) where
  /-- How the record is called in messages. -/
  wanted : String
  /-- How it is called when an array is too short for it. -/
  wantedFull : String
  fields : List (Field σ)
  /-- Whether other fields are an error. -/
  strict : Bool
  start : σ
  /-- The record, or what is wrong with its parts: the first field that is missing, for one. The
  end of an array is looked at later. -/
  finish : σ → Except Fault α

def readKey : Decoder String
  | .string (some name) => .ok name
  | _ => .error .syntaxError

/-- Fills the fields in the order of the members. -/
def fillMembers {σ α : Type} (shape : Shape σ α) : List (Json × Json) → σ → Except Fault σ
  | [], parts => .ok parts
  | (key, value) :: members, parts => do
    let name ← readKey key
    match shape.fields.find? (·.name == name) with
    | some field =>
      if field.isFilled parts then .error (.mismatch (.duplicateField name))
      else
        let parts ← field.fill value parts
        fillMembers shape members parts
    | none =>
      if shape.strict then
        .error (.mismatch (.unknownField name (shape.fields.map (·.name))))
      else if value.isWhole then fillMembers shape members parts
      else .error .syntaxError

/-- Fills the fields in their own order from the items of an array. Also tells whether the array
ends behind them. -/
def fillItems {σ : Type} (wantedFull : String) (count : Nat) (closed : Bool) :
    List (Field σ) → List Json → σ → Except Fault (σ × Bool)
  | [], items, parts => .ok (parts, items.isEmpty && closed)
  | _ :: _, [], _ =>
    if closed then .error (.mismatch (.tooShort count wantedFull)) else .error .syntaxError
  | field :: fields, item :: items, parts => do
    let parts ← field.fill item parts
    fillItems wantedFull (count + 1) closed fields items parts

def record {σ α : Type} (shape : Shape σ α) : Decoder α
  | .object members closed => do
    let parts ← fillMembers shape members shape.start
    if closed then shape.finish parts else .error .syntaxError
  | .array items closed => do
    let (parts, ends) ← fillItems shape.wantedFull 0 closed shape.fields items shape.start
    let value ← shape.finish parts
    if ends then .ok value else .error .syntaxError
  | json => refuse shape.wanted json

/-- A field that must have been filled. -/
def required {α : Type} (name : String) : Option α → Except Fault α
  | some value => .ok value
  | none => .error (.mismatch (.missingField name))

/-! ## Texts -/

/-- Takes a value from a whole text. -/
def decode {α : Type} (decoder : Decoder α) (input : String) : Except Fault α :=
  let document := read input
  match decoder document.root with
  | .ok value => if document.alone then .ok value else .error .syntaxError
  | .error fault => .error fault

end SourceIndex.Json
