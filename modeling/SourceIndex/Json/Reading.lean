import SourceIndex.Json.Number
import SourceIndex.Json.Quoted

/-!
# JSON read as far as it goes

A text that is no JSON may still begin as one, and what begins well is looked at first. So the
tree of a text keeps everything in front of the first error and shows where it stops.
-/

namespace SourceIndex

/-- What was read of a value. -/
inductive Json where
  | null
  | boolean (value : Bool)
  | number (value : Json.Number)
  /-- There is no text when the string holds half of a surrogate pair. -/
  | string (text : Option String)
  /-- Whether the closing bracket was reached. -/
  | array (items : List Json) (closed : Bool)
  /-- The members in order. A key may be anything but a string only at the error. -/
  | object (members : List (Json × Json)) (closed : Bool)
  /-- No value could be read. -/
  | broken

namespace Json

def isBlank (c : Char) : Bool := c == ' ' || c == '\n' || c == '\t' || c == '\r'

def skipBlanks (input : List Char) : List Char := input.dropWhile isBlank

/-- What is behind `word` in `input`, if `input` starts with it. -/
def behindWord? (word : String) (input : List Char) : Option (List Char) :=
  let letters := word.toList
  if letters.isPrefixOf input then some (input.drop letters.length) else none

/-- A value that is one fixed word. -/
def readWord (word : String) (value : Json) (input : List Char) : Json × List Char :=
  match behindWord? word input with
  | some rest => (value, rest)
  | none => (.broken, [])

def readScalar (input : List Char) : Json × List Char :=
  match input with
  | '"' :: rest =>
    match readString? rest with
    | some (read, rest) => (.string read, rest)
    | none => (.broken, [])
  | 't' :: _ => readWord "true" (.boolean true) input
  | 'f' :: _ => readWord "false" (.boolean false) input
  | 'n' :: _ => readWord "null" .null input
  | _ =>
    match Number.read? input with
    | some (read, rest) => (.number read, rest)
    | none => (.broken, [])

/-- What is behind a comma, unless the closing bracket is. -/
def behindComma? (closing : Char) : List Char → Option (List Char)
  | ',' :: rest =>
    let rest := skipBlanks rest
    if rest.head? = some closing then none else some rest
  | _ => none

mutual

/-- Reads one value. `fuel` bounds the number of values and commas still to come. -/
def readValue : (fuel : Nat) → List Char → Json × List Char
  | 0, _ => (.broken, [])
  | fuel + 1, input =>
    match skipBlanks input with
    | '[' :: rest =>
      let (items, closed, rest) := readItems fuel true rest
      (.array items closed, rest)
    | '\x7b' :: rest =>
      let (members, closed, rest) := readMembers fuel true rest
      (.object members closed, rest)
    | input => readScalar input

/-- Reads the items of an array up to its end. `first` tells that no item was read yet. -/
def readItems : (fuel : Nat) → (first : Bool) → List Char → List Json × Bool × List Char
  | 0, _, _ => ([], false, [])
  | fuel + 1, first, input =>
    match skipBlanks input with
    | ']' :: rest => ([], true, rest)
    | input =>
      match if first then some input else behindComma? ']' input with
      | none => ([], false, [])
      | some input =>
        let (item, rest) := readValue fuel input
        let (items, closed, rest) := readItems fuel false rest
        (item :: items, closed, rest)

/-- Reads the members of an object up to its end. -/
def readMembers : (fuel : Nat) → (first : Bool) → List Char →
    List (Json × Json) × Bool × List Char
  | 0, _, _ => ([], false, [])
  | fuel + 1, first, input =>
    match skipBlanks input with
    | '\x7d' :: rest => ([], true, rest)
    | input =>
      match if first then some input else behindComma? '\x7d' input with
      | none => ([], false, [])
      | some input =>
        let (key, rest) := readValue fuel input
        match skipBlanks rest with
        | ':' :: rest =>
          let (value, rest) := readValue fuel rest
          let (members, closed, rest) := readMembers fuel false rest
          ((key, value) :: members, closed, rest)
        | _ => ([(key, .broken)], false, [])

end

/-- A value and whether nothing follows it. -/
structure Document where
  root : Json
  alone : Bool

/-- Every value and every comma takes a character, so this much fuel is enough. -/
def read (text : String) : Document :=
  let input := text.toList
  let (root, rest) := readValue (2 * input.length + 2) input
  ⟨root, (skipBlanks rest).isEmpty⟩

/-! ## Values that are passed over -/

mutual

/-- Whether a value was read to its end. -/
def isWhole : Json → Bool
  | .array items closed => closed && areWhole items
  | .object members closed => closed && areMembersWhole members
  | .broken => false
  | .null | .boolean _ | .number _ | .string _ => true

def areWhole : List Json → Bool
  | [] => true
  | item :: items => item.isWhole && areWhole items

def areMembersWhole : List (Json × Json) → Bool
  | [] => true
  | (key, value) :: members => key.isKey && value.isWhole && areMembersWhole members

def isKey : Json → Bool
  | .string _ => true
  | _ => false

end

end Json

end SourceIndex
