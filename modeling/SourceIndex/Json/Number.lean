import SourceIndex.Decimal.Shortest

/-!
# JSON numbers

A whole number is kept exactly as long as it fits in 64 bits. Any other number becomes one of the
64-bit binary format, by one multiplication or division with a power of ten, so that its last
place may be off. A number beyond the largest of the format is not a number at all.
-/

namespace SourceIndex.Json

inductive Number where
  | whole (value : Int)
  | fraction (negative : Bool) (size : Binary64)
  | tooLarge
  deriving DecidableEq, Repr

namespace Number

/-! ## Reading the digits -/

def digitValue (c : Char) : Nat := c.toNat - '0'.toNat

/-- The largest whole number that is kept exactly. -/
def maxWhole : Nat := UInt64.size - 1

/-- Appends digits to `start` as long as the result fits in 64 bits. Also counts the digits that
were taken and those that were left. -/
def takeDigits (start : Nat) : List Char → Nat × Nat × Nat
  | [] => (start, 0, 0)
  | c :: rest =>
    if start * 10 + digitValue c ≤ maxWhole then
      let (total, taken, left) := takeDigits (start * 10 + digitValue c) rest
      (total, taken + 1, left)
    else (start, 0, rest.length + 1)

def powerOfTen (n : Nat) : Binary64 := (Binary64.ofRatio? (tenTo n) 1).getD .zero

/-- Divides by powers of ten up to 308 at a time. -/
def divideByTens : (rounds : Nat) → Binary64 → Nat → Binary64
  | 0, x, _ => x
  | rounds + 1, x, tens =>
    if tens ≤ 308 then (x.div? (powerOfTen tens)).getD .zero
    else if x.isZero then x
    else divideByTens rounds ((x.div? (powerOfTen 308)).getD .zero) (tens - 308)

/-- `significand · 10 ^ exponent`, and nothing if that is too large. -/
def ofParts? (significand : Nat) (exponent : Int) : Option Binary64 := do
  let x ← Binary64.ofRatio? significand 1
  if exponent < 0 then some (divideByTens 4 x (-exponent).toNat)
  else if exponent ≤ 308 then x.mul? (powerOfTen exponent.toNat)
  else if x.isZero then some x
  else none

def ofScaled (negative : Bool) (significand : Nat) (exponent : Int) : Number :=
  match ofParts? significand exponent with
  | some size => .fraction negative size
  | none => .tooLarge

/-- A number without point and exponent. -/
def ofWhole (negative : Bool) (size : Nat) : Number :=
  if !negative then .whole size
  else if 0 < size ∧ size ≤ 0x8000000000000000 then .whole (-size)
  else ofScaled true size 0

/-- The exponent as it is written: its sign and its digits. -/
structure Exponent where
  negative : Bool
  digits : List Char

/-- The largest exponent that is told apart from larger ones. -/
def maxExponent : Nat := 0x7fffffff

def exponentSize (digits : List Char) : Nat := digits.foldl (fun n c => n * 10 + digitValue c) 0

/-- Puts a number together from what was written before and behind the point. -/
def ofDigits (negative : Bool) (before : List Char) (behind : Option (List Char))
    (exponent : Option Exponent) : Number :=
  let (significand, _, left) := takeDigits 0 before
  let (significand, taken, _) := takeDigits significand (behind.getD [])
  let shift : Int := left - taken
  match exponent with
  | some e =>
    let size := exponentSize e.digits
    if size ≤ maxExponent then
      ofScaled negative significand (if e.negative then shift - size else shift + size)
    else if e.negative || significand == 0 then .fraction negative .zero
    else .tooLarge
  | none =>
    if behind.isNone && left == 0 then ofWhole negative significand
    else ofScaled negative significand shift

/-! ## Reading a number -/

def spanDigits (input : List Char) : List Char × List Char :=
  (input.takeWhile Char.isDigit, input.dropWhile Char.isDigit)

/-- The digits behind a point, if there is one. A point without digits is an error. -/
def readFraction? : List Char → Option (Option (List Char) × List Char)
  | '.' :: rest =>
    let (digits, rest) := spanDigits rest
    if digits = [] then none else some (some digits, rest)
  | rest => some (none, rest)

def readExponentDigits? (negative : Bool) (input : List Char) :
    Option (Option Exponent × List Char) :=
  let (digits, rest) := spanDigits input
  if digits = [] then none else some (some ⟨negative, digits⟩, rest)

def readExponent? : List Char → Option (Option Exponent × List Char)
  | c :: rest =>
    if c = 'e' ∨ c = 'E' then
      match rest with
      | '-' :: rest => readExponentDigits? true rest
      | '+' :: rest => readExponentDigits? false rest
      | _ => readExponentDigits? false rest
    else some (none, c :: rest)
  | [] => some (none, [])

/-- Reads a number from its first character. A zero in front of other digits is an error. -/
def read? (input : List Char) : Option (Number × List Char) := do
  let negative := input.head? == some '-'
  let input := if negative then input.drop 1 else input
  let (before, rest) := spanDigits input
  if before = [] ∨ (before.head? = some '0' ∧ before.length ≠ 1) then none
  else
    let (behind, rest) ← readFraction? rest
    let (exponent, rest) ← readExponent? rest
    some (ofDigits negative before behind exponent, rest)

/-! ## Shown in a message -/

/-- Positional between 10^-5 and 10^16, with a power of ten and its sign otherwise. -/
def fractionText (negative : Bool) (size : Binary64) : String :=
  let d := size.shortest .even
  let digits := Nat.toDigits 10 d.digits
  let point := d.exponent + digits.length
  let sign := if negative then "-" else ""
  if size.isZero then sign ++ "0.0"
  else if -5 < point ∧ point ≤ 16 then sign ++ Decimal.withPoint d.positional
  else
    let fraction := digits.drop 1
    let mark := if fraction = [] then "" else "."
    let power := if 0 < point then "e+" else "e"
    sign ++ String.ofList (digits.take 1) ++ mark ++ String.ofList fraction ++
      power ++ toString (point - 1)

end Number

end SourceIndex.Json
