import SourceIndex.Toml.Basic
import SourceIndex.Toml.Text

/-!
# TOML numbers

Whole numbers have 64 bits with a sign. Other numbers are rounded once to the 64-bit binary
format, and a positive one beyond the largest is an error.
-/

namespace SourceIndex.Toml

/-! ## Digits -/

/-- Digits behind the first one. A single underscore may stand between two digits, and only
there. -/
def moreDigits (isDigit : Char → Bool) : Place → Except Stop (List Char × Place)
  | [] => .ok ([], [])
  | ['_'] => forGood (expecting ["digit"] (stopAt []))
  | '_' :: c :: rest =>
    if isDigit c then (moreDigits isDigit rest).map (put c)
    else forGood (expecting ["digit"] (stopAt (c :: rest)))
  | c :: rest =>
    if isDigit c then (moreDigits isDigit rest).map (put c) else .ok ([], c :: rest)

/-- At least one digit. -/
def readDigits (isDigit : Char → Bool) : Place → Except Stop (List Char × Place)
  | [] => stopAt []
  | c :: rest =>
    if isDigit c then (moreDigits isDigit rest).map (put c) else stopAt (c :: rest)

def valueOf (base : Nat) (digits : List Char) : Nat :=
  digits.foldl (fun n c => n * base + (Json.hexValue? c).getD 0) 0

/-- Reads a sign, if there is one. The answer tells whether it is a minus. -/
def readSign : Place → Bool × Place
  | '-' :: rest => (true, rest)
  | '+' :: rest => (false, rest)
  | rest => (false, rest)

/-- Digits with a sign in front. -/
structure Signed where
  negative : Bool
  digits : List Char

/-- The digits of a decimal number. Behind a zero in front there are no more. -/
def readDecimal (input : Place) : Except Stop (Signed × Place) :=
  let (negative, rest) := readSign input
  match rest with
  | '0' :: rest => .ok (⟨negative, ['0']⟩, rest)
  | rest =>
    about "integer" ((readDigits Char.isDigit rest).map fun (digits, rest) =>
      (⟨negative, digits⟩, rest))

def Signed.value (signed : Signed) : Int :=
  if signed.negative then -(valueOf 10 signed.digits : Int) else valueOf 10 signed.digits

/-! ## Whole numbers -/

/-- Whole numbers have 64 bits with a sign. -/
def wholeBound : Int := 0x8000000000000000

/-- The whole number that stands at a place. -/
def ofWhole (place : Place) (value : Int) : Except Stop Toml :=
  if value < -wholeBound then refuseAt place .tooSmall
  else if wholeBound ≤ value then refuseAt place .tooLarge
  else .ok (.integer value)

/-- Reads the digits behind the letter that tells their base. -/
def readInBase (name : String) (base : Nat) (isDigit : Char → Bool) (input : Place) :
    Except Stop (Toml × Place) := do
  let (digits, rest) ← about name (readDigits isDigit (input.drop 2))
  let value ← ofWhole input (valueOf base digits)
  pure (value, rest)

def isHexadecimal (c : Char) : Bool := (Json.hexValue? c).isSome

def isOctal (c : Char) : Bool := '0' ≤ c && c ≤ '7'

def isBinary (c : Char) : Bool := c == '0' || c == '1'

def readWhole (input : Place) : Except Stop (Toml × Place) :=
  match input with
  | '0' :: 'x' :: _ => forGood (readInBase "hexadecimal integer" 16 isHexadecimal input)
  | '0' :: 'o' :: _ => forGood (readInBase "octal integer" 8 isOctal input)
  | '0' :: 'b' :: _ => forGood (readInBase "binary integer" 2 isBinary input)
  | _ => do
    let (signed, rest) ← readDecimal input
    let value ← forGood (ofWhole input signed.value)
    pure (value, rest)

/-! ## Other numbers -/

/-- `digits · 10 ^ exponent`, and nothing if that is beyond the largest number. Far from the
ends of the format the power of ten is not worked out. -/
def ofDecimal? (digits : Nat) (count : Nat) (exponent : Int) : Option Binary64 :=
  if digits = 0 ∨ exponent + count < -400 then some .zero
  else if 400 < exponent then none
  else Binary64.ofRatio? (digits * tenTo exponent.toNat) (tenTo (-exponent).toNat)

def ofSize? (negative : Bool) : Option Binary64 → Option Toml
  | some size => some (.float (.finite negative size))
  | none => if negative then some (.float (.infinite true)) else none

/-- The digits behind a point, if there is one. -/
def readFraction : Place → Except Stop (Option (List Char) × Place)
  | '.' :: rest =>
    forGood (expecting ["digit"] ((readDigits Char.isDigit rest).map fun (digits, rest) =>
      (some digits, rest)))
  | rest => .ok (none, rest)

/-- The power of ten, if one is written. -/
def readExponent : Place → Except Stop (Option Int × Place)
  | [] => .ok (none, [])
  | c :: rest =>
    if c = 'e' ∨ c = 'E' then do
      let (negative, rest) := readSign rest
      let (digits, rest) ← forGood (readDigits Char.isDigit rest)
      pure (some (Signed.value ⟨negative, digits⟩), rest)
    else .ok (none, c :: rest)

/-- Reads a number with a point, a power of ten, or both. -/
def readFinite (input : Place) : Except Stop (Toml × Place) := do
  let (whole, rest) ← readDecimal input
  let (behind, rest) ← readFraction rest
  let (exponent, rest) ← readExponent rest
  if behind.isNone ∧ exponent.isNone then stopAt rest
  else
    let behind := behind.getD []
    let digits := whole.digits ++ behind
    let size := ofDecimal? (valueOf 10 digits) digits.length (exponent.getD 0 - behind.length)
    match ofSize? whole.negative size with
    | some value => pure (value, rest)
    | none => forGood (stopAt input)

/-- Reads the names of what is no finite number. -/
def readSpecial (input : Place) : Except Stop (Toml × Place) :=
  let (negative, rest) := readSign input
  match rest with
  | 'i' :: 'n' :: 'f' :: rest => .ok (.float (.infinite negative), rest)
  | 'n' :: 'a' :: 'n' :: rest => .ok (.float .notANumber, rest)
  | _ => stopAt rest

def readFloat (input : Place) : Except Stop (Toml × Place) :=
  about "floating-point number" (otherwise (readFinite input) fun () => readSpecial input)

def readNumber (input : Place) : Except Stop (Toml × Place) :=
  otherwise (readFloat input) fun () => readWhole input

end SourceIndex.Toml
