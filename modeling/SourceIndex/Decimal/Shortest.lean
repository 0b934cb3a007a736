import SourceIndex.Decimal.Binary64

/-!
# The shortest decimal of a number

The decimal with the fewest digits that lies nearer to the number than to any other of its
format. Of two such decimals the nearer one is taken.
-/

namespace SourceIndex

/-- Which of two decimals is taken when both lie equally near. -/
inductive Tie where
  | upper
  | even
  deriving DecidableEq, Repr

/-- The decimal `digits · 10 ^ exponent`. -/
structure Decimal where
  digits : Nat
  exponent : Int
  deriving DecidableEq, Repr

namespace Binary64

/-! ## The decimals that read back

Everything is measured in quarters of the last binary place, so that the borders, half way to the
two neighbours, are whole. -/

/-- The number in quarters of its last place. -/
def quarters (x : Binary64) : Nat := 4 * x.mantissa

/-- The lower border. Below a power of two the numbers lie twice as close. -/
def lowerBorder (x : Binary64) : Nat :=
  if x.mantissa = leastFull ∧ x.exponent ≠ -1074 then 4 * x.mantissa - 1 else 4 * x.mantissa - 2

def upperBorder (x : Binary64) : Nat := 4 * x.mantissa + 2

/-- The borders themselves read back as the number when its mantissa is even. -/
def keepsBorders (x : Binary64) : Bool := x.mantissa % 2 == 0

/-- `quarters` quarters of the last place as a ratio over the unit `10 ^ place`. -/
def onGrid (x : Binary64) (quarters : Nat) (place : Int) : Nat × Nat :=
  let exponent := x.exponent - 2
  ((quarters <<< exponent.toNat) * tenTo (-place).toNat,
    (1 <<< (-exponent).toNat) * tenTo place.toNat)

/-- Whether `count` units of the grid lie between the borders. -/
def readsBack (x : Binary64) (place : Int) (count : Nat) : Bool :=
  let (low, unit) := x.onGrid x.lowerBorder place
  let (high, _) := x.onGrid x.upperBorder place
  if x.keepsBorders then low ≤ count * unit && count * unit ≤ high
  else low < count * unit && count * unit < high

/-- The decimal of one grid that reads back, if one of the two around the number does. -/
def onPlace? (x : Binary64) (tie : Tie) (place : Int) : Option Decimal :=
  let (num, den) := x.onGrid x.quarters place
  let below := num / den
  let rest := num % den
  let upperIsNearer :=
    if 2 * rest = den then tie == .upper || below % 2 == 1 else den < 2 * rest
  match x.readsBack place below, x.readsBack place (below + 1) with
  | true, true => some ⟨if upperIsNearer then below + 1 else below, place⟩
  | true, false => some ⟨below, place⟩
  | false, true => some ⟨below + 1, place⟩
  | false, false => none

/-- Tries ever finer grids. -/
def firstPlace (x : Binary64) (tie : Tie) : (tries : Nat) → Int → Decimal
  | 0, place => ⟨0, place⟩
  | tries + 1, place => (x.onPlace? tie place).getD (x.firstPlace tie tries (place - 1))

/-- A place at or above the number's first digit. -/
def topPlace (x : Binary64) : Int := (x.exponent + x.mantissa.log2 + 1) * 30103 / 100000 + 1

/-- The shortest decimal of a number. It never needs more than seventeen digits. -/
def shortest (x : Binary64) (tie : Tie) : Decimal :=
  if x.isZero then ⟨0, 0⟩ else x.firstPlace tie 25 x.topPlace

end Binary64

/-! ## Written out -/

namespace Decimal

def zeros (n : Nat) : String := String.ofList (List.replicate n '0')

/-- All digits in place, and a point only before a fraction. -/
def positional (d : Decimal) : String :=
  let digits := Nat.toDigits 10 d.digits
  let count := digits.length
  let fraction := (-d.exponent).toNat
  if d.digits = 0 then "0"
  else if fraction = 0 then String.ofList digits ++ zeros d.exponent.toNat
  else if fraction < count then
    String.ofList (digits.take (count - fraction)) ++ "." ++
      String.ofList (digits.drop (count - fraction))
  else "0." ++ zeros (fraction - count) ++ String.ofList digits

/-- The digits of a positional text with a point, if need be with a zero behind it. -/
def withPoint (text : String) : String := if text.toList.contains '.' then text else text ++ ".0"

end Decimal

end SourceIndex
