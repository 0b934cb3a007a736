/-!
# Numbers of the 64-bit binary format

A number of the format is a whole number times a power of two. All arithmetic here is exact, on
natural numbers, and is then rounded once to the nearest number of the format, a tie to the even
one.
-/

namespace SourceIndex

/-- Ten times itself, `n` times over. -/
def tenTo (n : Nat) : Nat := Nat.pow 10 n

/-- The number `mantissa · 2 ^ exponent`, without its sign. -/
structure Binary64 where
  mantissa : Nat
  exponent : Int
  deriving DecidableEq, Repr

namespace Binary64

def zero : Binary64 := ⟨0, -1074⟩

/-- A mantissa has at most 53 binary digits. -/
def mantissaBound : Nat := 0x20000000000000

/-- The least mantissa with all 53 digits. -/
def leastFull : Nat := 0x10000000000000

/-- The number is `numerator / denominator`. -/
def numerator (x : Binary64) : Nat := x.mantissa <<< x.exponent.toNat

def denominator (x : Binary64) : Nat := 1 <<< (-x.exponent).toNat

def isZero (x : Binary64) : Bool := x.mantissa == 0

/-- The whole number nearest to `num / den`, a tie to the even one. -/
def nearestWhole (num den : Nat) : Nat :=
  let below := num / den
  let rest := num % den
  if 2 * rest < den then below
  else if den < 2 * rest then below + 1
  else if below % 2 = 0 then below
  else below + 1

/-- `num / den` in units of `2 ^ exponent`, again as a ratio. -/
def inUnits (num den : Nat) (exponent : Int) : Nat × Nat :=
  (num <<< (-exponent).toNat, den <<< exponent.toNat)

/-- The number of the format nearest to `num / den`, and nothing if that is beyond the largest. -/
def ofRatio? (num den : Nat) : Option Binary64 :=
  if num = 0 then some zero
  else
    let guess : Int := (num.log2 : Int) - den.log2 - 53
    let units := inUnits num den guess
    let exponent := max (-1074) (if units.1 / units.2 < mantissaBound then guess else guess + 1)
    let units := inUnits num den exponent
    let mantissa := nearestWhole units.1 units.2
    let x : Binary64 :=
      if mantissa = mantissaBound then ⟨leastFull, exponent + 1⟩ else ⟨mantissa, exponent⟩
    if x.exponent ≤ 971 then some x else none

def add? (x y : Binary64) : Option Binary64 :=
  ofRatio? (x.numerator * y.denominator + y.numerator * x.denominator)
    (x.denominator * y.denominator)

def mul? (x y : Binary64) : Option Binary64 :=
  ofRatio? (x.numerator * y.numerator) (x.denominator * y.denominator)

/-- The quotient. `y` is not zero. -/
def div? (x y : Binary64) : Option Binary64 :=
  ofRatio? (x.numerator * y.denominator) (x.denominator * y.numerator)

end Binary64

/-- A number with its sign, or what is no number. -/
inductive Float64 where
  | finite (negative : Bool) (size : Binary64)
  | infinite (negative : Bool)
  | notANumber
  deriving DecidableEq, Repr

end SourceIndex
