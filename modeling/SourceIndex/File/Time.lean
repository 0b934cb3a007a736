import SourceIndex.Decimal.Shortest

/-!
# File times

When a file was last written, to the nanosecond, before or after the epoch. Whole seconds are
counted in 64 bits with a sign.
-/

namespace SourceIndex

namespace FileTime

/-- Nanoseconds of one second. -/
def perSecond : Nat := 1000000000

/-- Seconds are counted up to this number, and down to its negative. -/
def bound : Int := 0x8000000000000000

end FileTime

/-- A moment in nanoseconds since the epoch. -/
structure FileTime where
  nanos : Int
  bound_le : -(FileTime.bound * FileTime.perSecond) ≤ nanos
  lt_bound : nanos < FileTime.bound * FileTime.perSecond
  deriving DecidableEq

namespace FileTime

/-- The moment `nanos` nanoseconds after the epoch, if the seconds can count it. -/
def ofNanos? (nanos : Int) : Option FileTime :=
  if h : -(bound * perSecond) ≤ nanos ∧ nanos < bound * perSecond then
    some ⟨nanos, h.1, h.2⟩
  else none

theorem ofNanos?_nanos (t : FileTime) : ofNanos? t.nanos = some t := by
  rw [ofNanos?, dif_pos ⟨t.bound_le, t.lt_bound⟩]

/-- The moment that lies `seconds` and then `nanos` nanoseconds after the epoch. -/
def ofSeconds? (seconds nanos : Int) : Option FileTime :=
  ofNanos? (seconds * perSecond + nanos)

/-! ## Shown -/

/-- Nine digits. -/
def nineDigits (n : Nat) : String :=
  let digits := Nat.toDigits 10 n
  String.ofList (List.replicate (9 - digits.length) '0' ++ digits)

/-- The distance from the epoch in seconds. The parts are rounded before and after they are
added up. -/
def roundedSeconds (distance : Nat) : Binary64 :=
  let part (num den : Nat) : Binary64 := (Binary64.ofRatio? num den).getD .zero
  let whole := part (distance / perSecond) 1
  let fraction := part (distance % perSecond) perSecond
  (whole.add? fraction).getD .zero

/-- After the epoch the exact seconds, before it the rounded ones behind a minus sign. -/
def shown (t : FileTime) : String :=
  let distance := t.nanos.natAbs
  if 0 ≤ t.nanos then
    toString (distance / perSecond) ++ "." ++ nineDigits (distance % perSecond)
  else "-" ++ ((roundedSeconds distance).shortest .upper).positional

end FileTime

end SourceIndex
