import SourceIndex.File.Time

/-!
# Clocks

A session has a clock of its own, for what changes by itself, and it is told other times, which
it sets on files. The two never meet: the clock runs within one second, and none of the times
that the session is told lies in it.
-/

namespace SourceIndex.Simulation

structure Clock where
  /-- The second, counted from the epoch, within which the clock runs. -/
  second : UInt32
  /-- The nanoseconds that have passed. -/
  ticks : Nat
  deriving DecidableEq, Repr

namespace Clock

def now (clock : Clock) : FileTime where
  nanos := (clock.second.toNat * FileTime.perSecond + clock.ticks % FileTime.perSecond : Nat)
  bound_le := by
    simp only [FileTime.bound, FileTime.perSecond]
    omega
  lt_bound := by
    have := clock.second.toNat_lt
    simp only [FileTime.bound, FileTime.perSecond]
    omega

def tick (clock : Clock) : Clock := { clock with ticks := clock.ticks + 1 }

/-! ## A second apart -/

/-- The second in which a time lies. -/
def secondOf (time : FileTime) : Int := time.nanos / FileTime.perSecond

/-- The times that lie in other seconds. -/
def outside (second : Nat) (times : List FileTime) : List FileTime :=
  times.filter (secondOf · ≠ second)

theorem length_outside_lt {second : Nat} {times : List FileTime}
    (found : ∃ time ∈ times, secondOf time = second) :
    (outside second times).length < times.length := by
  obtain ⟨time, among, here⟩ := found
  exact List.length_filter_lt_length_iff_exists.2 ⟨time, among, by simp [here]⟩

/-- The first second from this one on in which none of the times lies. -/
def freeSecond (times : List FileTime) (second : Nat) : Nat :=
  if ∃ time ∈ times, secondOf time = second then freeSecond (outside second times) (second + 1)
  else second
termination_by times.length
decreasing_by exact length_outside_lt ‹_›

/-- A second as good as any other. -/
def usualSecond : Nat := 1700000000

/-- A clock that never shows one of these times. -/
def apartFrom (times : List FileTime) : Clock := ⟨.ofNat (freeSecond times usualSecond), 0⟩

/-- A clock where nothing is told about times. -/
def start : Clock := apartFrom []

end Clock

end SourceIndex.Simulation
