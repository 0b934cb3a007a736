import SourceIndex.Toml.Basic
import SourceIndex.Toml.Stop

/-!
# TOML dates

A day, a time of day, or both, and then perhaps the offset from universal time. Each is checked
while it is read and put into its normal form.
-/

namespace SourceIndex.Toml

/-! ## Digits -/

/-- Reads exactly `count` digits. -/
def readFixed? : (count : Nat) → Place → Option (List Char × Place)
  | 0, input => some ([], input)
  | _ + 1, [] => none
  | count + 1, c :: rest =>
    if c.isDigit then (readFixed? count rest).map fun (digits, rest) => (c :: digits, rest)
    else none

def decimal (digits : List Char) : Nat :=
  digits.foldl (fun n c => n * 10 + (c.toNat - '0'.toNat)) 0

/-- Reads a number of `count` digits that lies between two bounds. -/
def readBetween (count low high : Nat) (input : Place) : Except Stop (Nat × Place) :=
  match readFixed? count input with
  | none => stopAt input
  | some (digits, rest) =>
    let value := decimal digits
    if low ≤ value ∧ value ≤ high then .ok (value, rest) else refuseAt input .outOfRange

/-- A number with at least `count` digits. -/
def padded (count n : Nat) : String :=
  let digits := Nat.toDigits 10 n
  String.ofList (List.replicate (count - digits.length) '0' ++ digits)

/-! ## Days -/

def isLeapYear (year : Nat) : Bool := year % 4 == 0 && (year % 100 != 0 || year % 400 == 0)

def daysIn (year month : Nat) : Nat :=
  if month = 2 then (if isLeapYear year then 29 else 28)
  else if month = 4 ∨ month = 6 ∨ month = 9 ∨ month = 11 then 30
  else 31

/-- What follows a year and its dash is a day, or nothing at all. -/
def readDay (input : Place) : Except Stop (String × Place) := do
  let (year, rest) ← readBetween 4 0 9999 input
  let rest ← readChar '-' rest
  let (month, rest) ← forGood (readBetween 2 1 12 rest)
  let rest ← forGood (readChar '-' rest)
  let (day, rest) ← forGood (readBetween 2 1 (daysIn year month) rest)
  pure (padded 4 year ++ "-" ++ padded 2 month ++ "-" ++ padded 2 day, rest)

/-! ## Times -/

/-- The digits behind the point. Those behind the ninth and zeros at the end say nothing. -/
def fractionShown (digits : List Char) : String :=
  let kept := ((digits.take 9).reverse.dropWhile (· == '0')).reverse
  if kept = [] then "" else "." ++ String.ofList kept

/-- The parts of a second, if a point and digits follow. -/
def readSubsecond : Place → String × Place
  | '.' :: rest =>
    let digits := rest.takeWhile Char.isDigit
    if digits = [] then ("", '.' :: rest) else (fractionShown digits, rest.dropWhile Char.isDigit)
  | rest => ("", rest)

/-- What follows an hour and its colon is a time, or nothing at all. -/
def readTime (input : Place) : Except Stop (String × Place) := do
  let (hour, rest) ← readBetween 2 0 23 input
  let rest ← readChar ':' rest
  let (minute, rest) ← forGood (readBetween 2 0 59 rest)
  let rest ← forGood (readChar ':' rest)
  let (second, rest) ← forGood (readBetween 2 0 60 rest)
  let (fraction, rest) := readSubsecond rest
  pure (padded 2 hour ++ ":" ++ padded 2 minute ++ ":" ++ padded 2 second ++ fraction, rest)

/-- Reads hours and minutes behind a sign. No offset at all counts as ahead. -/
def readDistance (sign : String) (input : Place) : Except Stop (String × Place) := do
  let (hour, rest) ← readBetween 2 0 23 input
  let rest ← readChar ':' rest
  let (minute, rest) ← readBetween 2 0 59 rest
  let sign := if hour = 0 ∧ minute = 0 then "+" else sign
  pure (sign ++ padded 2 hour ++ ":" ++ padded 2 minute, rest)

def readOffset : Place → Except Stop (String × Place)
  | '+' :: rest => forGood (about "time offset" (readDistance "+" rest))
  | '-' :: rest => forGood (about "time offset" (readDistance "-" rest))
  | c :: rest => .ok (if c = 'Z' ∨ c = 'z' then ("Z", rest) else ("", c :: rest))
  | [] => .ok ("", [])

/-! ## Dates -/

def isDelimiter (c : Char) : Bool := c == 'T' || c == 't' || c == ' '

/-- Reads the time that follows a day. -/
def readTimeOfDay : Place → Except Stop (String × Place)
  | [] => stopAt []
  | c :: rest =>
    if isDelimiter c then do
      let (time, rest) ← readTime rest
      let (offset, rest) ← readOffset rest
      pure ("T" ++ time ++ offset, rest)
    else stopAt (c :: rest)

/-- Reads a day and perhaps a time. -/
def readMoment (input : Place) : Except Stop (String × Place) := do
  let (day, rest) ← readDay input
  otherwise ((readTimeOfDay rest).map fun (time, rest) => (day ++ time, rest))
    fun () => .ok (day, rest)

def readDate (input : Place) : Except Stop (Toml × Place) :=
  (otherwise (about "date-time" (readMoment input)) fun () => about "time" (readTime input)).map
    fun (shown, rest) => (.date shown, rest)

end SourceIndex.Toml
