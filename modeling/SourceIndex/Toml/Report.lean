import SourceIndex.Toml.Stop

/-!
# Reports

A report shows the line in which something is wrong, marks what it is about, and says what is
wrong. The end of a text is shown behind its last character, also where that ends a line.
-/

namespace SourceIndex.Toml

def isLineEnd (c : Char) : Bool := c == '\n'

/-- What a text of these characters takes in bytes. -/
def byteLength (letters : List Char) : Nat := letters.foldl (fun n c => n + c.utf8Size) 0

/-- A line of a text, split at the place that a report is about. -/
structure SplitLine where
  /-- The lines in front of this one. -/
  above : Nat
  before : List Char
  behind : List Char
  /-- The place is the end of the text, behind its last character. -/
  atEnd : Bool

namespace SplitLine

/-- The line in which `place` stands, which is a place of this text. -/
def of (text : List Char) (place : Place) : SplitLine :=
  let before := if place = [] then text.dropLast else text.take (text.length - place.length)
  let behind := text.drop before.length
  ⟨before.countP isLineEnd, (before.reverse.takeWhile (!isLineEnd ·)).reverse,
    behind.takeWhile (!isLineEnd ·), place = [] ∧ behind ≠ []⟩

def content (line : SplitLine) : List Char := line.before ++ line.behind

/-- The columns in front of the place: one for a character, but one for a byte in front of a
character of several bytes. -/
def column (line : SplitLine) : Nat :=
  if line.atEnd then line.before.length + 1
  else if line.behind.head?.any (0x80 ≤ ·.toNat) then byteLength line.before
  else line.before.length

end SplitLine

def times (n : Nat) (c : Char) : String := String.ofList (List.replicate n c)

/-- The report of a message about a part of a text. At least one character is marked, and none
behind the line. -/
def report (text : String) (span : Span) (message : String) : String :=
  let line := SplitLine.of text.toList span.start
  let marked := byteLength (span.start.take (span.start.length - span.stop.length))
  let room := byteLength line.content - line.column
  let number := toString (line.above + 1)
  let margin := times (number.length + 1) ' ' ++ "|"
  "\n".intercalate [
    "TOML parse error at line " ++ number ++ ", column " ++ toString (line.column + 1),
    margin,
    number ++ " | " ++ String.ofList line.content,
    margin ++ times (line.column + 1) ' ' ++ times (max 1 (min marked room)) '^',
    message, ""]

end SourceIndex.Toml
