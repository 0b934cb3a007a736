import SourceIndex.Text.Printable
import SourceIndex.Text.Utf8

/-!
# Texts between quotes

How a text is shown inside a message, so that its end and its invisible characters can be seen.
-/

namespace SourceIndex.Text

/-- The text of a number in base 16, in small letters. -/
def hexLower (n : Nat) : String := String.ofList (Nat.toDigits 16 n)

/-- A byte as two capital letters or digits. -/
def hexByte (b : UInt8) : String :=
  let digits := (Nat.toDigits 16 b.toNat).map Char.toUpper
  String.ofList (if digits.length < 2 then '0' :: digits else digits)

/-- One character as it stands between quotes. -/
def quotedChar (c : Char) : String :=
  if c = '\x00' then "\\0"
  else if c = '\t' then "\\t"
  else if c = '\r' then "\\r"
  else if c = '\n' then "\\n"
  else if c = '"' then "\\\""
  else if c = '\\' then "\\\\"
  else if isPrintable c then c.toString
  else "\\u\x7b" ++ hexLower c.toNat ++ "\x7d"

def quoted (text : String) : String :=
  "\"" ++ String.join (text.toList.map quotedChar) ++ "\""

/-- Bytes between quotes: their text, and `\x` with two digits for each damaged byte. -/
def quotedBytes (bytes : List UInt8) : String :=
  let shown : Utf8.Piece → String
    | .char c => quotedChar c
    | .damage damaged => String.join (damaged.map fun b => "\\x" ++ hexByte b)
  "\"" ++ String.join ((Utf8.pieces bytes).map shown) ++ "\""

end SourceIndex.Text
