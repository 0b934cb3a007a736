/-!
# UTF-8

Reading bytes that may hold anything. A character is read where one stands. Where none does, the
longest piece that begins some character is one piece of damage.
-/

namespace SourceIndex.Utf8

/-! ## One character -/

/-- What the first byte of a character says: how many bytes follow it, its share of the code
point, and between which bounds the second byte lies. -/
structure Lead where
  more : Nat
  bits : Nat
  low : Nat
  high : Nat

/-- The first bytes of Unicode's table of well-formed sequences. -/
def lead? (b : Nat) : Option Lead :=
  if b < 0x80 then some ⟨0, b, 0, 0⟩
  else if b < 0xC2 then none
  else if b < 0xE0 then some ⟨1, b - 0xC0, 0x80, 0xBF⟩
  else if b = 0xE0 then some ⟨2, 0, 0xA0, 0xBF⟩
  else if b = 0xED then some ⟨2, 0xD, 0x80, 0x9F⟩
  else if b < 0xF0 then some ⟨2, b - 0xE0, 0x80, 0xBF⟩
  else if b = 0xF0 then some ⟨3, 0, 0x90, 0xBF⟩
  else if b < 0xF4 then some ⟨3, b - 0xF0, 0x80, 0xBF⟩
  else if b = 0xF4 then some ⟨3, 4, 0x80, 0x8F⟩
  else none

/-- Reads `more` bytes that continue a character. Only the first has bounds of its own. -/
def continue? : (more bits low high : Nat) → List UInt8 → Option Nat × List UInt8
  | 0, bits, _, _, rest => (some bits, rest)
  | _ + 1, _, _, _, [] => (none, [])
  | more + 1, bits, low, high, b :: rest =>
    if low ≤ b.toNat ∧ b.toNat ≤ high then
      continue? more (bits * 64 + (b.toNat - 0x80)) 0x80 0xBF rest
    else (none, b :: rest)

theorem length_continue?_le (more bits low high : Nat) (bytes : List UInt8) :
    (continue? more bits low high bytes).2.length ≤ bytes.length := by
  fun_induction continue? more bits low high bytes with
  | case1 => simp
  | case2 => simp
  | case3 _ _ _ _ _ _ _ ih => simp only [List.length_cons]; omega
  | case4 => simp

/-- A piece of a text in bytes. -/
inductive Piece where
  | char (c : Char)
  | damage (bytes : List UInt8)
  deriving DecidableEq, Repr

/-- Reads one character, or passes over one piece of damage. -/
def next (b : UInt8) (rest : List UInt8) : Piece × List UInt8 :=
  match lead? b.toNat with
  | none => (.damage [b], rest)
  | some lead =>
    match continue? lead.more lead.bits lead.low lead.high rest with
    | (some code, after) => (.char (Char.ofNat code), after)
    | (none, after) => (.damage (b :: rest.take (rest.length - after.length)), after)

theorem length_next_le (b : UInt8) (rest : List UInt8) : (next b rest).2.length ≤ rest.length := by
  unfold next
  split
  · simp
  · rename_i lead _
    have := length_continue?_le lead.more lead.bits lead.low lead.high rest
    split <;> simp_all

/-! ## A text -/

/-- The characters and the damage of `bytes`, in order. -/
def pieces : List UInt8 → List Piece
  | [] => []
  | b :: rest => (next b rest).1 :: pieces (next b rest).2
termination_by bytes => bytes.length
decreasing_by
  have := length_next_le b rest
  simp only [List.length_cons]
  omega

def Piece.char? : Piece → Option Char
  | .char c => some c
  | .damage _ => none

/-- The text that `bytes` hold, if they hold nothing else. -/
def decode? (bytes : List UInt8) : Option String :=
  ((pieces bytes).mapM Piece.char?).map String.ofList

/-- The text of `bytes`, with the replacement character for each piece of damage. -/
def decodeLossy (bytes : List UInt8) : String :=
  String.ofList ((pieces bytes).map fun piece => piece.char?.getD '\uFFFD')

def encode (text : String) : List UInt8 := text.toUTF8.data.toList

end SourceIndex.Utf8
