import SourceIndex.Text.Utf8

/-!
# Reading UTF-8 that was written

Reading and writing are inverse to each other: bytes hold a text exactly when they are what the text
is written as. A byte that is a character of its own stands alone, so that what is in front of it
and what is behind it are read apart.
-/

namespace SourceIndex.Utf8

theorem encode_eq (text : String) : encode text = text.toList.flatMap String.utf8EncodeChar := by
  obtain ⟨chars, rfl⟩ : ∃ chars, text = String.ofList chars := ⟨text.toList, by simp⟩
  simp [encode, String.toUTF8, String.toByteArray_ofList, List.utf8Encode]

/-! ## How a code point is written -/

/-- A code point that is no half of a surrogate pair. -/
def IsScalar (v : Nat) : Prop := v < 0xD800 ∨ (0xE000 ≤ v ∧ v < 0x110000)

theorem isScalar_toNat (c : Char) : IsScalar c.toNat := by
  have valid := c.valid
  unfold IsScalar Char.toNat
  simp only [UInt32.isValidChar, Nat.isValidChar] at valid
  omega

theorem toNat_ofNat {v : Nat} (scalar : IsScalar v) : (Char.ofNat v).toNat = v := by
  have valid : v.isValidChar := by
    unfold IsScalar at scalar
    unfold Nat.isValidChar
    omega
  rw [Char.ofNat, dif_pos valid]
  rfl

section

variable {v : Nat} (scalar : IsScalar v)
include scalar

theorem encodeChar_one (most : v < 0x80) :
    String.utf8EncodeChar (Char.ofNat v) = [UInt8.ofNat v] := by
  have toNat := toNat_ofNat scalar
  unfold Char.toNat at toNat
  simp only [String.utf8EncodeChar, toNat]
  rw [if_pos (by omega)]

theorem encodeChar_two (least : 0x80 ≤ v) (most : v < 0x800) :
    String.utf8EncodeChar (Char.ofNat v) =
      [UInt8.ofNat (v / 64 + 0xC0), UInt8.ofNat (v % 64 + 0x80)] := by
  have toNat := toNat_ofNat scalar
  unfold Char.toNat at toNat
  simp only [String.utf8EncodeChar, toNat]
  rw [if_neg (by omega), if_pos (by omega), Nat.mod_eq_of_lt (a := v / 64) (by omega)]

theorem encodeChar_three (least : 0x800 ≤ v) (most : v < 0x10000) :
    String.utf8EncodeChar (Char.ofNat v) =
      [UInt8.ofNat (v / 4096 + 0xE0), UInt8.ofNat (v / 64 % 64 + 0x80),
        UInt8.ofNat (v % 64 + 0x80)] := by
  have toNat := toNat_ofNat scalar
  unfold Char.toNat at toNat
  simp only [String.utf8EncodeChar, toNat]
  rw [if_neg (by omega), if_neg (by omega), if_pos (by omega),
    Nat.mod_eq_of_lt (a := v / 4096) (by omega)]

theorem encodeChar_four (least : 0x10000 ≤ v) :
    String.utf8EncodeChar (Char.ofNat v) =
      [UInt8.ofNat (v / 262144 + 0xF0), UInt8.ofNat (v / 4096 % 64 + 0x80),
        UInt8.ofNat (v / 64 % 64 + 0x80), UInt8.ofNat (v % 64 + 0x80)] := by
  have toNat := toNat_ofNat scalar
  unfold Char.toNat at toNat
  have most : v < 0x110000 := by
    unfold IsScalar at scalar
    omega
  simp only [String.utf8EncodeChar, toNat]
  rw [if_neg (by omega), if_neg (by omega), if_neg (by omega),
    Nat.mod_eq_of_lt (a := v / 262144) (by omega)]

end

/-! ## First bytes -/

theorem lead?_two {v : Nat} (least : 0x80 ≤ v) (most : v < 0x800) :
    lead? (v / 64 + 0xC0) = some ⟨1, v / 64, 0x80, 0xBF⟩ := by
  unfold lead?
  rw [if_neg (by omega), if_neg (by omega), if_pos (by omega), Nat.add_sub_cancel]

theorem lead?_three {v : Nat} (scalar : IsScalar v) (least : 0x800 ≤ v) (most : v < 0x10000) :
    ∃ low high, lead? (v / 4096 + 0xE0) = some ⟨2, v / 4096, low, high⟩ ∧
      low ≤ v / 64 % 64 + 0x80 ∧ v / 64 % 64 + 0x80 ≤ high := by
  unfold IsScalar at scalar
  unfold lead?
  rw [if_neg (by omega), if_neg (by omega), if_neg (by omega)]
  by_cases first : v / 4096 = 0
  · rw [if_pos (by omega), first]
    exact ⟨_, _, rfl, by omega, by omega⟩
  rw [if_neg (by omega)]
  -- Behind this byte would come the halves of surrogate pairs.
  by_cases halves : v / 4096 = 0xD
  · rw [if_pos (by omega), halves]
    exact ⟨_, _, rfl, by omega, by omega⟩
  rw [if_neg (by omega), if_pos (by omega), Nat.add_sub_cancel]
  exact ⟨_, _, rfl, by omega, by omega⟩

theorem lead?_four {v : Nat} (scalar : IsScalar v) (least : 0x10000 ≤ v) :
    ∃ low high, lead? (v / 262144 + 0xF0) = some ⟨3, v / 262144, low, high⟩ ∧
      low ≤ v / 4096 % 64 + 0x80 ∧ v / 4096 % 64 + 0x80 ≤ high := by
  unfold IsScalar at scalar
  unfold lead?
  rw [if_neg (by omega), if_neg (by omega), if_neg (by omega), if_neg (by omega),
    if_neg (by omega), if_neg (by omega)]
  by_cases first : v / 262144 = 0
  · rw [if_pos (by omega), first]
    exact ⟨_, _, rfl, by omega, by omega⟩
  rw [if_neg (by omega)]
  by_cases last : v / 262144 = 4
  · rw [if_neg (by omega), if_pos (by omega), last]
    exact ⟨_, _, rfl, by omega, by omega⟩
  rw [if_pos (by omega), Nat.add_sub_cancel]
  exact ⟨_, _, rfl, by omega, by omega⟩

theorem lead?_eq_some {n : Nat} {lead : Lead} (known : lead? n = some lead) :
    (lead.more = 0 ∧ lead.bits = n ∧ n < 0x80) ∨
    (lead.more = 1 ∧ n = lead.bits + 0xC0 ∧ 2 ≤ lead.bits ∧ lead.bits < 0x20 ∧
      lead.low = 0x80 ∧ lead.high = 0xBF) ∨
    (lead.more = 2 ∧ n = lead.bits + 0xE0 ∧ lead.bits < 0x10 ∧ 0x80 ≤ lead.low ∧
      lead.high ≤ 0xBF ∧ (lead.bits = 0 → 0xA0 ≤ lead.low) ∧
      (lead.bits = 0xD → lead.high ≤ 0x9F)) ∨
    (lead.more = 3 ∧ n = lead.bits + 0xF0 ∧ lead.bits ≤ 4 ∧ 0x80 ≤ lead.low ∧
      lead.high ≤ 0xBF ∧ (lead.bits = 0 → 0x90 ≤ lead.low) ∧
      (lead.bits = 4 → lead.high ≤ 0x8F)) := by
  unfold lead? at known
  repeat' split at known
  all_goals cases known
  all_goals simp
  all_goals omega

/-! ## What was written is read -/

theorem continue?_cons {n low high : Nat} (more bits : Nat) (rest : List UInt8)
    (byte : n < 256) (least : low ≤ n) (most : n ≤ high) :
    continue? (more + 1) bits low high (UInt8.ofNat n :: rest) =
      continue? more (bits * 64 + (n - 0x80)) 0x80 0xBF rest := by
  have toNat : (UInt8.ofNat n).toNat = n := by simp; omega
  rw [continue?, toNat, if_pos ⟨least, most⟩]

theorem pieces_cons (b : UInt8) (rest : List UInt8) :
    pieces (b :: rest) = (next b rest).1 :: pieces (next b rest).2 := by
  rw [pieces]

theorem next_of_lead {n v : Nat} {lead : Lead} {rest left : List UInt8} (byte : n < 256)
    (known : lead? n = some lead)
    (read : continue? lead.more lead.bits lead.low lead.high rest = (some v, left)) :
    next (UInt8.ofNat n) rest = (.char (Char.ofNat v), left) := by
  have toNat : (UInt8.ofNat n).toNat = n := by simp; omega
  simp only [next, toNat, known, read]

theorem pieces_encodeScalar {v : Nat} (scalar : IsScalar v) (rest : List UInt8) :
    pieces (String.utf8EncodeChar (Char.ofNat v) ++ rest) =
      .char (Char.ofNat v) :: pieces rest := by
  have below : v < 0x110000 := by
    unfold IsScalar at scalar
    omega
  rcases Nat.lt_or_ge v 0x80 with one | two
  · have lead : lead? v = some ⟨0, v, 0, 0⟩ := by
      unfold lead?
      rw [if_pos one]
    have read : continue? 0 v 0 0 rest = (some v, rest) := rfl
    rw [encodeChar_one scalar one, List.singleton_append, pieces_cons,
      next_of_lead (by omega) lead read]
  rcases Nat.lt_or_ge v 0x800 with most | three
  · have lead := lead?_two two most
    have read : continue? 1 (v / 64) 0x80 0xBF (UInt8.ofNat (v % 64 + 0x80) :: rest) =
        (some v, rest) := by
      rw [continue?_cons 0 _ _ (by omega) (by omega) (by omega), continue?]
      simp only [Prod.mk.injEq, Option.some.injEq, and_true]
      omega
    rw [encodeChar_two scalar two most, List.cons_append, pieces_cons, List.cons_append,
      List.nil_append, next_of_lead (by omega) lead read]
  rcases Nat.lt_or_ge v 0x10000 with most | four
  · obtain ⟨low, high, lead, least, greatest⟩ := lead?_three scalar three most
    have read : continue? 2 (v / 4096) low high
        (UInt8.ofNat (v / 64 % 64 + 0x80) :: UInt8.ofNat (v % 64 + 0x80) :: rest) =
        (some v, rest) := by
      rw [continue?_cons 1 _ _ (by omega) least greatest,
        continue?_cons 0 _ _ (by omega) (by omega) (by omega), continue?]
      simp only [Prod.mk.injEq, Option.some.injEq, and_true]
      omega
    rw [encodeChar_three scalar three most, List.cons_append, pieces_cons, List.cons_append,
      List.cons_append, List.nil_append, next_of_lead (by omega) lead read]
  · obtain ⟨low, high, lead, least, greatest⟩ := lead?_four scalar four
    have read : continue? 3 (v / 262144) low high
        (UInt8.ofNat (v / 4096 % 64 + 0x80) :: UInt8.ofNat (v / 64 % 64 + 0x80) ::
          UInt8.ofNat (v % 64 + 0x80) :: rest) = (some v, rest) := by
      rw [continue?_cons 2 _ _ (by omega) least greatest,
        continue?_cons 1 _ _ (by omega) (by omega) (by omega),
        continue?_cons 0 _ _ (by omega) (by omega) (by omega), continue?]
      simp only [Prod.mk.injEq, Option.some.injEq, and_true]
      omega
    rw [encodeChar_four scalar four, List.cons_append, pieces_cons, List.cons_append,
      List.cons_append, List.cons_append, List.nil_append, next_of_lead (by omega) lead read]

theorem pieces_encode (text : String) : pieces (encode text) = text.toList.map .char := by
  rw [encode_eq]
  induction text.toList with
  | nil => simp [pieces]
  | cons c chars ih =>
    have first := pieces_encodeScalar (isScalar_toNat c) (chars.flatMap String.utf8EncodeChar)
    rw [Char.ofNat_toNat] at first
    rw [List.flatMap_cons, first, ih, List.map_cons]

@[simp] theorem decodeLossy_encode (text : String) : decodeLossy (encode text) = text := by
  have read : ((text.toList.map Piece.char).map fun piece => piece.char?.getD '\uFFFD') =
      text.toList := by
    simp [Function.comp_def, Piece.char?]
  rw [decodeLossy, pieces_encode, read, String.ofList_toList]

theorem encode_inj {a b : String} : encode a = encode b ↔ a = b := by
  constructor
  · intro same
    rw [← decodeLossy_encode a, same, decodeLossy_encode]
  · exact congrArg encode

/-! ## What is read was written -/

theorem exists_of_continue? {more bits low high code : Nat} {input left : List UInt8}
    (read : continue? (more + 1) bits low high input = (some code, left)) :
    ∃ n rest, n < 256 ∧ input = UInt8.ofNat n :: rest ∧ low ≤ n ∧ n ≤ high ∧
      continue? more (bits * 64 + (n - 0x80)) 0x80 0xBF rest = (some code, left) := by
  cases input with
  | nil => simp [continue?] at read
  | cons b rest =>
    rw [continue?] at read
    split at read
    next bounds => exact ⟨b.toNat, rest, b.toNat_lt, by simp, bounds.1, bounds.2, read⟩
    · simp at read

theorem encodeChar_of_continue? {n code : Nat} {lead : Lead} {rest left : List UInt8}
    (known : lead? n = some lead)
    (read : continue? lead.more lead.bits lead.low lead.high rest = (some code, left)) :
    UInt8.ofNat n :: rest = String.utf8EncodeChar (Char.ofNat code) ++ left := by
  have spec := lead?_eq_some known
  obtain ⟨more, bits, low, high⟩ := lead
  dsimp only at spec read
  rcases spec with ⟨rfl, rfl, most⟩ | ⟨rfl, rfl, least, most, rfl, rfl⟩ |
    ⟨rfl, rfl, most, least, greatest, first, halves⟩ |
    ⟨rfl, rfl, most, least, greatest, first, last⟩
  · obtain ⟨rfl, rfl⟩ : bits = code ∧ rest = left := by simpa [continue?] using read
    rw [encodeChar_one (.inl (by omega)) most, List.singleton_append]
  · obtain ⟨second, rest, -, rfl, _, _, read⟩ := exists_of_continue? read
    obtain ⟨code_eq, rfl⟩ : bits * 64 + (second - 0x80) = code ∧ rest = left := by
      simpa [continue?] using read
    have high : code / 64 = bits := by omega
    have low : code % 64 + 0x80 = second := by omega
    rw [encodeChar_two (.inl (by omega)) (by omega) (by omega), high, low, List.cons_append,
      List.singleton_append]
  · obtain ⟨second, rest, -, rfl, _, _, read⟩ := exists_of_continue? read
    obtain ⟨third, rest, -, rfl, _, _, read⟩ := exists_of_continue? read
    obtain ⟨code_eq, rfl⟩ : (bits * 64 + (second - 0x80)) * 64 + (third - 0x80) = code ∧
        rest = left := by
      simpa [continue?] using read
    have scalar : IsScalar code := by
      unfold IsScalar
      omega
    have high : code / 4096 = bits := by omega
    have middle : code / 64 % 64 + 0x80 = second := by omega
    have low : code % 64 + 0x80 = third := by omega
    rw [encodeChar_three scalar (by omega) (by omega), high, middle, low, List.cons_append,
      List.cons_append, List.singleton_append]
  · obtain ⟨second, rest, -, rfl, _, _, read⟩ := exists_of_continue? read
    obtain ⟨third, rest, -, rfl, _, _, read⟩ := exists_of_continue? read
    obtain ⟨fourth, rest, -, rfl, _, _, read⟩ := exists_of_continue? read
    obtain ⟨code_eq, rfl⟩ :
        ((bits * 64 + (second - 0x80)) * 64 + (third - 0x80)) * 64 + (fourth - 0x80) = code ∧
          rest = left := by
      simpa [continue?] using read
    have scalar : IsScalar code := by
      unfold IsScalar
      omega
    have top : code / 262144 = bits := by omega
    have high : code / 4096 % 64 + 0x80 = second := by omega
    have middle : code / 64 % 64 + 0x80 = third := by omega
    have low : code % 64 + 0x80 = fourth := by omega
    rw [encodeChar_four scalar (by omega), top, high, middle, low, List.cons_append,
      List.cons_append, List.cons_append, List.singleton_append]

theorem encodeChar_of_next {b : UInt8} {rest left : List UInt8} {c : Char}
    (read : next b rest = (.char c, left)) : b :: rest = String.utf8EncodeChar c ++ left := by
  unfold next at read
  cases known : lead? b.toNat with
  | none => simp [known] at read
  | some lead =>
    rw [known] at read
    dsimp only at read
    split at read
    case h_2 => simp at read
    next code after continued =>
      obtain ⟨rfl, rfl⟩ : Char.ofNat code = c ∧ after = left := by simpa using read
      simpa using encodeChar_of_continue? known continued

theorem eq_encode_of_pieces {bytes : List UInt8} {chars : List Char}
    (read : pieces bytes = chars.map .char) : bytes = chars.flatMap String.utf8EncodeChar := by
  induction chars generalizing bytes with
  | nil =>
    cases bytes with
    | nil => rfl
    | cons b rest => simp [pieces_cons] at read
  | cons c chars ih =>
    cases bytes with
    | nil => simp [pieces] at read
    | cons b rest =>
      simp only [pieces_cons, List.map_cons, List.cons.injEq] at read
      have first : next b rest = (.char c, (next b rest).2) := by rw [← read.1]
      rw [encodeChar_of_next first, ih read.2, List.flatMap_cons]

theorem mapM_char?_eq_some_iff {found : List Piece} {chars : List Char} :
    found.mapM Piece.char? = some chars ↔ found = chars.map .char := by
  induction found generalizing chars with
  | nil => cases chars <;> simp
  | cons piece found ih =>
    rw [List.mapM_cons]
    cases piece with
    | damage bytes => cases chars <;> simp [Piece.char?]
    | char c =>
      cases chars with
      | nil => cases found.mapM Piece.char? <;> simp [Piece.char?]
      | cons c' chars => cases read : found.mapM Piece.char? <;> simp [Piece.char?, read, ← ih]

theorem decode?_eq_some_iff {bytes : List UInt8} {text : String} :
    decode? bytes = some text ↔ bytes = encode text := by
  rw [decode?, Option.map_eq_some_iff]
  constructor
  · rintro ⟨chars, read, rfl⟩
    rw [encode_eq, String.toList_ofList]
    exact eq_encode_of_pieces (mapM_char?_eq_some_iff.1 read)
  · rintro rfl
    rw [pieces_encode]
    exact ⟨text.toList, mapM_char?_eq_some_iff.2 rfl, String.ofList_toList⟩

/-! ## Bytes that stand alone -/

section

variable {b : UInt8} (alone : b.toNat < 0x80)
include alone

theorem continue?_append (behind : List UInt8) {more low : Nat} (least : more ≠ 0 → 0x80 ≤ low)
    (bits high : Nat) (rest : List UInt8) :
    continue? more bits low high (rest ++ b :: behind) =
      ((continue? more bits low high rest).1,
        (continue? more bits low high rest).2 ++ b :: behind) := by
  induction more generalizing bits low high rest with
  | zero => cases rest <;> rfl
  | succ more ih =>
    have least : 0x80 ≤ low := least (by omega)
    cases rest with
    | nil =>
      have stops : ¬ (low ≤ b.toNat ∧ b.toNat ≤ high) := by omega
      simp only [continue?, List.nil_append, if_neg stops]
    | cons b' rest =>
      simp only [continue?, List.cons_append]
      split
      · exact ih (fun _ => Nat.le_refl _) _ _ rest
      · rfl

theorem next_append (first : UInt8) (rest behind : List UInt8) :
    next first (rest ++ b :: behind) =
      ((next first rest).1, (next first rest).2 ++ b :: behind) := by
  unfold next
  cases known : lead? first.toNat with
  | none => rfl
  | some lead =>
    have least : lead.more ≠ 0 → 0x80 ≤ lead.low := by
      have := lead?_eq_some known
      omega
    dsimp only
    rw [continue?_append alone behind least lead.bits lead.high rest]
    obtain ⟨_ | code, after⟩ := continue? lead.more lead.bits lead.low lead.high rest
    · have count : (rest ++ b :: behind).length - (after ++ b :: behind).length =
          rest.length - after.length := by
        simp only [List.length_append]
        omega
      simp only [count]
      rw [List.take_append_of_le_length (by omega)]
    · rfl

theorem pieces_append (bytes behind : List UInt8) :
    pieces (bytes ++ b :: behind) = pieces bytes ++ pieces (b :: behind) := by
  fun_induction pieces bytes with
  | case1 => rfl
  | case2 first rest ih =>
    rw [List.cons_append, pieces_cons, next_append alone, ih, List.cons_append]

theorem encodeChar_alone : String.utf8EncodeChar (Char.ofNat b.toNat) = [b] := by
  rw [encodeChar_one (.inl (by omega)) alone, UInt8.ofNat_toNat]

theorem pieces_alone (behind : List UInt8) :
    pieces (b :: behind) = .char (Char.ofNat b.toNat) :: pieces behind := by
  rw [← pieces_encodeScalar (.inl (by omega)), encodeChar_alone alone, List.singleton_append]

theorem mem_encode_iff {text : String} :
    b ∈ encode text ↔ Char.ofNat b.toNat ∈ text.toList := by
  constructor
  · intro mem
    obtain ⟨front, behind, split⟩ := List.append_of_mem mem
    have read := pieces_encode text
    rw [split, pieces_append alone, pieces_alone alone] at read
    have listed : Piece.char (Char.ofNat b.toNat) ∈ text.toList.map Piece.char := by
      rw [← read]
      simp
    obtain ⟨c, mem, same⟩ := List.mem_map.1 listed
    exact Piece.char.inj same ▸ mem
  · intro mem
    rw [encode_eq]
    have encoded := encodeChar_alone alone
    exact List.mem_flatMap.2 ⟨_, mem, encoded ▸ List.mem_singleton_self b⟩

end

end SourceIndex.Utf8
