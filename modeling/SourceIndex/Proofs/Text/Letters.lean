import SourceIndex.File.Kind
import SourceIndex.Proofs.Text.Utf8
import SourceIndex.Text.Lowercase

/-!
# Letters in capital and small form

For characters of one byte the small form of the Unicode standard and the one that only knows the
letters A to Z are the same, and it can be read off the bytes.
-/

namespace SourceIndex

/-- The byte of a letter in small form. Other bytes stay as they are. -/
def smallByte (b : UInt8) : UInt8 := if 65 ≤ b ∧ b ≤ 90 then b + 32 else b

theorem smallByte_eq_iff {b other : UInt8} (no_letter : other < 65) :
    smallByte b = other ↔ b = other := by
  unfold smallByte
  grind

theorem smallByte_lt_iff (b : UInt8) : smallByte b < 128 ↔ b < 128 := by
  unfold smallByte
  grind

namespace Text

/-! ## Characters of one byte -/

theorem forall_ascii {P : Char → Prop} (all : ∀ n < 128, P (Char.ofNat n)) {c : Char}
    (ascii : c.toNat < 128) : P c := by
  have known := all c.toNat ascii
  rwa [Char.ofNat_toNat] at known

theorem find?_tail_lowercaseRuns {c : Char} (ascii : c.toNat < 128) :
    lowercaseRuns.tail.find? (fun (first, last, step, _) =>
      first ≤ c.toNat && c.toNat ≤ last && (c.toNat - first) % step == 0) = none := by
  have later : ∀ run ∈ lowercaseRuns.tail, 128 ≤ run.1 := by decide +kernel
  refine List.find?_eq_none.2 fun run mem => ?_
  have beyond : ¬ run.1 ≤ c.toNat := by
    have := later run mem
    omega
  simp [beyond]

theorem lowercaseForm_of_lt {c : Char} (ascii : c.toNat < 128) : lowercaseForm c = [c.toLower] := by
  have dotted : c ≠ 'İ' := by
    rintro rfl
    exact absurd ascii (by decide)
  have split : lowercaseRuns = (0x41, 0x5A, 1, 32) :: lowercaseRuns.tail := rfl
  have rest := find?_tail_lowercaseRuns ascii
  rw [lowercaseForm, if_neg dotted, split, List.find?_cons, rest]
  obtain ⟨n, below, rfl⟩ : ∃ n < 128, Char.ofNat n = c := ⟨c.toNat, ascii, c.ofNat_toNat⟩
  clear ascii dotted split rest
  revert n
  decide +kernel

theorem smallByte_ofNat {c : Char} (ascii : c.toNat < 128) :
    smallByte (UInt8.ofNat c.toNat) = UInt8.ofNat c.toLower.toNat :=
  forall_ascii (P := fun c => smallByte (UInt8.ofNat c.toNat) = UInt8.ofNat c.toLower.toNat)
    (by decide +kernel) ascii

theorem toLower_lt_iff (c : Char) : c.toLower.toNat < 128 ↔ c.toNat < 128 := by
  unfold Char.toLower
  split
  next letter =>
    simp only [Char.toNat, UInt32.toNat_add]
    have := UInt32.le_iff_toNat_le.1 letter.1
    have := UInt32.le_iff_toNat_le.1 letter.2
    simp at *
    omega
  · rfl

theorem encodeChar_of_lt {c : Char} (ascii : c.toNat < 128) :
    String.utf8EncodeChar c = [UInt8.ofNat c.toNat] := by
  have encoded := Utf8.encodeChar_one (Utf8.isScalar_toNat c) ascii
  rwa [Char.ofNat_toNat] at encoded

/-! ## Texts of such characters -/

/-- All characters are of one byte. -/
def IsAscii (text : String) : Prop := ∀ c ∈ text.toList, c.toNat < 128

theorem IsAscii.encode_eq {text : String} (ascii : IsAscii text) :
    Utf8.encode text = text.toList.map fun c => UInt8.ofNat c.toNat := by
  rw [Utf8.encode_eq, List.map_eq_flatMap, List.flatMap_def, List.flatMap_def,
    List.map_congr_left fun c mem => encodeChar_of_lt (ascii c mem)]

theorem isAscii_smallLetters_iff {text : String} :
    IsAscii (FileKind.smallLetters text) ↔ IsAscii text := by
  simp [IsAscii, FileKind.smallLetters, toLower_lt_iff]

theorem lowercaseBehind_of_lt {chars : List Char} (ascii : ∀ c ∈ chars, c.toNat < 128)
    (before : List Char) : lowercaseBehind before chars = chars.map Char.toLower := by
  induction chars generalizing before with
  | nil => rfl
  | cons c rest ih =>
    obtain ⟨first, others⟩ := List.forall_mem_cons.1 ascii
    have not_sigma : c ≠ 'Σ' := by
      rintro rfl
      exact absurd first (by decide)
    rw [lowercaseBehind, if_neg fun sigma => not_sigma sigma.1, lowercaseForm_of_lt first,
      ih others]
    rfl

theorem IsAscii.lowercase_eq {text : String} (ascii : IsAscii text) :
    lowercase text = FileKind.smallLetters text := by
  rw [lowercase, FileKind.smallLetters, lowercaseBehind_of_lt ascii]

theorem IsAscii.map_smallByte_encode {text : String} (ascii : IsAscii text) :
    (Utf8.encode text).map smallByte = Utf8.encode (FileKind.smallLetters text) := by
  have small : IsAscii (FileKind.smallLetters text) := isAscii_smallLetters_iff.2 ascii
  rw [ascii.encode_eq, small.encode_eq, FileKind.smallLetters, String.toList_ofList, List.map_map,
    List.map_map]
  exact List.map_congr_left fun c mem => smallByte_ofNat (ascii c mem)

theorem exists_isAscii {bytes : List UInt8} (ascii : ∀ b ∈ bytes, b < 128) :
    ∃ text, IsAscii text ∧ bytes = Utf8.encode text := by
  have toNat_eq : ∀ b ∈ bytes, (Char.ofNat b.toNat).toNat = b.toNat := fun b mem => by
    have := UInt8.lt_iff_toNat_lt.1 (ascii b mem)
    exact Utf8.toNat_ofNat (.inl (by simp at this; omega))
  have chars_ascii : IsAscii (String.ofList (bytes.map fun b => Char.ofNat b.toNat)) := by
    simp only [IsAscii, String.toList_ofList, List.forall_mem_map]
    intro b mem
    rw [toNat_eq b mem]
    exact UInt8.lt_iff_toNat_lt.1 (ascii b mem)
  refine ⟨_, chars_ascii, ?_⟩
  rw [chars_ascii.encode_eq, String.toList_ofList, List.map_map]
  symm
  rw [List.map_congr_left (g := id), List.map_id]
  intro b mem
  rw [Function.comp_apply, toNat_eq b mem, UInt8.ofNat_toNat, id]

theorem exists_isAscii_of_small {bytes : List UInt8} {small : String} (ascii : IsAscii small)
    (small_eq : bytes.map smallByte = Utf8.encode small) :
    ∃ text, bytes = Utf8.encode text ∧ FileKind.smallLetters text = small := by
  have bytes_ascii : ∀ b ∈ bytes, b < 128 := fun b mem => by
    have mem_small : smallByte b ∈ Utf8.encode small := small_eq ▸ List.mem_map_of_mem mem
    rw [ascii.encode_eq] at mem_small
    obtain ⟨c, mem_text, byte_eq⟩ := List.mem_map.1 mem_small
    have := ascii c mem_text
    rw [← smallByte_lt_iff, ← byte_eq, UInt8.lt_iff_toNat_lt, UInt8.toNat_ofNat']
    simp
    omega
  obtain ⟨text, text_ascii, rfl⟩ := exists_isAscii bytes_ascii
  rw [text_ascii.map_smallByte_encode, Utf8.encode_inj] at small_eq
  exact ⟨text, rfl, small_eq⟩

end Text

end SourceIndex
