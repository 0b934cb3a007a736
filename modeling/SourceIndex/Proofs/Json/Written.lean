import SourceIndex.Json.Reading
import SourceIndex.Json.Writing
import SourceIndex.Proofs.Text.Utf8
import Mathlib.Tactic.SplitIfs

/-!
# Reading JSON that was written

Texts, whole numbers, arrays and objects are read back from what they are written as, whatever
follows. The fuel is enough because a value needs no more of it than twice its length.
-/

namespace SourceIndex.Json

/-! ## Strings -/

theorem toNat_not_half (c : Char) : isHighHalf c.toNat = false ∧ isLowHalf c.toNat = false := by
  have scalar := Utf8.isScalar_toNat c
  unfold Utf8.IsScalar at scalar
  simp [isHighHalf, isLowHalf]
  omega

theorem joinPairs?_map_toNat (chars : List Char) :
    joinPairs? (chars.map Char.toNat) = some chars := by
  induction chars with
  | nil => rfl
  | cons c chars ih =>
    have whole := toNat_not_half c
    cases chars with
    | nil => simp [joinPairs?, whole]
    | cons next chars =>
      rw [List.map_cons, List.map_cons] at *
      simp [joinPairs?, whole, ih]

section

variable (rest : List Char)

/-- The code point that was read in front of others. -/
def withCode (code : Nat) (read : Option (List Nat × List Char)) : Option (List Nat × List Char) :=
  read.map fun (codes, left) => (code :: codes, left)

theorem readCodes?_hex {a b c d : Char} {code : Nat} (known : hexFour? a b c d = some code) :
    readCodes? ('\\' :: 'u' :: a :: b :: c :: d :: rest) = withCode code (readCodes? rest) := by
  rw [readCodes?, known]
  cases readCodes? rest <;> rfl

theorem readCodes?_escape {letter c : Char} (known : escape? letter = some c) :
    readCodes? ('\\' :: letter :: rest) = withCode c.toNat (readCodes? rest) := by
  have not_hex : letter ≠ 'u' := by
    rintro rfl
    cases known
  rw [readCodes?, known]
  · cases readCodes? rest <;> rfl
  · exact fun _ _ _ _ _ same => absurd same not_hex

theorem readCodes?_plain {c : Char} (no_quote : c ≠ '"') (no_backslash : c ≠ '\\')
    (no_control : ¬ c.toNat < 0x20) :
    readCodes? (c :: rest) = withCode c.toNat (readCodes? rest) := by
  rw [readCodes?, if_neg no_control]
  · cases readCodes? rest <;> rfl
  · exact no_quote
  · exact fun _ _ _ _ _ same => absurd same no_backslash
  · exact fun _ _ same => absurd same no_backslash

theorem hexFour_of_control : ∀ n < 0x20,
    (hexFour n).toList = ['0', '0', Nat.digitChar (n / 16), Nat.digitChar (n % 16)] ∧
      hexFour? '0' '0' (Nat.digitChar (n / 16)) (Nat.digitChar (n % 16)) = some n := by
  decide +kernel

theorem readCodes?_escapedChar (c : Char) :
    readCodes? ((escapedChar c).toList ++ rest) = withCode c.toNat (readCodes? rest) := by
  unfold escapedChar
  split_ifs with quote backslash backspace tab line page carriage control
  · rw [quote]
    exact readCodes?_escape rest rfl
  · rw [backslash]
    exact readCodes?_escape rest rfl
  · rw [backspace]
    exact readCodes?_escape rest rfl
  · rw [tab]
    exact readCodes?_escape rest rfl
  · rw [line]
    exact readCodes?_escape rest rfl
  · rw [page]
    exact readCodes?_escape rest rfl
  · rw [carriage]
    exact readCodes?_escape rest rfl
  · obtain ⟨digits, known⟩ := hexFour_of_control c.toNat control
    rw [String.toList_append, digits]
    exact readCodes?_hex rest known
  · simpa using readCodes?_plain rest quote backslash control

end

/-- A text as it stands between its quotes. -/
def escaped (text : String) : List Char := text.toList.flatMap fun c => (escapedChar c).toList

theorem toList_quote (text : String) : (quote text).toList = '"' :: escaped text ++ ['"'] := by
  simp [quote, escaped, String.toList_join, List.flatMap_map]

theorem readCodes?_escaped (chars rest : List Char) :
    readCodes? ((chars.flatMap fun c => (escapedChar c).toList) ++ '"' :: rest) =
      some (chars.map Char.toNat, rest) := by
  induction chars with
  | nil => exact readCodes?.eq_2 rest
  | cons c chars ih =>
    rw [List.flatMap_cons, List.append_assoc, readCodes?_escapedChar, ih]
    rfl

theorem readString?_escaped (text : String) (rest : List Char) :
    readString? (escaped text ++ '"' :: rest) = some (some text, rest) := by
  rw [readString?, escaped, readCodes?_escaped]
  simp [joinPairs?_map_toNat]

/-! ## Numbers -/

theorem toDigits_head?_ne_zero {n : Nat} (positive : 0 < n) :
    (Nat.toDigits 10 n).head? ≠ some '0' := by
  induction n using Nat.strongRecOn with
  | ind n ih =>
    rw [Nat.toDigits_eq_if (by decide)]
    split
    next small =>
      have : ∀ n < 10, 0 < n → n.digitChar ≠ '0' := by decide
      simpa using this n small positive
    next large =>
      have front := ih (n / 10) (by omega) (by omega)
      obtain ⟨c, rest, split⟩ :=
        List.exists_cons_of_ne_nil (Nat.toDigits_ne_nil (n := n / 10) (b := 10))
      rw [split] at front ⊢
      simpa using front

theorem toDigits_no_leading_zero (n : Nat) :
    ¬ ((Nat.toDigits 10 n).head? = some '0' ∧ (Nat.toDigits 10 n).length ≠ 1) := by
  rintro ⟨zero, several⟩
  rcases Nat.eq_zero_or_pos n with rfl | positive
  · exact several rfl
  · exact toDigits_head?_ne_zero positive zero

theorem takeDigits_of_le {digits : List Char} {start : Nat}
    (fits : Nat.ofDigitChars 10 digits start ≤ Number.maxWhole) :
    Number.takeDigits start digits = (Nat.ofDigitChars 10 digits start, digits.length, 0) := by
  induction digits generalizing start with
  | nil => simp [Number.takeDigits]
  | cons c rest ih =>
    have shift : 10 * start + (c.toNat - '0'.toNat) = start * 10 + Number.digitValue c := by
      rw [Number.digitValue, Nat.mul_comm]
    rw [Nat.ofDigitChars_cons, shift] at fits ⊢
    have most : Nat.ofDigitChars 10 rest (start * 10 + Number.digitValue c) =
        10 ^ rest.length * (start * 10 + Number.digitValue c) + Nat.ofDigitChars 10 rest 0 :=
      Nat.ofDigitChars_eq_ofDigitChars_zero
    have grows : start * 10 + Number.digitValue c ≤
        10 ^ rest.length * (start * 10 + Number.digitValue c) :=
      Nat.le_mul_of_pos_left _ (Nat.pow_pos (by decide))
    have small : start * 10 + Number.digitValue c ≤ Number.maxWhole := by omega
    rw [Number.takeDigits, if_pos small, ih fits, List.length_cons]

/-- No number goes on with this. -/
def EndsNumber (rest : List Char) : Prop :=
  ∀ c, rest.head? = some c → c.isDigit = false ∧ c ≠ '.' ∧ c ≠ 'e' ∧ c ≠ 'E'

theorem EndsNumber.cons {c : Char} (rest : List Char)
    (ends : c.isDigit = false ∧ c ≠ '.' ∧ c ≠ 'e' ∧ c ≠ 'E') : EndsNumber (c :: rest) := by
  rintro _ ⟨⟩
  exact ends

theorem spanDigits_append {digits rest : List Char} (all : ∀ c ∈ digits, c.isDigit)
    (ends : EndsNumber rest) : Number.spanDigits (digits ++ rest) = (digits, rest) := by
  have stops : rest.takeWhile Char.isDigit = [] ∧ rest.dropWhile Char.isDigit = rest := by
    cases rest with
    | nil => simp
    | cons c rest => simp [(ends c rfl).1]
  rw [Number.spanDigits, List.takeWhile_append_of_pos all, List.dropWhile_append_of_pos all,
    stops.1, stops.2, List.append_nil]

theorem readFraction?_of_ends {rest : List Char} (ends : EndsNumber rest) :
    Number.readFraction? rest = some (none, rest) := by
  cases rest with
  | nil => rfl
  | cons c rest =>
    rw [Number.readFraction?]
    exact fun _ same => (ends c rfl).2.1 (List.cons.inj same).1

theorem readExponent?_of_ends {rest : List Char} (ends : EndsNumber rest) :
    Number.readExponent? rest = some (none, rest) := by
  cases rest with
  | nil => rfl
  | cons c rest =>
    unfold Number.readExponent?
    exact if_neg (not_or.2 (ends c rfl).2.2)

theorem read?_toDigits {n : Nat} (fits : n ≤ Number.maxWhole) {rest : List Char}
    (ends : EndsNumber rest) :
    Number.read? (Nat.toDigits 10 n ++ rest) = some (.whole n, rest) := by
  have all : ∀ c ∈ Nat.toDigits 10 n, c.isDigit := fun c mem =>
    Nat.isDigit_of_mem_toDigits (by decide) (by decide) mem
  have filled : Nat.toDigits 10 n ≠ [] := Nat.toDigits_ne_nil
  have taken : Number.takeDigits 0 (Nat.toDigits 10 n) = (n, (Nat.toDigits 10 n).length, 0) := by
    rw [takeDigits_of_le (by simpa using fits), Nat.ofDigitChars_ten_toDigits]
  have unsigned : ((Nat.toDigits 10 n ++ rest).head? == some '-') = false := by
    obtain ⟨c, others, split⟩ := List.exists_cons_of_ne_nil filled
    have digit : c.isDigit := all c (by simp [split])
    have no_sign : c ≠ '-' := by
      rintro rfl
      exact absurd digit (by decide)
    simp [split, no_sign]
  have whole : Number.ofDigits false (Nat.toDigits 10 n) none none = .whole n := by
    simp [Number.ofDigits, taken, Number.takeDigits, Number.ofWhole]
  rw [Number.read?, unsigned]
  simp only [Bool.false_eq_true, if_false, spanDigits_append all ends]
  rw [if_neg (not_or.2 ⟨filled, toDigits_no_leading_zero n⟩), readFraction?_of_ends ends]
  simp [readExponent?_of_ends ends, whole]

/-! ## Values -/

/-- The text is read as the value, whatever follows it but more of a number. -/
structure Reads (text : List Char) (json : Json) : Prop where
  starts : ∃ c rest, text = c :: rest ∧ isBlank c = false ∧ c ≠ ']' ∧ c ≠ '\x7d'
  reads : ∀ fuel rest, 2 * text.length ≤ fuel + 1 → EndsNumber rest →
    readValue (fuel + 1) (text ++ rest) = (json, rest)

theorem skipBlanks_cons {c : Char} (rest : List Char) (visible : isBlank c = false) :
    skipBlanks (c :: rest) = c :: rest := by
  simp [skipBlanks, visible]

theorem readValue_scalar {c : Char} (fuel : Nat) (rest : List Char) (visible : isBlank c = false)
    (no_array : c ≠ '[') (no_object : c ≠ '\x7b') :
    readValue (fuel + 1) (c :: rest) = readScalar (c :: rest) := by
  rw [readValue, skipBlanks_cons rest visible]
  split
  next same => exact absurd (List.cons.inj same).1 no_array
  next same => exact absurd (List.cons.inj same).1 no_object
  next => rfl

theorem reads_quote (text : String) : Reads (quote text).toList (.string (some text)) where
  starts := ⟨'"', escaped text ++ ['"'], by rw [toList_quote]; rfl, by decide, by decide, by decide⟩
  reads := by
    intro fuel rest _ _
    rw [toList_quote, List.cons_append, List.cons_append,
      readValue_scalar fuel _ (by decide) (by decide) (by decide), List.append_assoc,
      List.singleton_append, readScalar, readString?_escaped]

theorem ne_of_isDigit {c : Char} (digit : c.isDigit) {other : Char}
    (no_digit : other.isDigit = false) : c ≠ other := by
  rintro rfl
  simp [digit] at no_digit

theorem readScalar_number {c : Char} {rest left : List Char} {number : Number}
    (digit : c.isDigit) (known : Number.read? (c :: rest) = some (number, left)) :
    readScalar (c :: rest) = (.number number, left) := by
  unfold readScalar
  split
  next same => exact absurd (List.cons.inj same).1 (ne_of_isDigit digit (by decide))
  next same => exact absurd (List.cons.inj same).1 (ne_of_isDigit digit (by decide))
  next same => exact absurd (List.cons.inj same).1 (ne_of_isDigit digit (by decide))
  next same => exact absurd (List.cons.inj same).1 (ne_of_isDigit digit (by decide))
  next => rw [known]

theorem reads_natural {n : Nat} (fits : n ≤ Number.maxWhole) :
    Reads (toString n).toList (.number (.whole n)) := by
  have digits : (toString n).toList = Nat.toDigits 10 n := Nat.toList_repr
  obtain ⟨c, others, split⟩ :=
    List.exists_cons_of_ne_nil (Nat.toDigits_ne_nil (n := n) (b := 10))
  have digit : c.isDigit :=
    Nat.isDigit_of_mem_toDigits (b := 10) (n := n) (by decide) (by decide) (by simp [split])
  have other (c' : Char) : c'.isDigit = false → c ≠ c' := ne_of_isDigit digit
  have visible : isBlank c = false := by
    simp [isBlank, other ' ' (by decide), other '\n' (by decide), other '\t' (by decide),
      other '\r' (by decide)]
  rw [digits]
  refine ⟨⟨c, others, split, visible, other _ (by decide), other _ (by decide)⟩, ?_⟩
  intro fuel rest _ ends
  have known := read?_toDigits fits ends
  rw [split] at known ⊢
  rw [List.cons_append, readValue_scalar fuel _ visible (other _ (by decide)) (other _ (by decide))]
  exact readScalar_number digit known

theorem reads_null : Reads "null".toList .null where
  starts := ⟨'n', ['u', 'l', 'l'], rfl, by decide, by decide, by decide⟩
  reads fuel _ _ _ := readValue_scalar fuel _ (by decide) (by decide) (by decide)

/-! ## Arrays -/

/-- What follows the first of some texts with commas between them. -/
def behindFirst (texts : List (List Char)) : List Char := texts.flatMap (',' :: ·)

theorem behindFirst_cons (text : List Char) (texts : List (List Char)) :
    behindFirst (text :: texts) = ',' :: (text ++ behindFirst texts) := by
  simp [behindFirst]

theorem intercalate_cons (first : List Char) (texts : List (List Char)) :
    [','].intercalate (first :: texts) = first ++ behindFirst texts := by
  induction texts generalizing first with
  | nil => simp [behindFirst]
  | cons next texts ih =>
    rw [List.intercalate_cons_cons, ih, behindFirst_cons, List.append_assoc]
    rfl

theorem endsNumber_behindFirst (closing : Char)
    (ends : closing.isDigit = false ∧ closing ≠ '.' ∧ closing ≠ 'e' ∧ closing ≠ 'E')
    (texts : List (List Char)) (rest : List Char) :
    EndsNumber (behindFirst texts ++ closing :: rest) := by
  cases texts with
  | nil => exact .cons rest ends
  | cons => exact .cons _ (by decide)

theorem Reads.behindComma? {text : List Char} {json : Json} (reads : Reads text json)
    {closing : Char} (closes : closing = ']' ∨ closing = '\x7d') (rest : List Char) :
    behindComma? closing (',' :: (text ++ rest)) = some (text ++ rest) := by
  obtain ⟨c, others, rfl, visible, no_bracket, no_brace⟩ := reads.starts
  have other : c ≠ closing := by rcases closes with rfl | rfl <;> assumption
  simp [Json.behindComma?, skipBlanks_cons _ visible, other]

theorem readItems_item {fuel : Nat} {first : Bool} {c : Char} {input behind rest left : List Char}
    {item : Json} {items : List Json} {closed : Bool} (visible : isBlank c = false)
    (no_end : c ≠ ']')
    (entered : (if first then some (c :: input) else behindComma? ']' (c :: input)) = some behind)
    (read : readValue fuel behind = (item, rest))
    (others : readItems fuel false rest = (items, closed, left)) :
    readItems (fuel + 1) first (c :: input) = (item :: items, closed, left) := by
  rw [readItems, skipBlanks_cons input visible]
  split
  next same => exact absurd (List.cons.inj same).1 no_end
  next => simp only [entered, read, others]

theorem readItems_behindFirst {items : List (List Char × Json)}
    (all : ∀ item ∈ items, Reads item.1 item.2) (fuel : Nat) (rest : List Char)
    (enough : 2 * (behindFirst (items.map (·.1))).length ≤ fuel) :
    readItems (fuel + 1) false (behindFirst (items.map (·.1)) ++ ']' :: rest) =
      (items.map (·.2), true, rest) := by
  induction items generalizing fuel with
  | nil => rfl
  | cons item items ih =>
    obtain ⟨text, json⟩ := item
    have reads : Reads text json := all _ List.mem_cons_self
    rw [List.map_cons, behindFirst_cons] at enough ⊢
    simp only [List.length_cons, List.length_append] at enough
    obtain ⟨fuel, rfl⟩ : ∃ left, fuel = left + 1 := ⟨fuel - 1, by omega⟩
    have read := reads.reads fuel _ (by omega)
      (endsNumber_behindFirst ']' (by decide) (items.map (·.1)) rest)
    have others := ih (fun item mem => all item (.tail _ mem)) fuel (by omega)
    rw [List.cons_append, List.append_assoc]
    exact readItems_item (by decide) (by decide)
      ((if_neg Bool.false_ne_true).trans (reads.behindComma? (.inl rfl) _)) read others

theorem reads_array {items : List (List Char × Json)} (all : ∀ item ∈ items, Reads item.1 item.2) :
    Reads ('[' :: [','].intercalate (items.map (·.1)) ++ [']']) (.array (items.map (·.2)) true) where
  starts := ⟨'[', _, rfl, by decide, by decide, by decide⟩
  reads := by
    intro fuel rest enough _
    rw [readValue, List.cons_append, List.cons_append, skipBlanks_cons _ (by decide)]
    cases items with
    | nil =>
      obtain ⟨fuel, rfl⟩ : ∃ left, fuel = left + 1 := ⟨fuel - 1, by simp at enough; omega⟩
      rfl
    | cons item items =>
      obtain ⟨text, json⟩ := item
      have reads : Reads text json := all _ List.mem_cons_self
      obtain ⟨c, input, start, visible, no_end, -⟩ := reads.starts
      rw [List.map_cons, intercalate_cons] at enough ⊢
      simp only [List.length_cons, List.length_append] at enough
      obtain ⟨fuel, rfl⟩ : ∃ left, fuel = left + 2 := ⟨fuel - 2, by omega⟩
      have read := reads.reads fuel _ (by omega)
        (endsNumber_behindFirst ']' (by decide) (items.map (·.1)) rest)
      have others := readItems_behindFirst (fun item mem => all item (.tail _ mem)) fuel rest
        (by omega)
      rw [List.append_assoc, List.append_assoc, List.singleton_append]
      rw [start, List.cons_append] at read ⊢
      simp only [readItems_item visible no_end (if_pos rfl) read others, List.map_cons]

/-! ## Objects -/

/-- A member as it is written, and what it is read as. -/
structure Member where
  name : String
  text : List Char
  value : Json

namespace Member

def written (member : Member) : List Char := (quote member.name).toList ++ ':' :: member.text

def tree (member : Member) : Json × Json := (.string (some member.name), member.value)

end Member

theorem readMembers_member {fuel : Nat} {first : Bool} {c : Char}
    {input behind rest after left : List Char} {key value : Json} {members : List (Json × Json)}
    {closed : Bool} (visible : isBlank c = false) (no_end : c ≠ '\x7d')
    (entered : (if first then some (c :: input) else behindComma? '\x7d' (c :: input)) = some behind)
    (key_read : readValue fuel behind = (key, ':' :: rest))
    (value_read : readValue fuel rest = (value, after))
    (others : readMembers fuel false after = (members, closed, left)) :
    readMembers (fuel + 1) first (c :: input) = ((key, value) :: members, closed, left) := by
  rw [readMembers, skipBlanks_cons input visible]
  split
  next same => exact absurd (List.cons.inj same).1 no_end
  next =>
    have colon : skipBlanks (':' :: rest) = ':' :: rest := skipBlanks_cons rest (by decide)
    simp only [entered, key_read, colon, value_read, others]

theorem Member.reads {member : Member} (reads : Reads member.text member.value) (fuel : Nat)
    {more : List Char} (ends : EndsNumber more) (enough : 2 * member.written.length ≤ fuel + 1) :
    readValue (fuel + 1) (member.written ++ more) =
        (.string (some member.name), ':' :: (member.text ++ more)) ∧
      readValue (fuel + 1) (member.text ++ more) = (member.value, more) := by
  simp only [written, List.length_append, List.length_cons] at enough
  constructor
  · rw [written, List.append_assoc, List.cons_append]
    exact (reads_quote member.name).reads fuel _ (by omega) (.cons _ (by decide))
  · exact reads.reads fuel more (by omega) ends

theorem Member.behindComma? (member : Member) (rest : List Char) :
    Json.behindComma? '\x7d' (',' :: (member.written ++ rest)) = some (member.written ++ rest) := by
  rw [written, List.append_assoc]
  exact (reads_quote member.name).behindComma? (.inr rfl) _

theorem readMembers_behindFirst {members : List Member}
    (all : ∀ member ∈ members, Reads member.text member.value) (fuel : Nat) (rest : List Char)
    (enough : 2 * (behindFirst (members.map Member.written)).length ≤ fuel) :
    readMembers (fuel + 1) false (behindFirst (members.map Member.written) ++ '\x7d' :: rest) =
      (members.map Member.tree, true, rest) := by
  induction members generalizing fuel with
  | nil => rfl
  | cons member members ih =>
    rw [List.map_cons, behindFirst_cons] at enough ⊢
    simp only [List.length_cons, List.length_append] at enough
    obtain ⟨fuel, rfl⟩ : ∃ left, fuel = left + 1 := ⟨fuel - 1, by omega⟩
    obtain ⟨key_read, value_read⟩ := Member.reads (all member List.mem_cons_self) fuel
      (endsNumber_behindFirst '\x7d' (by decide) (members.map Member.written) rest)
      (by omega)
    have others := ih (fun member mem => all member (.tail _ mem)) fuel (by omega)
    rw [List.cons_append, List.append_assoc]
    exact readMembers_member (by decide) (by decide)
      ((if_neg Bool.false_ne_true).trans (member.behindComma? _)) key_read value_read others

theorem reads_object {members : List Member}
    (all : ∀ member ∈ members, Reads member.text member.value) :
    Reads ('\x7b' :: [','].intercalate (members.map Member.written) ++ ['\x7d'])
      (.object (members.map Member.tree) true) where
  starts := ⟨'\x7b', _, rfl, by decide, by decide, by decide⟩
  reads := by
    intro fuel rest enough _
    rw [readValue, List.cons_append, List.cons_append, skipBlanks_cons _ (by decide)]
    cases members with
    | nil =>
      obtain ⟨fuel, rfl⟩ : ∃ left, fuel = left + 1 := ⟨fuel - 1, by simp at enough; omega⟩
      rfl
    | cons member members =>
      rw [List.map_cons, intercalate_cons] at enough ⊢
      simp only [List.length_cons, List.length_append] at enough
      obtain ⟨fuel, rfl⟩ : ∃ left, fuel = left + 2 := ⟨fuel - 2, by omega⟩
      obtain ⟨key_read, value_read⟩ := Member.reads (all member List.mem_cons_self) fuel
        (endsNumber_behindFirst '\x7d' (by decide) (members.map Member.written) rest)
        (by omega)
      have others := readMembers_behindFirst (fun member mem => all member (.tail _ mem)) fuel rest
        (by omega)
      have start : member.written = '"' :: (escaped member.name ++ '"' :: ':' :: member.text) := by
        simp [Member.written, toList_quote]
      rw [List.append_assoc, List.append_assoc, List.singleton_append]
      rw [start, List.cons_append] at key_read ⊢
      simp only [readMembers_member (by decide) (by decide) (if_pos rfl) key_read value_read others,
        List.map_cons, Member.tree]

/-! ## Written values -/

theorem toList_comma_intercalate (texts : List String) :
    (",".intercalate texts).toList = [','].intercalate (texts.map String.toList) := by
  rw [String.toList_intercalate]
  rfl

theorem reads_writeArray {α : Type} {write : α → String} {tree : α → Json}
    (all : ∀ a, Reads (write a).toList (tree a)) (list : List α) :
    Reads (writeArray (list.map write)).toList (.array (list.map tree) true) := by
  have each : ∀ item ∈ list.map fun a => ((write a).toList, tree a), Reads item.1 item.2 :=
    List.forall_mem_map.2 fun a _ => all a
  simpa [writeArray, toList_comma_intercalate, Function.comp_def] using reads_array each

theorem reads_writeObject (members : List (String × String × Json))
    (all : ∀ member ∈ members, Reads member.2.1.toList member.2.2) :
    Reads (writeObject (members.map fun (name, text, _) => (name, text))).toList
      (.object (members.map fun (name, _, value) => (.string (some name), value)) true) := by
  have each : ∀ member ∈ members.map fun (name, text, value) => Member.mk name text.toList value,
      Reads member.text member.value :=
    List.forall_mem_map.2 all
  simpa [writeObject, toList_comma_intercalate, Function.comp_def, Member.written, Member.tree]
    using reads_object each

theorem Reads.read_eq {text : String} {json : Json} (reads : Reads text.toList json) :
    read text = ⟨json, true⟩ := by
  have all := reads.reads (2 * text.toList.length + 1) [] (by omega) (by simp [EndsNumber])
  rw [List.append_nil] at all
  simp [read, all, skipBlanks]

end SourceIndex.Json
