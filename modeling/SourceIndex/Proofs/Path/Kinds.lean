import SourceIndex.Proofs.Config.Extensions
import SourceIndex.Proofs.Path.Keys

/-!
# The grammar of source files

A path names a source file exactly if its last name is a stem, a dot and an extension of some kind,
in any letters. Neither the directories in front of the name nor the slashes and dots behind it
have a say, and of all bytes only those of the extension need be a text.
-/

namespace SourceIndex

/-! ## Bytes that say nothing -/

/-- Slashes at the end of a path, each with or without a dot behind it. -/
inductive Padding : List UInt8 → Prop
  | nil : Padding []
  | slash {bytes : List UInt8} (padding : Padding bytes) : Padding (bytes ++ [slash])
  | slashDot {bytes : List UInt8} (padding : Padding bytes) : Padding (bytes ++ [slash, dot])

theorem Component.ofPiece?_eq_none_iff {piece : List UInt8} :
    ofPiece? piece = none ↔ piece = [] ∨ piece = [dot] := by
  unfold ofPiece?
  split
  case isTrue nothing => exact iff_of_true rfl nothing
  case isFalse something =>
    refine iff_of_false ?_ something
    split <;> simp

theorem Padding.append_piece {bytes piece : List UInt8} (padding : Padding bytes)
    (nothing : Component.ofPiece? piece = none) : Padding (bytes ++ SourceIndex.slash :: piece) := by
  rcases Component.ofPiece?_eq_none_iff.1 nothing with rfl | rfl
  · exact padding.slash
  · exact padding.slashDot

namespace Path

variable {p p' : Path} {name piece : List UInt8}

theorem steps_of_free (free : slash ∉ piece) :
    steps ⟨piece⟩ = (Component.ofPiece? piece).toList := by
  rw [steps, splitSlashes_eq, List.splitOn_eq_singleton free]
  cases stands : Component.ofPiece? piece <;> simp [stands]

theorem same_append_piece (filled : p.bytes ≠ []) (free : slash ∉ piece)
    (nothing : Component.ofPiece? piece = none) : p.Same ⟨p.bytes ++ slash :: piece⟩ := by
  have adds := components_append p.bytes piece
  rw [steps_of_free free, nothing, Option.toList_none, List.append_nil] at adds
  exact (same_append_slash filled).trans adds.symm

theorem same_append_padding (filled : p.bytes ≠ []) {padding : List UInt8}
    (says_nothing : Padding padding) : p.Same ⟨p.bytes ++ padding⟩ := by
  induction says_nothing with
  | nil => simp [Same]
  | slash padding ih =>
    rw [← List.append_assoc]
    exact ih.trans (same_append_piece (by simp [filled]) (by simp) rfl)
  | slashDot padding ih =>
    rw [← List.append_assoc]
    exact ih.trans (same_append_piece (by simp [filled]) (by decide) (by decide))

theorem same_insert (front behind : List UInt8) :
    Same ⟨front ++ slash :: behind⟩ ⟨front ++ slash :: slash :: behind⟩ ∧
      Same ⟨front ++ slash :: behind⟩ ⟨front ++ slash :: dot :: slash :: behind⟩ := by
  have same_of_steps {more : List UInt8} (steps_eq : steps ⟨behind⟩ = steps ⟨more⟩) :
      Same ⟨front ++ slash :: behind⟩ ⟨front ++ slash :: more⟩ := by
    rw [Same, components_append front behind, components_append front more, steps_eq]
  constructor
  · apply same_of_steps
    rw [steps, steps, splitSlashes, if_pos rfl]
    rfl
  · apply same_of_steps
    have split : splitSlashes (dot :: slash :: behind) = [dot] :: splitSlashes behind :=
      splitSlashes_append [dot] behind
    rw [steps, steps, split]
    rfl

/-! ## The last name -/

/-- The path is written as directories, the name and some padding. -/
def EndsIn (p : Path) (name : List UInt8) : Prop :=
  (Component.name name).Proper ∧ ∃ directories padding,
    p.bytes = directories ++ name ++ padding ∧
      (directories = [] ∨ ∃ front, directories = front ++ [slash]) ∧ Padding padding

theorem components_of_free (free : slash ∉ piece) :
    components ⟨piece⟩ = (Component.ofFirst? piece).toList := by
  have relative : isAbsolute ⟨piece⟩ = false := by
    cases piece with
    | nil => rfl
    | cons b rest =>
      have other : b ≠ slash := fun same => free (same ▸ List.mem_cons_self)
      simp [isAbsolute, other]
  have alone : splitSlashes piece = [piece] := by
    rw [splitSlashes_eq, List.splitOn_eq_singleton free]
  rw [components_of_pieces alone, relative]
  simp

theorem ofPiece?_of_proper (proper : (Component.name name).Proper) :
    Component.ofPiece? name = some (.name name) := by
  obtain ⟨filled, -, single, double⟩ := proper
  simp [Component.ofPiece?, filled, single, double]

theorem ofFirst?_of_proper (proper : (Component.name name).Proper) :
    Component.ofFirst? name = some (.name name) := by
  rw [Component.ofFirst?, if_neg proper.2.2.1, ofPiece?_of_proper proper]

theorem eq_of_ofPiece? (stands : Component.ofPiece? piece = some (.name name)) : piece = name := by
  unfold Component.ofPiece? at stands
  split at stands
  · cases stands
  · split at stands
    · cases stands
    · exact Component.name.inj (Option.some.inj stands)

theorem eq_of_ofFirst? (stands : Component.ofFirst? piece = some (.name name)) : piece = name := by
  unfold Component.ofFirst? at stands
  split at stands
  · cases stands
  · exact eq_of_ofPiece? stands

theorem getLast?_of_endsIn (ends : p.EndsIn name) :
    p.components.getLast? = some (.name name) := by
  obtain ⟨proper, directories, padding, bytes_eq, in_front, says_nothing⟩ := ends
  have filled : directories ++ name ≠ [] := by simp [proper.1]
  have same : Same ⟨directories ++ name⟩ p := by
    obtain ⟨bytes⟩ := p
    obtain rfl : bytes = _ := bytes_eq
    exact same_append_padding filled says_nothing
  rw [← same]
  rcases in_front with rfl | ⟨front, rfl⟩
  · rw [List.nil_append, components_of_free proper.2.1, ofFirst?_of_proper proper]
    rfl
  · rw [← List.append_cons, components_append, steps_of_free proper.2.1,
      ofPiece?_of_proper proper]
    simp

theorem exists_last_split {b : UInt8} {bytes : List UInt8} (mem : b ∈ bytes) :
    ∃ front behind, bytes = front ++ b :: behind ∧ b ∉ behind := by
  obtain ⟨behind, front, split, free⟩ := List.eq_append_cons_of_mem (List.mem_reverse.2 mem)
  refine ⟨front.reverse, behind.reverse, ?_, by simpa using free⟩
  simpa using congrArg List.reverse split

/-- By induction on the length: a last piece that stands for nothing is more padding. -/
theorem endsIn_of_getLast? {bytes : List UInt8}
    (last : (components ⟨bytes⟩).getLast? = some (.name name)) : EndsIn ⟨bytes⟩ name := by
  by_cases mem : slash ∈ bytes
  case neg =>
    rw [components_of_free mem] at last
    have stands : Component.ofFirst? bytes = some (.name name) := by
      cases first : Component.ofFirst? bytes <;> simp_all
    obtain rfl := eq_of_ofFirst? stands
    exact ⟨(Component.spec_of_ofFirst? mem stands).1, [], [], by simp, .inl rfl, .nil⟩
  obtain ⟨front, piece, rfl, free⟩ := exists_last_split mem
  rw [components_append, steps_of_free free] at last
  cases stands : Component.ofPiece? piece with
  | some c =>
    obtain rfl : c = .name name := by simpa [stands] using last
    obtain rfl := eq_of_ofPiece? stands
    exact ⟨(Component.spec_of_ofPiece? free stands).1, front ++ [slash], [], by simp,
      .inr ⟨front, rfl⟩, .nil⟩
  | none =>
    have last : (components ⟨front ++ [slash]⟩).getLast? = some (.name name) := by
      simpa [stands] using last
    have filled : front ≠ [] := by
      rintro rfl
      cases last
    rw [← same_append_slash (p := ⟨front⟩) filled] at last
    obtain ⟨proper, directories, padding, front_eq, in_front, says_nothing⟩ :=
      endsIn_of_getLast? last
    obtain rfl : front = _ := front_eq
    exact ⟨proper, directories, padding ++ slash :: piece, by simp, in_front,
      says_nothing.append_piece stands⟩
termination_by bytes.length

theorem getLast?_components_iff :
    p.components.getLast? = some (.name name) ↔ p.EndsIn name :=
  ⟨endsIn_of_getLast?, getLast?_of_endsIn⟩

/-! ## Extensions -/

theorem goes_on_of_no_dot (no_dot : dot ∉ name) :
    ∀ b ∈ name.reverse, decide (b ≠ dot) = true := by
  intro b mem
  exact decide_eq_true fun same => no_dot (same ▸ List.mem_reverse.1 mem)

theorem extensionOf?_of_no_dot (no_dot : dot ∉ name) : extensionOf? name = none := by
  have nothing : name.reverse.dropWhile (· ≠ dot) = [] := by
    rw [← List.append_nil name.reverse, List.dropWhile_append_of_pos (goes_on_of_no_dot no_dot)]
    rfl
  unfold extensionOf?
  simp only [nothing]

theorem extensionOf?_of_split (stem : List UInt8) {extension : List UInt8}
    (no_dot : dot ∉ extension) :
    extensionOf? (stem ++ dot :: extension) = if stem = [] then none else some extension := by
  have goes_on := goes_on_of_no_dot no_dot
  have reversed : (stem ++ dot :: extension).reverse =
      extension.reverse ++ dot :: stem.reverse := by simp
  have behind : (extension.reverse ++ dot :: stem.reverse).takeWhile (· ≠ dot) =
      extension.reverse := by
    rw [List.takeWhile_append_of_pos goes_on]
    simp
  have before : (extension.reverse ++ dot :: stem.reverse).dropWhile (· ≠ dot) =
      dot :: stem.reverse := by
    rw [List.dropWhile_append_of_pos goes_on]
    simp
  unfold extensionOf?
  simp only [reversed, behind, before, List.reverse_reverse]
  split
  next split => cases split
  next split =>
    obtain ⟨-, empty⟩ := List.cons.inj split
    rw [if_pos (List.reverse_eq_nil_iff.1 empty)]
  next split =>
    obtain ⟨-, filled⟩ := List.cons.inj split
    rw [if_neg (List.reverse_ne_nil_iff.1 (filled ▸ List.cons_ne_nil _ _))]

theorem extensionOf?_eq_some_iff {extension : List UInt8} :
    extensionOf? name = some extension ↔
      ∃ stem, name = stem ++ dot :: extension ∧ stem ≠ [] ∧ dot ∉ extension := by
  constructor
  · intro known
    by_cases mem : dot ∈ name
    case neg => simp [extensionOf?_of_no_dot mem] at known
    obtain ⟨stem, behind, rfl, no_dot⟩ := exists_last_split mem
    rw [extensionOf?_of_split stem no_dot] at known
    obtain ⟨filled, same⟩ := Option.ite_none_left_eq_some.1 known
    obtain rfl := Option.some.inj same
    exact ⟨stem, rfl, filled, no_dot⟩
  · rintro ⟨stem, rfl, filled, no_dot⟩
    rw [extensionOf?_of_split stem no_dot, if_neg filled]

end Path

/-! ## Kinds -/

namespace FileKind

variable {kind : FileKind}

/-- How the extensions of a kind are spelled in small letters. -/
def spellings : FileKind → List String
  | header => ["h", "hh", "hpp"]
  | c => ["c"]
  | cpp => ["cc", "cpp"]
  | objC => ["m", "mm"]

/-- The bytes are an extension of the kind, in any letters. -/
def Spells (kind : FileKind) (extension : List UInt8) : Prop :=
  ∃ small ∈ kind.spellings, extension.map smallByte = Utf8.encode small

theorem extensions_eq (kind : FileKind) : kind.extensions = kind.spellings := by
  cases kind <;> rfl

theorem ofExtension?_eq_some_iff {extension : String} :
    ofExtension? extension = some kind ↔ smallLetters extension ∈ kind.spellings := by
  rw [← extensions_eq]
  constructor
  · intro found
    simpa using List.find?_some found
  · intro mem
    unfold ofExtension?
    generalize smallLetters extension = small at mem ⊢
    -- No two kinds share an extension.
    have only : ∀ kind : FileKind, ∀ small ∈ kind.extensions,
        all.find? (·.extensions.contains small) = some kind := by
      intro kind
      cases kind <;> decide
    exact only kind small mem

theorem isAscii_of_mem_spellings {small : String} (mem : small ∈ kind.spellings) :
    Text.IsAscii small := by
  have all_ascii : kind.spellings.all (·.toList.all (·.toNat < 128)) := by
    cases kind <;> decide +kernel
  simp only [List.all_eq_true, decide_eq_true_eq] at all_ascii
  exact all_ascii small mem

theorem spells_iff {extension : List UInt8} :
    kind.Spells extension ↔
      ∃ text, extension = Utf8.encode text ∧ smallLetters text ∈ kind.spellings := by
  constructor
  · rintro ⟨small, mem, small_eq⟩
    obtain ⟨text, rfl, rfl⟩ := Text.exists_isAscii_of_small (isAscii_of_mem_spellings mem) small_eq
    exact ⟨text, rfl, mem⟩
  · rintro ⟨text, rfl, mem⟩
    have ascii := Text.isAscii_smallLetters_iff.1 (isAscii_of_mem_spellings mem)
    exact ⟨_, mem, ascii.map_smallByte_encode⟩

end FileKind

namespace Path

variable {p p' : Path} {kind : FileKind}

theorem kind?_eq_some_iff_spells :
    p.kind? = some kind ↔ ∃ extension, p.extension? = some extension ∧ kind.Spells extension := by
  simp only [kind?, Option.bind_eq_some_iff, extensionText?_eq_some_iff,
    FileKind.ofExtension?_eq_some_iff, FileKind.spells_iff]
  constructor
  · rintro ⟨text, known, mem⟩
    exact ⟨_, known, text, rfl, mem⟩
  · rintro ⟨_, known, text, rfl, mem⟩
    exact ⟨text, known, mem⟩

theorem fileName?_eq_some_iff {name : List UInt8} : p.fileName? = some name ↔ p.EndsIn name := by
  rw [← getLast?_components_iff, fileName?]
  split <;> simp_all

theorem kind?_eq_some_iff :
    p.kind? = some kind ↔ ∃ stem extension, p.EndsIn (stem ++ dot :: extension) ∧ stem ≠ [] ∧
      dot ∉ extension ∧ kind.Spells extension := by
  simp only [kind?_eq_some_iff_spells, extension?, Option.bind_eq_some_iff, fileName?_eq_some_iff,
    extensionOf?_eq_some_iff]
  constructor
  · rintro ⟨extension, ⟨_, ends, stem, rfl, filled, no_dot⟩, spells⟩
    exact ⟨stem, extension, ends, filled, no_dot, spells⟩
  · rintro ⟨stem, extension, ends, filled, no_dot, spells⟩
    exact ⟨extension, ⟨_, ends, stem, rfl, filled, no_dot⟩, spells⟩

/-! ## What has no say -/

theorem kind?_congr (same : p.extension? = p'.extension?) : p.kind? = p'.kind? := by
  rw [kind?, kind?, extensionText?, extensionText?, same]

theorem EndsIn.extension?_eq {name : List UInt8} (ends : p.EndsIn name) :
    p.extension? = extensionOf? name := by
  rw [extension?, fileName?_eq_some_iff.2 ends, Option.bind_some]

theorem Same.kind?_eq (same : p.Same p') : p.kind? = p'.kind? := by
  rw [kind?, kind?, same.extensionText?_eq]

theorem SameLetters.kind?_eq (same : p.SameLetters p') : p.kind? = p'.kind? := by
  have small_eq : p.extension?.map (·.map smallByte) = p'.extension?.map (·.map smallByte) := by
    rw [← extension?_small, ← extension?_small, same]
  ext kind
  have spelled (p : Path) : p.kind? = some kind ↔ ∃ small ∈ kind.spellings,
      p.extension?.map (·.map smallByte) = some (Utf8.encode small) := by
    simp only [kind?_eq_some_iff_spells, FileKind.Spells, Option.map_eq_some_iff]
    grind
  rw [spelled, spelled, small_eq]

/-- All that decides what kind of source file a path names. -/
structure KindGrammar (p : Path) : Prop where
  grammar : ∀ kind : FileKind, p.kind? = some kind ↔ ∃ stem extension,
    p.components.getLast? = some (.name (stem ++ dot :: extension)) ∧ stem ≠ [] ∧
      dot ∉ extension ∧ kind.Spells extension
  written : ∀ name, p.components.getLast? = some (.name name) ↔ p.EndsIn name
  spelling : ∀ p', p.Same p' → p.kind? = p'.kind?
  padded : ∀ padding, p.bytes ≠ [] → Padding padding → p.kind? = kind? ⟨p.bytes ++ padding⟩
  inserted : ∀ front behind, p.bytes = front ++ slash :: behind →
    p.kind? = kind? ⟨front ++ slash :: slash :: behind⟩ ∧
      p.kind? = kind? ⟨front ++ slash :: dot :: slash :: behind⟩
  letters : ∀ p', p.SameLetters p' → p.kind? = p'.kind?
  only_name : ∀ (p' : Path) name, p.EndsIn name → p'.EndsIn name → p.kind? = p'.kind?
  only_extension : ∀ (p' : Path) stem stem' extension, p.EndsIn (stem ++ dot :: extension) →
    p'.EndsIn (stem' ++ dot :: extension) → stem ≠ [] → stem' ≠ [] → dot ∉ extension →
      p.kind? = p'.kind?

theorem kind_follows_grammar (p : Path) : p.KindGrammar where
  grammar kind := by simp only [getLast?_components_iff, kind?_eq_some_iff]
  written name := getLast?_components_iff
  spelling p' same := same.kind?_eq
  padded padding filled says_nothing := (same_append_padding filled says_nothing).kind?_eq
  inserted front behind bytes_eq := by
    obtain ⟨bytes⟩ := p
    obtain rfl : bytes = _ := bytes_eq
    obtain ⟨doubled, dotted⟩ := same_insert front behind
    exact ⟨doubled.kind?_eq, dotted.kind?_eq⟩
  letters p' same := same.kind?_eq
  only_name p' name ends ends' := kind?_congr (ends.extension?_eq.trans ends'.extension?_eq.symm)
  only_extension p' stem stem' extension ends ends' filled filled' no_dot := by
    apply kind?_congr
    rw [ends.extension?_eq, ends'.extension?_eq, extensionOf?_of_split stem no_dot,
      extensionOf?_of_split stem' no_dot, if_neg filled, if_neg filled']

/-- Neither the directory nor the stem of `FF/FE.C/.` is a text. -/
theorem kind_follows_grammar_of_capital :
    let p : Path := ⟨[0xFF, slash, 0xFE, dot, 67, slash, dot]⟩
    p.EndsIn [0xFE, dot, 67] ∧ p.kind? = some .c := by
  intro p
  have follows := kind_follows_grammar p
  have last : p.components.getLast? = some (.name [0xFE, dot, 67]) := by decide +kernel +zetaReduce
  have spells : FileKind.Spells .c [67] := ⟨"c", by decide, by decide +kernel⟩
  exact ⟨(follows.written _).1 last,
    (follows.grammar .c).2 ⟨[0xFE], [67], last, by decide, by decide, spells⟩⟩

example : (ofText "a/.cpp").kind? = none ∧ (ofText "..c").kind? = some .c ∧
    (ofText "a.c.").kind? = none ∧ (ofText "a.c/..").kind? = none := by decide +kernel

end Path

end SourceIndex
