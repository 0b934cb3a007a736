import SourceIndex.File.Kind
import SourceIndex.Proofs.Path.Spelling
import SourceIndex.Proofs.Text.Letters

/-!
# Paths in other letters

A path in small letters has the components of the path, each in small letters, and so its extension
too. Whether a path names a source file, and by which extension, does not depend on capitals.
-/

namespace SourceIndex

/-! ## Small letters -/

def Component.small : Component → Component
  | name bytes => .name (bytes.map smallByte)
  | other => other

def Path.small (p : Path) : Path := ⟨p.bytes.map smallByte⟩

theorem map_smallByte_eq_iff {bytes other : List UInt8} (no_letter : ∀ b ∈ other, b < 65) :
    bytes.map smallByte = other ↔ bytes = other := by
  induction bytes generalizing other with
  | nil => simp
  | cons b bytes ih =>
    cases other with
    | nil => simp
    | cons b' other =>
      obtain ⟨first, rest⟩ := List.forall_mem_cons.1 no_letter
      simp [smallByte_eq_iff first, ih rest]

theorem splitSlashes_small (bytes : List UInt8) :
    splitSlashes (bytes.map smallByte) = (splitSlashes bytes).map (·.map smallByte) := by
  induction bytes with
  | nil => rfl
  | cons b rest ih =>
    have ends : smallByte b = slash ↔ b = slash := smallByte_eq_iff (by decide)
    obtain ⟨piece, pieces, split⟩ := List.exists_cons_of_ne_nil (splitSlashes_ne_nil rest)
    simp only [List.map_cons, splitSlashes, ih, split, ends]
    split <;> simp

theorem Component.ofPiece?_small (piece : List UInt8) :
    ofPiece? (piece.map smallByte) = (ofPiece? piece).map small := by
  have single : piece.map smallByte = [dot] ↔ piece = [dot] :=
    map_smallByte_eq_iff (by decide +kernel)
  have double : piece.map smallByte = [dot, dot] ↔ piece = [dot, dot] :=
    map_smallByte_eq_iff (by decide +kernel)
  simp only [ofPiece?, List.map_eq_nil_iff, single, double]
  split
  · rfl
  · split <;> rfl

theorem Component.ofFirst?_small (piece : List UInt8) :
    ofFirst? (piece.map smallByte) = (ofFirst? piece).map small := by
  have single : piece.map smallByte = [dot] ↔ piece = [dot] :=
    map_smallByte_eq_iff (by decide +kernel)
  simp only [ofFirst?, single, ofPiece?_small]
  split <;> rfl

namespace Path

theorem isAbsolute_small (p : Path) : p.small.isAbsolute = p.isAbsolute := by
  obtain ⟨bytes⟩ := p
  cases bytes with
  | nil => rfl
  | cons b rest =>
    have ends : smallByte b = slash ↔ b = slash := smallByte_eq_iff (by decide)
    refine Bool.eq_iff_iff.2 ?_
    simp [small, isAbsolute, ends]

theorem components_small (p : Path) : p.small.components = p.components.map Component.small := by
  obtain ⟨first, others, split⟩ := List.exists_cons_of_ne_nil (splitSlashes_ne_nil p.bytes)
  have split_small : splitSlashes p.small.bytes = _ := splitSlashes_small p.bytes
  rw [split, List.map_cons] at split_small
  rw [components_of_pieces split_small, components_of_pieces split, isAbsolute_small]
  simp only [List.map_append, List.map_filterMap, List.filterMap_map, Function.comp_def,
    Component.ofPiece?_small, Component.ofFirst?_small, Option.toList_map]
  split <;> rfl

theorem fileName?_small (p : Path) : p.small.fileName? = p.fileName?.map (·.map smallByte) := by
  rw [fileName?, fileName?, components_small, List.getLast?_map]
  cases p.components.getLast? with
  | none => rfl
  | some c => cases c <;> rfl

theorem extensionOf?_small (name : List UInt8) :
    extensionOf? (name.map smallByte) = (extensionOf? name).map (·.map smallByte) := by
  have goes_on : (fun b => decide (b ≠ dot)) ∘ smallByte = fun b => decide (b ≠ dot) := by
    funext b
    have ends : smallByte b = dot ↔ b = dot := smallByte_eq_iff (by decide)
    simp [ends]
  rw [extensionOf?, extensionOf?, ← List.map_reverse, List.takeWhile_map, List.dropWhile_map,
    goes_on]
  rcases name.reverse.dropWhile (· ≠ dot) with _ | ⟨_, _ | ⟨_, _⟩⟩ <;> simp

theorem extension?_small (p : Path) : p.small.extension? = p.extension?.map (·.map smallByte) := by
  rw [extension?, extension?, fileName?_small]
  cases p.fileName? with
  | none => rfl
  | some name => exact extensionOf?_small name

/-- The paths differ in nothing but which letters are capital. -/
def SameLetters (p p' : Path) : Prop := p.small = p'.small

instance (p p' : Path) : Decidable (SameLetters p p') := inferInstanceAs (Decidable (_ = _))

end Path

end SourceIndex
