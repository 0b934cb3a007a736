import SourceIndex.Proofs.Path.Spelling

/-!
# Entries for files under a root

A configuration names a file under the root of its project by a relative path. The file is found
under that name only if the name is written plainly: with one slash between its parts, and no dot
that stands for nothing.
-/

namespace SourceIndex

namespace Path

variable {root path : Path} {entry : String}

/-! ## Pieces of an entry -/

/-- What the entry has between its slashes. -/
def entryPieces (entry : String) : List (List Char) := entry.toList.splitOn '/'

/-- The entry is empty, or none of its pieces stands for nothing behind the root. -/
def PlainEntry (root : Path) (entry : String) : Prop :=
  entry = "" ∨ ([] ∉ entryPieces entry ∧ ['.'] ∉ (entryPieces entry).tail ∧
    ((entryPieces entry).head? = some ['.'] → root.bytes = []))

instance (root : Path) (entry : String) : Decidable (root.PlainEntry entry) :=
  inferInstanceAs (Decidable (_ ∨ _))

/-- The pieces that stand for a component behind the root. -/
def countedPieces (root : Path) : List (List Char) → List (List Char)
  | [] => []
  | first :: others =>
    if first = [] ∨ (first = ['.'] ∧ root.bytes ≠ []) then others.filter (¬ Silent ·)
    else first :: others.filter (¬ Silent ·)

theorem countedPieces_sublist (root : Path) (pieces : List (List Char)) :
    (root.countedPieces pieces).Sublist pieces := by
  cases pieces with
  | nil => exact .refl _
  | cons first others =>
    rw [countedPieces]
    split
    · exact .cons _ List.filter_sublist
    · exact .cons_cons _ List.filter_sublist

theorem countedPieces_eq_self_iff {first : List Char} {others : List (List Char)} :
    root.countedPieces (first :: others) = first :: others ↔
      [] ∉ first :: others ∧ ['.'] ∉ others ∧ (first = ['.'] → root.bytes = []) := by
  rw [countedPieces]
  split
  next lost =>
    have shorter : others.filter (¬ Silent ·) ≠ first :: others := by
      intro same
      have := List.length_filter_le (¬ Silent ·) others
      rw [same, List.length_cons] at this
      omega
    simp only [shorter, false_iff]
    rintro ⟨filled, -, only⟩
    rcases lost with rfl | ⟨here, behind⟩
    · simp at filled
    · exact behind (only here)
  next kept =>
    have first_kept : first ≠ [] ∧ (first = ['.'] → root.bytes = []) := by simpa using kept
    have others_kept : others.filter (¬ Silent ·) = others ↔ [] ∉ others ∧ ['.'] ∉ others := by
      simp only [List.filter_eq_self, decide_eq_true_eq, Silent, not_or]
      constructor
      · exact fun all => ⟨fun mem => (all _ mem).1 rfl, fun mem => (all _ mem).2 rfl⟩
      · rintro ⟨filled, counted⟩ piece mem
        exact ⟨fun same => filled (same ▸ mem), fun same => counted (same ▸ mem)⟩
    simp only [List.cons.injEq, true_and, others_kept, List.mem_cons, not_or,
      first_kept.1.symm, not_false_eq_true]
    exact ⟨fun plain => ⟨plain.1, plain.2, first_kept.2⟩, fun plain => ⟨plain.1, plain.2.1⟩⟩

theorem shown_stepsUnder (relative : (ofText entry).isAbsolute = false) :
    (root.stepsUnder (ofText entry)).map (·.shown.toList) =
      root.countedPieces (entryPieces entry) := by
  have split_bytes : splitSlashes (ofText entry).bytes = _ := splitSlashes_encode entry
  obtain ⟨first, others, split⟩ :=
    List.exists_cons_of_ne_nil (List.splitOn_ne_nil '/' entry.toList)
  rw [split] at split_bytes
  rw [entryPieces, split, countedPieces, stepsUnder]
  by_cases empty : root.bytes = []
  · have shown := shown_of_first first
    rw [List.map_cons] at split_bytes
    rw [if_pos empty, components_of_pieces split_bytes, if_neg (by simp [relative]),
      List.nil_append, List.map_append, shown_of_pieces, ← Option.toList_map, shown]
    by_cases nothing : first = [] <;> simp [nothing, empty]
  · rw [if_neg empty, steps, split_bytes, shown_of_pieces, List.filter_cons]
    by_cases silent : Silent first
    · simp_all [Silent]
    · simp_all [Silent]

theorem entryPieces_ne_nil (entry : String) : entryPieces entry ≠ [] :=
  List.splitOn_ne_nil '/' entry.toList

theorem plainEntry_iff_countedPieces :
    root.PlainEntry entry ↔ entry = "" ∨ root.countedPieces (entryPieces entry) =
      entryPieces entry := by
  obtain ⟨first, others, split⟩ := List.exists_cons_of_ne_nil (entryPieces_ne_nil entry)
  rw [PlainEntry, split, countedPieces_eq_self_iff]
  simp

theorem intercalate_countedPieces_iff :
    ['/'].intercalate (root.countedPieces (entryPieces entry)) = entry.toList ↔
      root.PlainEntry entry := by
  rw [plainEntry_iff_countedPieces]
  constructor
  · intro joined
    by_cases none_counted : root.countedPieces (entryPieces entry) = []
    · left
      rw [none_counted] at joined
      exact String.toList_inj.1 joined.symm
    · right
      have free : ∀ piece ∈ root.countedPieces (entryPieces entry), '/' ∉ piece := fun piece mem =>
        not_mem_of_mem_splitOn ((root.countedPieces_sublist _).subset mem)
      have split := List.splitOn_intercalate '/' free none_counted
      rw [joined] at split
      exact split.symm
  · rintro (rfl | counted)
    · rfl
    · rw [counted, entryPieces, List.intercalate_splitOn]

theorem relativeKey_eq_iff (relative : (ofText entry).isAbsolute = false)
    (names : (root.join (ofText entry)).Same path) :
    root.relativeKey path = entry ↔ root.PlainEntry entry := by
  have split : path.components = root.components ++ root.stepsUnder (ofText entry) := by
    rw [← names, components_join relative]
  rw [relativeKey_of_components split, shown_stepsUnder relative, ← String.toList_inj,
    String.toList_ofList, intercalate_countedPieces_iff]

end Path

end SourceIndex
