import SourceIndex.File.Buffers
import SourceIndex.Proofs.Tables
import Mathlib.Data.List.DropRight

/-!
# Edits of the buffers

The editor updates and removes its buffers, one edit after the other. Which buffers there are then
can be read off the edits alone: a path has a buffer if it was updated since it was last removed,
and that buffer is spelled as in the first of these updates and filled as in the last.
-/

namespace SourceIndex

/-! ## The log of the editor -/

inductive Edit where
  | update (path : Path) (contents : String)
  | remove (path : Path)
  | removeAll
  deriving DecidableEq, Repr

namespace Edit

def apply (b : Buffers) : Edit → Buffers
  | update path contents => b.update path contents
  | remove path => b.remove path
  | removeAll => b.removeAll

/-- Whether the path has no buffer right after the edit. -/
def removes (path : Path) : Edit → Bool
  | update _ _ => false
  | remove other => other.Same path
  | removeAll => true

/-- What the edit says about the buffer of the path. -/
def updated? (path : Path) : Edit → Option Buffer
  | update other contents => if other.Same path then some ⟨other, contents⟩ else none
  | remove _ | removeAll => none

/-- The updates of the path since it was last removed. -/
def updatesOf (path : Path) (log : List Edit) : List Buffer :=
  (log.rtakeWhile (! removes path ·)).filterMap (updated? path)

/-- The buffer that the path has after the edits. -/
def bufferOf? (path : Path) (log : List Edit) : Option Buffer := do
  let first ← (updatesOf path log).head?
  let last ← (updatesOf path log).getLast?
  pure ⟨first.path, last.contents⟩

variable {path : Path} {log : List Edit} {edit : Edit}

theorem updatesOf_concat_of_removes (removed : edit.removes path = true) :
    updatesOf path (log ++ [edit]) = [] := by
  rw [updatesOf, List.rtakeWhile_concat_neg _ _ _ (by simp [removed]), List.filterMap_nil]

theorem updatesOf_concat (kept : edit.removes path = false) :
    updatesOf path (log ++ [edit]) = updatesOf path log ++ (edit.updated? path).toList := by
  rw [updatesOf, List.rtakeWhile_concat_pos _ _ _ (by simp [kept]), List.filterMap_append, updatesOf]
  cases said : edit.updated? path <;> simp [said]

theorem bufferOf?_concat_of_removes (removed : edit.removes path = true) :
    bufferOf? path (log ++ [edit]) = none := by
  rw [bufferOf?, updatesOf_concat_of_removes removed]
  rfl

theorem bufferOf?_concat_of_silent (kept : edit.removes path = false)
    (silent : edit.updated? path = none) :
    bufferOf? path (log ++ [edit]) = bufferOf? path log := by
  rw [bufferOf?, updatesOf_concat kept, silent, Option.toList_none, List.append_nil, bufferOf?]

theorem bufferOf?_concat_update {other : Path} (contents : String) (same : other.Same path) :
    bufferOf? path (log ++ [update other contents]) =
      some ⟨((bufferOf? path log).map (·.path)).getD other, contents⟩ := by
  have said : (update other contents).updated? path = some ⟨other, contents⟩ := if_pos same
  rw [bufferOf?, updatesOf_concat rfl, said, bufferOf?, Option.toList_some]
  cases updatesOf path log with
  | nil => rfl
  | cons first rest =>
    rw [List.getLast?_concat, List.getLast?_eq_some_getLast (List.cons_ne_nil first rest)]
    rfl

end Edit

/-! ## Buffers after edits -/

namespace Buffers

/-- The buffers that the edits leave. -/
def edited (log : List Edit) : Buffers := log.foldl Edit.apply .empty

theorem edited_concat (log : List Edit) (edit : Edit) :
    edited (log ++ [edit]) = edit.apply (edited log) := by
  simp [edited]

/-- The buffer of a path, as it is in the table. -/
def buffer? (b : Buffers) (path : Path) : Option Buffer :=
  (b.table.entry? path).map fun (key, contents) => ⟨key, contents⟩

theorem contents?_eq (b : Buffers) (path : Path) :
    b.contents? path = (b.buffer? path).map (·.contents) := by
  simp [contents?, SortedTable.find?, buffer?, Function.comp_def]

theorem filter_toList (b : Buffers) (path : Path) :
    b.toList.filter (·.path.Same path) = (b.buffer? path).toList := by
  have alike : (fun entry : Path × String => decide (entry.1.Same path)) =
      fun entry => decide (SameKey Path.Before entry.1 path) := by
    simp only [Path.sameKey_iff_same]
  have found := b.table.filter_sameKey path
  rw [← alike] at found
  rw [toList, List.filter_map, buffer?, Function.comp_def, found, Option.toList_map]

theorem pairwise_toList (b : Buffers) : b.toList.Pairwise fun x y => x.path.Before y.path :=
  b.table.sorted.map _ fun _ _ less => less

theorem buffer?_update_of_same (b : Buffers) {path other : Path} (contents : String)
    (same : other.Same path) :
    (b.update other contents).buffer? path =
      some ⟨((b.buffer? path).map (·.path)).getD other, contents⟩ := by
  rw [buffer?, update, SortedTable.entry?_insert_of_same _ _ (Path.sameKey_iff_same.2 same), buffer?]
  cases b.table.entry? path <;> rfl

theorem buffer?_update_of_not_same (b : Buffers) {path other : Path} (contents : String)
    (apart : ¬ other.Same path) : (b.update other contents).buffer? path = b.buffer? path := by
  rw [buffer?, update,
    SortedTable.entry?_insert_of_not_same _ _ (Path.sameKey_iff_same.not.2 apart), buffer?]

theorem buffer?_remove (b : Buffers) (path other : Path) :
    (b.remove other).buffer? path = if other.Same path then none else b.buffer? path := by
  rw [buffer?, remove]
  split
  next same => rw [SortedTable.entry?_erase_of_same _ (Path.sameKey_iff_same.2 same)]; rfl
  next apart =>
    rw [SortedTable.entry?_erase_of_not_same _ (Path.sameKey_iff_same.not.2 apart), buffer?]

theorem buffer?_apply {b : Buffers} {path : Path} {log : List Edit}
    (known : b.buffer? path = Edit.bufferOf? path log) (edit : Edit) :
    (edit.apply b).buffer? path = Edit.bufferOf? path (log ++ [edit]) := by
  cases edit with
  | update other contents =>
    by_cases same : other.Same path
    · rw [Edit.apply, b.buffer?_update_of_same contents same,
        Edit.bufferOf?_concat_update contents same, known]
    · have silent : (Edit.update other contents).updated? path = none := if_neg same
      rw [Edit.apply, b.buffer?_update_of_not_same contents same,
        Edit.bufferOf?_concat_of_silent rfl silent, known]
  | remove other =>
    rw [Edit.apply, buffer?_remove]
    by_cases same : other.Same path
    · rw [if_pos same, Edit.bufferOf?_concat_of_removes (by simpa [Edit.removes] using same)]
    · rw [if_neg same, Edit.bufferOf?_concat_of_silent (by simpa [Edit.removes] using same) rfl,
        known]
  | removeAll =>
    rw [Edit.bufferOf?_concat_of_removes rfl]
    rfl

theorem buffer?_edited (path : Path) (log : List Edit) :
    (edited log).buffer? path = Edit.bufferOf? path log := by
  induction log using List.reverseRecOn with
  | nil => rfl
  | append_singleton log edit ih => rw [edited_concat, buffer?_apply ih]

/-- The buffers are those that the edits leave, and every way to look at them agrees. -/
structure Reflects (b : Buffers) (log : List Edit) : Prop where
  ordered : b.toList.Pairwise fun x y => x.path.Before y.path
  current : ∀ path, b.toList.filter (·.path.Same path) = (Edit.bufferOf? path log).toList
  contents : ∀ path, b.contents? path = (Edit.bufferOf? path log).map (·.contents)
  length : b.length = b.toList.length
  isEmpty : b.isEmpty = b.toList.isEmpty

theorem edited_reflects (log : List Edit) : (edited log).Reflects log where
  ordered := pairwise_toList _
  current path := by rw [filter_toList, buffer?_edited]
  contents path := by rw [contents?_eq, buffer?_edited]
  length := (length_toList _).symm
  isEmpty := by
    rw [isEmpty, ← length_toList]
    cases (edited log).toList <;> rfl

end Buffers

end SourceIndex
