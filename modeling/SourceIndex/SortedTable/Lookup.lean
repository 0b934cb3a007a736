import SourceIndex.SortedTable

/-!
# Looking up in sorted tables

What is found after inserting and erasing: the key at hand sees the change, and every other key
sees the table as it was. Each entry is found by its own key.
-/

namespace SourceIndex.SortedTable

variable {κ α : Type} {before : κ → κ → Prop} [DecidableRel before]

/-! ## One key -/

theorem lookUp_cons (key : κ) (entry : κ × α) (rest : List (κ × α)) :
    lookUp before key (entry :: rest) =
      if SameKey before entry.1 key then some entry else lookUp before key rest := by
  by_cases h : SameKey before entry.1 key <;> simp [lookUp, h]

theorem lookUp_congr [KeyOrder before] {key key' : κ} (same : SameKey before key key')
    (entries : List (κ × α)) :
    lookUp before key entries = lookUp before key' entries := by
  induction entries with
  | nil => rfl
  | cons entry rest ih =>
    have iff : SameKey before entry.1 key ↔ SameKey before entry.1 key' :=
      ⟨fun h => h.trans same, fun h => h.trans same.symm⟩
    simp [lookUp_cons, ih, iff]

theorem find?_congr [KeyOrder before] (t : SortedTable before α) {key key' : κ}
    (same : SameKey before key key') : t.find? key = t.find? key' := by
  rw [find?, find?, entry?, entry?, lookUp_congr same]

/-! ## Empty tables -/

@[simp] theorem find?_empty (key : κ) : (empty : SortedTable before α).find? key = none := rfl

/-! ## After inserting -/

theorem lookUp_insertEntry_of_same [KeyOrder before] {key key' : κ} (value : α)
    (same : SameKey before key key') (entries : List (κ × α)) :
    (lookUp before key' (insertEntry before key value entries)).map (·.2) =
      some value := by
  induction entries with
  | nil => simp [insertEntry, lookUp_cons, same]
  | cons entry rest ih =>
    unfold insertEntry
    split
    · simp [lookUp_cons, same]
    · rename_i not_later
      split
      · rename_i earlier
        have apart : ¬ SameKey before entry.1 key' := fun h => h.1 (same.of_before earlier)
        simpa [lookUp_cons, apart] using ih
      · rename_i not_earlier
        have found : SameKey before entry.1 key' := SameKey.trans ⟨not_earlier, not_later⟩ same
        simp [lookUp_cons, found]

theorem lookUp_insertEntry_of_not_same [KeyOrder before] {key key' : κ} (value : α)
    (apart : ¬ SameKey before key key') (entries : List (κ × α)) :
    lookUp before key' (insertEntry before key value entries) =
      lookUp before key' entries := by
  induction entries with
  | nil => simp [insertEntry, lookUp_cons, apart]
  | cons entry rest ih =>
    unfold insertEntry
    split
    · rw [lookUp_cons, if_neg apart]
    · rename_i not_later
      split
      · rw [lookUp_cons, lookUp_cons, ih]
      · rename_i not_earlier
        have here : SameKey before key entry.1 := ⟨not_later, not_earlier⟩
        have other : ¬ SameKey before entry.1 key' := fun h => apart (here.trans h)
        rw [lookUp_cons, lookUp_cons, if_neg other, if_neg other]

theorem find?_insert_of_same [KeyOrder before] (t : SortedTable before α) {key key' : κ}
    (value : α) (same : SameKey before key key') : (t.insert key value).find? key' = some value :=
  lookUp_insertEntry_of_same value same t.entries

theorem find?_insert_of_not_same [KeyOrder before] (t : SortedTable before α) {key key' : κ}
    (value : α) (apart : ¬ SameKey before key key') :
    (t.insert key value).find? key' = t.find? key' := by
  simp only [find?, entry?, insert, lookUp_insertEntry_of_not_same value apart]

/-! ## After erasing -/

theorem find?_erase_of_same [KeyOrder before] (t : SortedTable before α) {key key' : κ}
    (same : SameKey before key key') : (t.erase key).find? key' = none := by
  have none_left : lookUp before key' (t.erase key).entries = none := by
    refine List.find?_eq_none.2 fun entry mem found => ?_
    have kept := (List.mem_filter.1 mem).2
    have found : SameKey before entry.1 key' := of_decide_eq_true found
    simp [found.trans same.symm] at kept
  simp [find?, entry?, none_left]

theorem lookUp_filter_of_not_same [KeyOrder before] {key key' : κ}
    (apart : ¬ SameKey before key key') (entries : List (κ × α)) :
    lookUp before key' (entries.filter fun entry =>
      !decide (SameKey before entry.1 key)) = lookUp before key' entries := by
  induction entries with
  | nil => rfl
  | cons entry rest ih =>
    by_cases here : SameKey before entry.1 key
    · have other : ¬ SameKey before entry.1 key' := fun h => apart (here.symm.trans h)
      simpa [lookUp_cons, here, other] using ih
    · simp [lookUp_cons, here, ih]

theorem find?_erase_of_not_same [KeyOrder before] (t : SortedTable before α) {key key' : κ}
    (apart : ¬ SameKey before key key') : (t.erase key).find? key' = t.find? key' := by
  simp only [find?, entry?, erase, lookUp_filter_of_not_same apart]

/-! ## Entries -/

theorem mem_of_entry? {t : SortedTable before α} {key : κ} {entry : κ × α}
    (h : t.entry? key = some entry) : entry ∈ t.entries := List.mem_of_find?_eq_some h

theorem sameKey_of_entry? {t : SortedTable before α} {key : κ} {entry : κ × α}
    (h : t.entry? key = some entry) : SameKey before entry.1 key := by
  have found := List.find?_some h
  simpa using found

theorem entry?_of_mem [KeyOrder before] {t : SortedTable before α} {entry : κ × α}
    (h : entry ∈ t.entries) : t.entry? entry.1 = some entry := by
  obtain ⟨entries, sorted⟩ := t
  unfold entry?
  induction entries with
  | nil => simp at h
  | cons first rest ih =>
    have ⟨least, sorted⟩ := List.pairwise_cons.1 sorted
    rw [lookUp_cons]
    rcases List.mem_cons.1 h with rfl | h
    · rw [if_pos (SameKey.refl _)]
    · rw [if_neg fun same => same.1 (least entry h)]
      exact ih sorted h

end SourceIndex.SortedTable
