import SourceIndex.Path.Table
import SourceIndex.SortedTable.Lookup

/-!
# Entries of sorted tables

How inserting and erasing change the entries of a table as a whole: an insertion replaces the
entry of its key or adds one, and an erasure takes one away.
-/

namespace SourceIndex.SortedTable

variable {κ α β : Type} {before : κ → κ → Prop} [DecidableRel before]

/-! ## What is found -/

theorem entry?_eq_none_iff {t : SortedTable before α} {key : κ} :
    t.entry? key = none ↔ ∀ entry ∈ t.entries, ¬ SameKey before entry.1 key := by
  unfold entry? lookUp
  simp [List.find?_eq_none]

theorem find?_eq_none_iff {t : SortedTable before α} {key : κ} :
    t.find? key = none ↔ ∀ entry ∈ t.entries, ¬ SameKey before entry.1 key := by
  unfold find?
  rw [Option.map_eq_none_iff, entry?_eq_none_iff]

theorem find?_eq_some_iff [KeyOrder before] {t : SortedTable before α} {key : κ} {value : α} :
    t.find? key = some value ↔
      ∃ entry ∈ t.entries, SameKey before entry.1 key ∧ entry.2 = value := by
  unfold find?
  rw [Option.map_eq_some_iff]
  constructor
  · rintro ⟨entry, found, rfl⟩
    exact ⟨entry, mem_of_entry? found, sameKey_of_entry? found, rfl⟩
  · rintro ⟨entry, mem, same, rfl⟩
    have found := entry?_of_mem mem
    unfold entry? at found ⊢
    exact ⟨entry, by rw [← lookUp_congr same, found], rfl⟩

theorem contains_eq_isSome (t : SortedTable before α) (key : κ) :
    t.contains key = (t.find? key).isSome := by
  simp [contains, find?]

theorem eq_of_found [KeyOrder before] {t : SortedTable before α} {key : κ} {value : α}
    (found : t.find? key = some value) {entry : κ × α} (mem : entry ∈ t.entries)
    (same : SameKey before entry.1 key) : entry.2 = value := by
  have found' : t.find? key = some entry.2 := find?_eq_some_iff.2 ⟨entry, mem, same, rfl⟩
  exact Option.some.inj (found'.symm.trans found)

/-! ## Erasing -/

theorem mem_erase_iff {t : SortedTable before α} {key : κ} {entry : κ × α} :
    entry ∈ (t.erase key).entries ↔ entry ∈ t.entries ∧ ¬ SameKey before entry.1 key := by
  simp [erase]

omit [DecidableRel before] in
theorem ext_entries {t t' : SortedTable before α} (h : t.entries = t'.entries) : t = t' := by
  cases t
  cases t'
  simpa using h

theorem erase_of_find?_eq_none {t : SortedTable before α} {key : κ} (h : t.find? key = none) :
    t.erase key = t := by
  apply ext_entries
  apply List.filter_eq_self.2
  intro entry mem
  simp [find?_eq_none_iff.1 h entry mem]

omit [DecidableRel before] in
theorem not_same_of_least [KeyOrder before] {first : κ × α} {rest : List (κ × α)} {key : κ}
    (least : ∀ entry ∈ rest, before first.1 entry.1) (same : SameKey before first.1 key) :
    ∀ entry ∈ rest, ¬ SameKey before entry.1 key := by
  intro entry mem same'
  exact (same'.trans same.symm).2 (least entry mem)

theorem perm_cons_erase [KeyOrder before] {t : SortedTable before α} {key : κ} {entry : κ × α}
    (mem : entry ∈ t.entries) (same : SameKey before entry.1 key) :
    t.entries.Perm (entry :: (t.erase key).entries) := by
  obtain ⟨entries, sorted⟩ := t
  simp only [erase] at mem ⊢
  induction entries with
  | nil => simp at mem
  | cons first rest ih =>
    obtain ⟨least, sorted⟩ := List.pairwise_cons.1 sorted
    rcases List.mem_cons.1 mem with rfl | mem
    · rw [List.filter_cons_of_neg (by simp [same]), List.filter_eq_self.2]
      intro other mem
      simp [not_same_of_least least same other mem]
    · have other : ¬ SameKey before first.1 key := by
        intro same'
        exact (same'.trans same.symm).1 (least entry mem)
      rw [List.filter_cons_of_pos (by simp [other])]
      exact ((ih sorted mem).cons first).trans (.swap entry first _)

/-! ## Inserting -/

variable [KeyOrder before]

theorem entries_insert_of_found {t : SortedTable before α} {key : κ} {old : α} (value : α)
    (h : t.find? key = some old) :
    (t.insert key value).entries = t.entries.map fun entry =>
      if SameKey before entry.1 key then (entry.1, value) else entry := by
  obtain ⟨entry, mem, same, rfl⟩ := find?_eq_some_iff.1 h
  clear h
  obtain ⟨entries, sorted⟩ := t
  simp only [insert] at mem ⊢
  induction entries with
  | nil => simp at mem
  | cons first rest ih =>
    obtain ⟨least, sorted⟩ := List.pairwise_cons.1 sorted
    unfold insertEntry
    rcases List.mem_cons.1 mem with rfl | mem
    · rw [if_neg same.2, if_neg same.1, List.map_cons, if_pos same]
      congr 1
      symm
      rw [List.map_congr_left (g := id), List.map_id]
      intro other mem
      exact if_neg (not_same_of_least least same other mem)
    · have earlier : before first.1 key := same.of_before (least entry mem)
      have not_earlier : ¬ before key first.1 := fun less =>
        KeyOrder.irrefl _ (KeyOrder.trans less earlier)
      rw [if_neg not_earlier, if_pos earlier, List.map_cons, if_neg fun h => h.1 earlier]
      rw [ih sorted mem]

theorem entries_insert_perm {t : SortedTable before α} {key : κ} (value : α)
    (h : t.find? key = none) : (t.insert key value).entries.Perm ((key, value) :: t.entries) := by
  have apart := find?_eq_none_iff.1 h
  clear h
  obtain ⟨entries, sorted⟩ := t
  simp only [insert] at apart ⊢
  clear sorted
  induction entries with
  | nil => exact .refl _
  | cons first rest ih =>
    unfold insertEntry
    split
    · exact .refl _
    · rename_i not_later
      split
      · have ih := ih fun entry mem => apart entry (List.mem_cons_of_mem _ mem)
        exact (ih.cons first).trans (.swap (key, value) first rest)
      · rename_i not_earlier
        exact absurd ⟨not_earlier, not_later⟩ (apart first List.mem_cons_self)

theorem mem_insert_of_found {t : SortedTable before α} {key : κ} {old value : α}
    (h : t.find? key = some old) {entry : κ × α} :
    entry ∈ (t.insert key value).entries ↔
      entry ∈ t.entries ∧ ¬ SameKey before entry.1 key ∨
        (entry.1, old) ∈ t.entries ∧ SameKey before entry.1 key ∧ entry.2 = value := by
  rw [entries_insert_of_found value h, List.mem_map]
  constructor
  · rintro ⟨cached, mem, rfl⟩
    by_cases same : SameKey before cached.1 key
    · obtain rfl : cached.2 = old := eq_of_found h mem same
      rw [if_pos same]
      exact .inr ⟨mem, same, rfl⟩
    · rw [if_neg same]
      exact .inl ⟨mem, same⟩
  · rintro (⟨mem, other⟩ | ⟨mem, same, rfl⟩)
    · exact ⟨entry, mem, if_neg other⟩
    · exact ⟨(entry.1, old), mem, if_pos same⟩

theorem map_insert_of_found {t : SortedTable before α} {key : κ} {old value : α}
    (h : t.find? key = some old) {view : κ × α → β}
    (alike : ∀ key', view (key', value) = view (key', old)) :
    (t.insert key value).entries.map view = t.entries.map view := by
  rw [entries_insert_of_found value h, List.map_map]
  apply List.map_congr_left
  intro cached mem
  by_cases same : SameKey before cached.1 key
  · obtain rfl : cached.2 = old := eq_of_found h mem same
    simp [same, alike]
  · simp [same]

theorem filterMap_values_insert_of_found {t : SortedTable before α} {key : κ} {old value : α}
    (h : t.find? key = some old) {view : α → Option β} (alike : view value = view old) :
    (t.insert key value).values.filterMap view = t.values.filterMap view := by
  have viewed (t : SortedTable before α) :
      t.values.filterMap view = (t.entries.map fun entry => view entry.2).filterMap id := by
    rw [values, List.filterMap_map, List.filterMap_map]
    rfl
  rw [viewed, viewed, map_insert_of_found h]
  exact fun _ => alike

theorem filterMap_values_perm_erase {t : SortedTable before α} {key : κ} {value : α}
    (h : t.find? key = some value) {view : α → Option β} {b : β} (seen : view value = some b) :
    (t.values.filterMap view).Perm (b :: (t.erase key).values.filterMap view) := by
  obtain ⟨entry, mem, same, rfl⟩ := find?_eq_some_iff.1 h
  have perm := ((perm_cons_erase mem same).map (·.2)).filterMap view
  rwa [List.map_cons, List.filterMap_cons_some seen] at perm

theorem filterMap_values_insert_perm {t : SortedTable before α} {key : κ} {value : α}
    (h : t.find? key = none) {view : α → Option β} {b : β} (seen : view value = some b) :
    ((t.insert key value).values.filterMap view).Perm (b :: t.values.filterMap view) := by
  have perm := ((entries_insert_perm value h).map (·.2)).filterMap view
  rwa [List.map_cons, List.filterMap_cons_some seen] at perm

theorem mem_insert_of_not_found {t : SortedTable before α} {key : κ} {value : α}
    (h : t.find? key = none) {entry : κ × α} :
    entry ∈ (t.insert key value).entries ↔ entry = (key, value) ∨ entry ∈ t.entries := by
  rw [(entries_insert_perm value h).mem_iff, List.mem_cons]

theorem insertEntry_comm {key key' : κ} (apart : ¬ SameKey before key key') (value value' : α)
    (entries : List (κ × α)) :
    insertEntry before key' value' (insertEntry before key value entries) =
      insertEntry before key value (insertEntry before key' value' entries) := by
  have irrefl : ∀ a, ¬ before a a := KeyOrder.irrefl
  have trans : ∀ {a b c}, before a b → before b c → before a c := KeyOrder.trans
  have split : ∀ {a c} b, before a c → before a b ∨ before b c := KeyOrder.split
  simp only [SameKey] at apart
  induction entries with
  | nil => grind [insertEntry]
  | cons entry rest ih => grind [insertEntry]

theorem insert_comm (t : SortedTable before α) {key key' : κ} (apart : ¬ SameKey before key key')
    (value value' : α) :
    (t.insert key value).insert key' value' = (t.insert key' value').insert key value :=
  ext_entries (insertEntry_comm apart value value' t.entries)

/-! ## Whole entries -/

theorem entry?_eq_some_iff {t : SortedTable before α} {key : κ} {entry : κ × α} :
    t.entry? key = some entry ↔ entry ∈ t.entries ∧ SameKey before entry.1 key := by
  constructor
  · exact fun found => ⟨ mem_of_entry? found, sameKey_of_entry? found⟩
  · rintro ⟨mem, same⟩
    have found := entry?_of_mem mem
    unfold entry? at found ⊢
    rw [← lookUp_congr same, found]

theorem entry?_insert_of_same (t : SortedTable before α) {key key' : κ} (value : α)
    (same : SameKey before key key') :
    entry? (t.insert key value) key' =
      some ((( t.entry? key').map (·.1)).getD key, value) := by
  rw [entry?_eq_some_iff]
  cases found : t.entry? key' with
  | none =>
    have unknown : t.find? key = none := by rw [t.find?_congr same, find?, found, Option.map_none]
    exact ⟨(mem_insert_of_not_found unknown).2 (.inl rfl), same⟩
  | some entry =>
    have known : t.find? key = some entry.2 := by
      rw [t.find?_congr same, find?, found, Option.map_some]
    obtain ⟨mem, same'⟩ := entry?_eq_some_iff.1 found
    have here : SameKey before entry.1 key := same'.trans same.symm
    exact ⟨(mem_insert_of_found known).2 (.inr ⟨mem, here, rfl⟩), same'⟩

theorem entry?_insert_of_not_same (t : SortedTable before α) {key key' : κ} (value : α)
    (apart : ¬ SameKey before key key') : entry? (t.insert key value) key' = t.entry? key' :=
  lookUp_insertEntry_of_not_same value apart t.entries

theorem entry?_erase_of_same (t : SortedTable before α) {key key' : κ}
    (same : SameKey before key key') : entry? (t.erase key) key' = none := by
  rw [entry?_eq_none_iff]
  intro entry mem here
  exact (mem_erase_iff.1 mem).2 (here.trans same.symm)

theorem entry?_erase_of_not_same (t : SortedTable before α) {key key' : κ}
    (apart : ¬ SameKey before key key') : entry? (t.erase key) key' = t.entry? key' :=
  lookUp_filter_of_not_same apart t.entries

theorem filter_sameKey (t : SortedTable before α) (key : κ) :
    t.entries.filter (fun entry => decide (SameKey before entry.1 key)) =
      (t.entry? key).toList := by
  obtain ⟨entries, sorted⟩ := t
  unfold entry?
  induction entries with
  | nil => rfl
  | cons first rest ih =>
    obtain ⟨least, sorted⟩ := List.pairwise_cons.1 sorted
    rw [lookUp_cons]
    by_cases same : SameKey before first.1 key
    · have others : rest.filter (fun entry => decide (SameKey before entry.1 key)) = [] := by
        simpa using not_same_of_least least same
      simp [same, others]
    · simpa [same] using ih sorted

end SourceIndex.SortedTable
