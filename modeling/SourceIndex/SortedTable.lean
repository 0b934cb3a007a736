/-!
# Sorted tables

A table keeps its entries sorted by their keys. Two keys of which neither comes before the other
are the same key, however they are written. An entry keeps the key it was first made with.
-/

namespace SourceIndex

/-! ## Orders of keys -/

/-- An order in which different keys may share a place. -/
class KeyOrder {κ : Type} (before : κ → κ → Prop) : Prop where
  irrefl : ∀ a, ¬ before a a
  trans : ∀ {a b c}, before a b → before b c → before a c
  /-- Whatever two keys are apart from each other, a third one is apart from one of them. -/
  split : ∀ {a c} (b), before a c → before a b ∨ before b c

/-- Neither key comes before the other. -/
def SameKey {κ : Type} (before : κ → κ → Prop) (a b : κ) : Prop := ¬ before a b ∧ ¬ before b a

namespace SameKey

variable {κ : Type} {before : κ → κ → Prop} {a b c : κ}

instance [DecidableRel before] (a b : κ) : Decidable (SameKey before a b) :=
  inferInstanceAs (Decidable (_ ∧ _))

theorem refl [KeyOrder before] (a : κ) : SameKey before a a :=
  ⟨KeyOrder.irrefl a, KeyOrder.irrefl a⟩

theorem symm (h : SameKey before a b) : SameKey before b a := ⟨h.2, h.1⟩

theorem trans [KeyOrder before] (h : SameKey before a b) (h' : SameKey before b c) :
    SameKey before a c :=
  ⟨fun less => (KeyOrder.split b less).elim h.1 h'.1,
    fun less => (KeyOrder.split b less).elim h'.2 h.2⟩

theorem of_before [KeyOrder before] (h : SameKey before b c) (less : before a b) : before a c :=
  (KeyOrder.split c less).resolve_right h.2

end SameKey

/-! ## Tables -/

/-- A table whose keys are ordered by `before`. -/
structure SortedTable {κ : Type} (before : κ → κ → Prop) (α : Type) where
  entries : List (κ × α)
  sorted : entries.Pairwise fun a b => before a.1 b.1
  deriving DecidableEq

namespace SortedTable

variable {κ α : Type} {before : κ → κ → Prop}

def empty : SortedTable before α := ⟨[], .nil⟩

def length (t : SortedTable before α) : Nat := t.entries.length

def keys (t : SortedTable before α) : List κ := t.entries.map (·.1)

def values (t : SortedTable before α) : List α := t.entries.map (·.2)

/-! ## Looking up -/

/-- The first entry with this key. -/
def lookUp (before : κ → κ → Prop) [DecidableRel before] (key : κ) (entries : List (κ × α)) :
    Option (κ × α) :=
  entries.find? fun entry => decide (SameKey before entry.1 key)

def entry? [DecidableRel before] (t : SortedTable before α) (key : κ) : Option (κ × α) :=
  lookUp before key t.entries

def find? [DecidableRel before] (t : SortedTable before α) (key : κ) : Option α :=
  (t.entry? key).map (·.2)

def contains [DecidableRel before] (t : SortedTable before α) (key : κ) : Bool :=
  (t.entry? key).isSome

/-! ## Inserting -/

/-- Puts a value where its key belongs, in the place of an old value if there is one. -/
def insertEntry (before : κ → κ → Prop) [DecidableRel before] (key : κ) (value : α) :
    List (κ × α) → List (κ × α)
  | [] => [(key, value)]
  | entry :: rest =>
    if before key entry.1 then (key, value) :: entry :: rest
    else if before entry.1 key then entry :: insertEntry before key value rest
    else (entry.1, value) :: rest

theorem key_of_mem_insertEntry [DecidableRel before] {key : κ} {value : α}
    {entries : List (κ × α)} {entry : κ × α}
    (h : entry ∈ insertEntry before key value entries) :
    entry.1 = key ∨ ∃ old ∈ entries, old.1 = entry.1 := by
  induction entries with
  | nil => simp_all [insertEntry]
  | cons first rest ih =>
    unfold insertEntry at h
    split at h
    · rcases List.mem_cons.1 h with rfl | h
      · exact .inl rfl
      · exact .inr ⟨entry, h, rfl⟩
    · split at h
      · rcases List.mem_cons.1 h with rfl | h
        · exact .inr ⟨_, List.mem_cons_self, rfl⟩
        · rcases ih h with h | ⟨old, mem, same⟩
          · exact .inl h
          · exact .inr ⟨old, List.mem_cons_of_mem _ mem, same⟩
      · rcases List.mem_cons.1 h with rfl | h
        · exact .inr ⟨first, List.mem_cons_self, rfl⟩
        · exact .inr ⟨entry, List.mem_cons_of_mem _ h, rfl⟩

theorem sorted_insertEntry [DecidableRel before] [KeyOrder before] (key : κ) (value : α)
    {entries : List (κ × α)} (h : entries.Pairwise fun a b => before a.1 b.1) :
    (insertEntry before key value entries).Pairwise fun a b => before a.1 b.1 := by
  induction entries with
  | nil => simp [insertEntry]
  | cons first rest ih =>
    have ⟨least, sorted⟩ := List.pairwise_cons.1 h
    unfold insertEntry
    split
    · rename_i first_later
      refine List.pairwise_cons.2 ⟨fun entry mem => ?_, h⟩
      rcases List.mem_cons.1 mem with rfl | mem
      · exact first_later
      · exact KeyOrder.trans first_later (least entry mem)
    · split
      · rename_i first_earlier
        refine List.pairwise_cons.2 ⟨fun entry mem => ?_, ih sorted⟩
        rcases key_of_mem_insertEntry mem with same | ⟨old, mem, same⟩
        · exact same ▸ first_earlier
        · exact same ▸ least old mem
      · exact List.pairwise_cons.2 ⟨least, sorted⟩

def insert [DecidableRel before] [KeyOrder before] (t : SortedTable before α) (key : κ)
    (value : α) : SortedTable before α :=
  ⟨insertEntry before key value t.entries, sorted_insertEntry key value t.sorted⟩

/-! ## Erasing -/

def erase [DecidableRel before] (t : SortedTable before α) (key : κ) : SortedTable before α :=
  ⟨t.entries.filter fun entry => !decide (SameKey before entry.1 key), t.sorted.filter _⟩

/-! ## From a list -/

/-- Of two values for one key the later one stays. -/
def ofList [DecidableRel before] [KeyOrder before] (entries : List (κ × α)) :
    SortedTable before α :=
  entries.foldl (fun t entry => t.insert entry.1 entry.2) empty

end SortedTable

end SourceIndex
