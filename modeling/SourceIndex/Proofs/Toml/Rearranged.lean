import Mathlib.Data.List.Forall2
import Mathlib.Data.List.Nodup
import SourceIndex.Proofs.Toml.Distinct
import SourceIndex.Toml.Decode

/-!
# Values in another order

The entries of a table may stand in any order. A decoder reads them one after another and stops at
the first that does not fit, so what it reports depends on the order. Whether it accepts a value,
and what it makes of it, does not.
-/

namespace SourceIndex.Toml

/-- Tables may have their entries in another order, on all levels. Arrays keep theirs. -/
inductive Rearranged : Toml → Toml → Prop
  | refl (value : Toml) : Rearranged value value
  | array {items items' : List Toml} (each : List.Forall₂ Rearranged items items') :
    Rearranged (.array items) (.array items')
  | arrayOfTables {tables tables' : List Toml} (each : List.Forall₂ Rearranged tables tables') :
    Rearranged (.arrayOfTables tables) (.arrayOfTables tables')
  | table {kind : TableKind} {entries moved entries' : List (String × Toml)}
    (perm : entries.Perm moved) (keys : moved.map (·.1) = entries'.map (·.1))
    (each : List.Forall₂ Rearranged (moved.map (·.2)) (entries'.map (·.2))) :
    Rearranged (.table kind entries) (.table kind entries')

/-! ## What is decoded -/

section

variable {ε α β : Type}

theorem toOption_eq_some_iff {decoded : Except ε α} {a : α} :
    decoded.toOption = some a ↔ decoded = .ok a := by
  cases decoded <;> simp [Except.toOption]

theorem toOption_map (f : α → β) (decoded : Except ε α) :
    (decoded.map f).toOption = decoded.toOption.map f := by
  cases decoded <;> rfl

theorem toOption_bind (decoded : Except ε α) (next : α → Except ε β) :
    (decoded >>= next).toOption = decoded.toOption.bind fun a => (next a).toOption := by
  cases decoded <;> rfl

theorem toOption_within (step : Step) (decoded : Except Misfit α) :
    (within step decoded).toOption = decoded.toOption := by
  cases decoded <;> rfl

theorem toOption_mapM (f : α → Except ε β) (items : List α) :
    (items.mapM f).toOption = items.mapM fun a => (f a).toOption := by
  induction items with
  | nil => rfl
  | cons a items ih =>
    simp only [List.mapM_cons, toOption_bind, ih]
    rfl

theorem toOption_each (item : Decoder α) (items : List Toml) :
    (each item items).toOption = items.mapM fun value => (item value).toOption := by
  rw [each, toOption_mapM, ← List.zipIdx_map_fst 0 items, List.mapM_map]
  simp only [toOption_within, List.zipIdx_map_fst, Function.comp_def]

end

/-! ## Decoders that do not see the order -/

/-- Values without doubled keys are accepted in any order or in none, and decode to the same. -/
def OrderFree {α : Type} (decoder : Decoder α) : Prop :=
  ∀ ⦃value value' : Toml⦄, value.Distinct → Rearranged value value' →
    (decoder value).toOption = (decoder value').toOption

section

variable {α : Type}

theorem text_orderFree : OrderFree text := by
  rintro _ _ - (_ | _ | _ | _) <;> rfl

theorem bool_orderFree : OrderFree bool := by
  rintro _ _ - (_ | _ | _ | _) <;> rfl

theorem byte_orderFree : OrderFree byte := by
  rintro _ _ - (_ | _ | _ | _) <;> rfl

theorem OrderFree.each {item : Decoder α} (item_free : OrderFree item) {items items' : List Toml}
    (distinct : ∀ item ∈ items, item.Distinct) (rearranged : List.Forall₂ Rearranged items items') :
    (each item items).toOption = (each item items').toOption := by
  rw [toOption_each, toOption_each]
  induction rearranged with
  | nil => rfl
  | cons first _ ih =>
    obtain ⟨first_distinct, others⟩ := List.forall_mem_cons.1 distinct
    rw [List.mapM_cons, List.mapM_cons, item_free first_distinct first, ih others]

theorem OrderFree.list {item : Decoder α} (item_free : OrderFree item) : OrderFree (list item) := by
  rintro _ _ distinct (_ | each | each | _)
  · rfl
  · cases distinct with | array items => exact item_free.each items each
  · cases distinct with | arrayOfTables tables => exact item_free.each tables each
  · rfl

theorem textOrTexts_orderFree : OrderFree textOrTexts := by
  rintro _ _ distinct (_ | each | each | _)
  · rfl
  · cases distinct with | array items => exact text_orderFree.each items each
  · cases distinct with | arrayOfTables tables => exact text_orderFree.each tables each
  · rfl

/-! ## Tables -/

section

variable {σ : Type} {step : σ → String × Toml → σ} {entries entries' : List (String × Toml)}

theorem foldl_of_perm
    (apart : ∀ {entry entry' : String × Toml}, entry.1 ≠ entry'.1 →
      ∀ parts, step (step parts entry) entry' = step (step parts entry') entry)
    (once : (entries.map (·.1)).Nodup) (perm : entries.Perm entries') (parts : σ) :
    entries.foldl step parts = entries'.foldl step parts := by
  apply perm.foldl_eq'
  intro entry mem entry' mem' parts
  by_cases same : entry.1 = entry'.1
  · rw [List.inj_on_of_nodup_map once mem mem' same]
  · exact apart same parts

theorem foldl_of_alike
    (alike : ∀ {key : String} {value value' : Toml}, value.Distinct → Rearranged value value' →
      ∀ parts, step parts (key, value) = step parts (key, value'))
    (values : ∀ entry ∈ entries, entry.2.Distinct)
    (keys : entries.map (·.1) = entries'.map (·.1))
    (each : List.Forall₂ Rearranged (entries.map (·.2)) (entries'.map (·.2))) (parts : σ) :
    entries.foldl step parts = entries'.foldl step parts := by
  rw [List.forall₂_map_left_iff, List.forall₂_map_right_iff] at each
  induction each generalizing parts with
  | nil => rfl
  | @cons entry entry' _ _ first _ ih =>
    obtain ⟨key, value⟩ := entry
    obtain ⟨key', value'⟩ := entry'
    obtain ⟨rfl, other_keys⟩ : key = key' ∧ _ := List.cons_eq_cons.1 keys
    obtain ⟨first_distinct, others⟩ := List.forall_mem_cons.1 values
    rw [List.foldl_cons, List.foldl_cons, alike first_distinct first]
    exact ih others other_keys _

theorem foldl_rearranged
    (apart : ∀ {entry entry' : String × Toml}, entry.1 ≠ entry'.1 →
      ∀ parts, step (step parts entry) entry' = step (step parts entry') entry)
    (alike : ∀ {key : String} {value value' : Toml}, value.Distinct → Rearranged value value' →
      ∀ parts, step parts (key, value) = step parts (key, value'))
    {kind : TableKind} (distinct : (Toml.table kind entries).Distinct)
    (rearranged : Rearranged (.table kind entries) (.table kind entries')) (parts : σ) :
    entries.foldl step parts = entries'.foldl step parts := by
  cases distinct with | table once values
  cases rearranged with
  | refl => rfl
  | table perm keys each =>
    rw [foldl_of_perm apart once perm]
    exact foldl_of_alike alike (fun entry mem => values entry (perm.mem_iff.2 mem)) keys each parts

end

section

variable {β : Type} (item : Decoder α) (add : β → String → α → β)

/-- Adds what an entry holds to what is built, if there is something built. -/
def addHeld (built : Option β) (entry : String × Toml) : Option β :=
  built.bind fun built => (item entry.2).toOption.map fun a => add built entry.1 a

theorem toOption_entries (kind : TableKind) (listed : List (String × Toml)) (start : Option β) :
    (start.bind fun start => (entries item (.table kind listed)).toOption.map
        (·.foldl (fun built entry => add built entry.1 entry.2) start)) =
      listed.foldl (addHeld item add) start := by
  have held : (entries item (.table kind listed)).toOption =
      listed.mapM fun entry => (item entry.2).toOption.map fun a => (entry.1, a) := by
    rw [entries, toOption_mapM]
    simp only [toOption_within, toOption_map]
  rw [held]
  clear held
  induction listed generalizing start with
  | nil => cases start <;> rfl
  | cons entry rest ih =>
    rw [List.foldl_cons, ← ih, List.mapM_cons]
    cases start with
    | none => rfl
    | some start =>
      simp only [addHeld, Option.bind_some]
      cases (item entry.2).toOption with
      | none => rfl
      | some a =>
        simp only [Option.map_some, Option.bind_some]
        cases rest.mapM fun entry => (item entry.2).toOption.map fun a => (entry.1, a) <;> rfl

variable {item add}

theorem addHeld_apart (apart : ∀ {key key' : String}, key ≠ key' → ∀ built a a',
      add (add built key a) key' a' = add (add built key' a') key a)
    {entry entry' : String × Toml} (other : entry.1 ≠ entry'.1) (built : Option β) :
    addHeld item add (addHeld item add built entry) entry' =
      addHeld item add (addHeld item add built entry') entry := by
  cases built with
  | none => rfl
  | some built =>
    simp only [addHeld, Option.bind_some]
    cases (item entry.2).toOption <;> cases (item entry'.2).toOption <;> simp [apart other]

theorem addHeld_alike (item_free : OrderFree item) {key : String} {value value' : Toml}
    (distinct : value.Distinct) (rearranged : Rearranged value value') (built : Option β) :
    addHeld item add built (key, value) = addHeld item add built (key, value') := by
  simp only [addHeld, item_free distinct rearranged]

theorem OrderFree.entries (item_free : OrderFree item)
    (apart : ∀ {key key' : String}, key ≠ key' → ∀ built a a',
      add (add built key a) key' a' = add (add built key' a') key a) (start : β) :
    OrderFree fun value => (entries item value).map
      (·.foldl (fun built entry => add built entry.1 entry.2) start) := by
  rintro _ _ distinct (_ | _ | _ | @⟨kind, listed, _, listed', perm, keys, each⟩)
  · rfl
  · rfl
  · rfl
  · have moved := foldl_rearranged (addHeld_apart apart) (addHeld_alike item_free) distinct
      (.table perm keys each) (some start)
    rw [toOption_map, toOption_map]
    exact (toOption_entries item add kind listed (some start)).trans
      (moved.trans (toOption_entries item add kind listed' (some start)).symm)

end

/-! ## Choices -/

theorem length_eq_of_rearranged {entries moved entries' : List (String × Toml)}
    (perm : entries.Perm moved) (keys : moved.map (·.1) = entries'.map (·.1)) :
    entries.length = entries'.length :=
  perm.length_eq.trans (by simpa using congrArg List.length keys)

theorem nothing_orderFree : OrderFree nothing := by
  rintro _ _ - (_ | each | each | @⟨_, entries, _, entries', perm, keys, -⟩)
  · rfl
  · cases each <;> rfl
  · cases each <;> rfl
  · have length_eq := length_eq_of_rearranged perm keys
    cases entries <;> cases entries' <;> first | rfl | contradiction

theorem toOption_choice (variants : List (String × α)) (kind : TableKind) (name : String)
    (value : Toml) : (choice variants (.table kind [(name, value)])).toOption =
      (variant? variants name).toOption.bind fun chosen =>
        (nothing value).toOption.bind fun _ => some chosen := by
  simp only [choice, toOption_bind, toOption_within]
  rfl

theorem choice_orderFree (variants : List (String × α)) : OrderFree (choice variants) := by
  rintro _ _ distinct (_ | _ | _ | @⟨kind, entries, moved, entries', perm, keys, each⟩)
  · rfl
  · rfl
  · rfl
  · have length_eq := length_eq_of_rearranged perm keys
    match entries, entries', length_eq with
    | [], [], _ => rfl
    | [(name, value)], [(name', value')], _ =>
      obtain rfl : moved = [(name, value)] := (List.singleton_perm.1 perm).symm
      obtain ⟨rfl, -⟩ : name = name' ∧ _ := List.cons_eq_cons.1 keys
      cases distinct with | table _ values
      cases each with | cons held _
      rw [toOption_choice, toOption_choice,
        nothing_orderFree (values _ (List.mem_singleton_self _)) held]
    | _ :: _ :: _, _ :: _ :: _, _ => rfl

end

end SourceIndex.Toml
