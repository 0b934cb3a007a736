import Mathlib.Data.List.Pairwise
import SourceIndex.Proofs.Toml.Rearranged

/-!
# Records

What a record is filled with does not depend on the order of the entries, nor on entries that name
none of its fields.
-/

namespace SourceIndex.Toml

variable {σ : Type}

/-! ## Fields -/

namespace Field

/-- Fills a field, if the others so far could be filled. -/
def fillOption (field : Field σ) (value : Toml) (parts : Option σ) : Option σ :=
  parts.bind fun parts => (field.fill value parts).toOption

/-- The fields may be filled in either order. -/
def Apart (field field' : Field σ) : Prop := ∀ value value' parts,
  field'.fillOption value' (field.fillOption value parts) =
    field.fillOption value (field'.fillOption value' parts)

instance : Std.Symm (@Apart σ) where
  symm _ _ apart value value' parts := (apart value' value parts).symm

/-- The field is filled alike by values in another order. -/
def OrderFree (field : Field σ) : Prop :=
  ∀ parts, Toml.OrderFree fun value => field.fill value parts

theorem fill_of_congr {β : Type} {decoder : Decoder β} {value value' : Toml}
    (alike : (decoder value).toOption = (decoder value').toOption) (name : String)
    (fill : σ → β → σ) (parts : σ) :
    ((of name decoder fill).fill value parts).toOption =
      ((of name decoder fill).fill value' parts).toOption := by
  simp only [of, toOption_map, alike]

theorem orderFree_of {β : Type} {decoder : Decoder β} (free : Toml.OrderFree decoder)
    (name : String) (fill : σ → β → σ) : (of name decoder fill).OrderFree := by
  intro parts value value' distinct rearranged
  exact fill_of_congr (free distinct rearranged) name fill parts

theorem apart_of {β γ : Type} {name name' : String} {decoder : Decoder β} {decoder' : Decoder γ}
    {fill : σ → β → σ} {fill' : σ → γ → σ}
    (apart : ∀ parts b c, fill' (fill parts b) c = fill (fill' parts c) b) :
    (of name decoder fill).Apart (of name' decoder' fill') := by
  rintro value value' (_ | parts)
  · rfl
  · simp only [fillOption, of, toOption_map, Option.bind_some]
    cases (decoder value).toOption <;> cases (decoder' value').toOption <;> simp [apart]

end Field

/-- Neither the order of entries nor that within their values matters to the fields. -/
structure FieldsOrderFree (fields : List (Field σ)) : Prop where
  apart : fields.Pairwise Field.Apart
  each : ∀ field ∈ fields, field.OrderFree

/-- Fills the field that an entry names, if it names one. -/
def fillNamed (fields : List (Field σ)) (parts : Option σ) (entry : String × Toml) : Option σ :=
  match fields.find? (·.name == entry.1) with
  | some field => field.fillOption entry.2 parts
  | none => parts

theorem toOption_fillEntries (fields : List (Field σ)) (entries : List (String × Toml))
    (parts : Option σ) : (parts.bind fun parts => (fillEntries fields entries parts).toOption) =
      entries.foldl (fillNamed fields) parts := by
  induction entries generalizing parts with
  | nil => cases parts <;> rfl
  | cons entry rest ih =>
    obtain ⟨name, value⟩ := entry
    rw [List.foldl_cons, ← ih]
    cases found : fields.find? (·.name == name) with
    | none => simp only [fillEntries, fillNamed, found]
    | some field =>
      simp only [fillEntries, fillNamed, found, toOption_bind, toOption_within, Field.fillOption,
        Option.bind_assoc]

theorem FieldsOrderFree.fillNamed_apart {fields : List (Field σ)} (free : FieldsOrderFree fields)
    {entry entry' : String × Toml} (other : entry.1 ≠ entry'.1) (parts : Option σ) :
    fillNamed fields (fillNamed fields parts entry) entry' =
      fillNamed fields (fillNamed fields parts entry') entry := by
  simp only [fillNamed]
  cases found : fields.find? (·.name == entry.1) with
  | none => rfl
  | some field =>
    cases found' : fields.find? (·.name == entry'.1) with
    | none => rfl
    | some field' =>
      have name_eq : field.name = entry.1 := by simpa using List.find?_some found
      have name_eq' : field'.name = entry'.1 := by simpa using List.find?_some found'
      have different : field ≠ field' := by
        rintro rfl
        exact other (name_eq.symm.trans name_eq')
      exact free.apart.forall (List.mem_of_find?_eq_some found)
        (List.mem_of_find?_eq_some found') different entry.2 entry'.2 parts

theorem FieldsOrderFree.fillNamed_alike {fields : List (Field σ)} (free : FieldsOrderFree fields)
    {name : String} {value value' : Toml} (distinct : value.Distinct)
    (rearranged : Rearranged value value') (parts : Option σ) :
    fillNamed fields parts (name, value) = fillNamed fields parts (name, value') := by
  simp only [fillNamed]
  cases found : fields.find? (·.name == name) with
  | none => rfl
  | some field =>
    have field_free := free.each field (List.mem_of_find?_eq_some found)
    exact Option.bind_congr fun parts _ => field_free parts distinct rearranged

theorem FieldsOrderFree.fillEntries {fields : List (Field σ)} (free : FieldsOrderFree fields)
    {kind : TableKind} {entries entries' : List (String × Toml)}
    (distinct : (Toml.table kind entries).Distinct)
    (rearranged : Rearranged (.table kind entries) (.table kind entries')) (parts : σ) :
    (fillEntries fields entries parts).toOption = (fillEntries fields entries' parts).toOption := by
  have moved := foldl_rearranged free.fillNamed_apart free.fillNamed_alike distinct rearranged
    (some parts)
  exact (toOption_fillEntries fields entries (some parts)).trans
    (moved.trans (toOption_fillEntries fields entries' (some parts)).symm)

theorem fillItems_orderFree {fields : List (Field σ)} (each : ∀ field ∈ fields, field.OrderFree)
    {items items' : List Toml} (distinct : ∀ item ∈ items, item.Distinct)
    (rearranged : List.Forall₂ Rearranged items items') (index : Nat) (parts : σ) :
    (fillItems index fields items parts).toOption =
      (fillItems index fields items' parts).toOption := by
  induction rearranged generalizing fields index parts with
  | nil => rfl
  | cons first _ ih =>
    cases fields with
    | nil => rfl
    | cons field fields =>
      obtain ⟨first_distinct, others⟩ := List.forall_mem_cons.1 distinct
      obtain ⟨field_free, others_free⟩ := List.forall_mem_cons.1 each
      simp only [fillItems, toOption_bind, toOption_within]
      rw [field_free parts first_distinct first]
      exact Option.bind_congr fun parts _ => ih others_free others (index + 1) parts

theorem FieldsOrderFree.record {fields : List (Field σ)} (free : FieldsOrderFree fields)
    (wanted : String) (start : σ) : Toml.OrderFree (record wanted fields start) := by
  rintro _ _ distinct (_ | each | each | ⟨perm, keys, each⟩)
  · rfl
  · cases distinct with | array items => exact fillItems_orderFree free.each items each 0 start
  · cases distinct with
    | arrayOfTables tables => exact fillItems_orderFree free.each tables each 0 start
  · exact free.fillEntries distinct (.table perm keys each) start

/-! ## Other entries -/

/-- An entry is added that names none of the fields. -/
inductive Extends (fields : List (Field σ)) : List (String × Toml) → List (String × Toml) → Prop
  | add (front back : List (String × Toml)) {name : String} (value : Toml)
    (unknown : ∀ field ∈ fields, field.name ≠ name) :
    Extends fields (front ++ back) (front ++ (name, value) :: back)

theorem Extends.fillEntries_eq {fields : List (Field σ)} {entries entries' : List (String × Toml)}
    (extended : Extends fields entries entries') (parts : σ) :
    fillEntries fields entries parts = fillEntries fields entries' parts := by
  obtain ⟨front, back, value, unknown⟩ := extended
  induction front generalizing parts with
  | nil =>
    have not_found : fields.find? (·.name == _) = none :=
      List.find?_eq_none.2 fun field mem => by simpa using unknown field mem
    simp only [List.nil_append, fillEntries, not_found]
  | cons entry front ih =>
    obtain ⟨name, value⟩ := entry
    simp only [List.cons_append, fillEntries, ih]

theorem toOption_fillEntries_congr {fields : List (Field σ)} {field : Field σ} {name : String}
    {value value' : Toml} (found : fields.find? (·.name == name) = some field)
    (alike : ∀ parts, (field.fill value parts).toOption = (field.fill value' parts).toOption)
    (front back : List (String × Toml)) (parts : σ) :
    (fillEntries fields (front ++ (name, value) :: back) parts).toOption =
      (fillEntries fields (front ++ (name, value') :: back) parts).toOption := by
  have entry_alike (parts : Option σ) :
      fillNamed fields parts (name, value) = fillNamed fields parts (name, value') := by
    simp only [fillNamed, found]
    exact Option.bind_congr fun parts _ => alike parts
  have filled := toOption_fillEntries fields (front ++ (name, value) :: back) (some parts)
  have filled' := toOption_fillEntries fields (front ++ (name, value') :: back) (some parts)
  rw [List.foldl_append, List.foldl_cons] at filled filled'
  rw [entry_alike] at filled
  exact filled.trans filled'.symm

end SourceIndex.Toml
