import SourceIndex.Json.Decode

/-!
# The fields of a record

A field of a record that was read is what one place of its tree holds: the first member of that
name, or the item at that place of an array. No other place has a say in it.
-/

namespace SourceIndex.Json

variable {ε σ α β γ : Type}

theorem bind_eq_ok {result : Except ε α} {next : α → Except ε β} {b : β}
    (done : result >>= next = .ok b) : ∃ a, result = .ok a ∧ next a = .ok b := by
  cases result with
  | error fault => cases done
  | ok a => exact ⟨a, rfl, done⟩

/-! ## Places -/

/-- Whether this is the key of a member called `name`. -/
def isNamed (name : String) : Json → Bool
  | .string (some text) => text == name
  | _ => false

/-- What stands where a field is read from. -/
def field? (name : String) (place : Nat) : Json → Option Json
  | .object members _ => (members.find? fun member => member.1.isNamed name).map (·.2)
  | .array items _ => items[place]?
  | _ => none

/-- The parts that a record is put together from. -/
def Fills (shape : Shape σ α) : Json → σ → Prop
  | .object members _, parts => fillMembers shape members shape.start = .ok parts
  | .array items closed, parts => ∃ ends,
    fillItems shape.wantedFull 0 closed shape.fields items shape.start = .ok (parts, ends)
  | _, _ => False

theorem exists_fills {shape : Shape σ α} {json : Json} {value : α}
    (read : record shape json = .ok value) :
    ∃ parts, Fills shape json parts ∧ shape.finish parts = .ok value := by
  cases json with
  | object members closed =>
    obtain ⟨parts, filled, done⟩ := bind_eq_ok read
    cases closed with
    | true => exact ⟨parts, filled, done⟩
    | false => cases done
  | array items closed =>
    obtain ⟨⟨parts, ends⟩, filled, done⟩ := bind_eq_ok read
    obtain ⟨value', finished, done⟩ := bind_eq_ok done
    cases ends with
    | true =>
      cases done
      exact ⟨parts, ⟨_, filled⟩, finished⟩
    | false => cases done
  | string text => cases text <;> cases read
  | number number => cases number <;> cases read
  | _ => cases read

theorem decode_eq_ok_iff {decoder : Decoder α} {text : String} {value : α} :
    decode decoder text = .ok value ↔
      decoder (read text).root = .ok value ∧ (read text).alone = true := by
  rw [decode]
  cases decoder (read text).root <;> cases (read text).alone <;> simp

/-! ## One field -/

/-- A field that never touches this part. -/
def Field.Spares (part : σ → Option β) (field : Field σ) : Prop :=
  ∀ json parts next, field.fill json parts = .ok next → part next = part parts

theorem Field.fill_of {name : String} {decoder : Decoder γ} {other : σ → Option γ}
    {fill : σ → γ → σ} {json : Json} {parts next : σ}
    (filled : (Field.of name decoder other fill).fill json parts = .ok next) :
    ∃ c, decoder json = .ok c ∧ next = fill parts c := by
  cases read : decoder json with
  | error fault => simp [Field.of, read, Except.map] at filled
  | ok c => exact ⟨c, rfl, by simpa [Field.of, read, Except.map] using filled.symm⟩

theorem Field.spares_of {name : String} {decoder : Decoder γ} {other : σ → Option γ}
    {fill : σ → γ → σ} {part : σ → Option β} (kept : ∀ parts c, part (fill parts c) = part parts) :
    (Field.of name decoder other fill).Spares part := by
  intro json parts next filled
  obtain ⟨c, -, rfl⟩ := fill_of filled
  exact kept parts c

/-- Only one field of the record, the one at `place`, fills this part. -/
structure Shape.Keeps (shape : Shape σ α) (name : String) (place : Nat) (decoder : Decoder β)
    (part : σ → Option β) (fill : σ → β → σ) : Prop where
  fresh : part shape.start = none
  filled : ∀ parts b, part (fill parts b) = some b
  own : shape.fields[place]? = some (.of name decoder part fill)
  named : shape.fields.find? (·.name == name) = some (.of name decoder part fill)
  /-- The others in front of it and behind it. -/
  apart : ∀ i field, i ≠ place → shape.fields[i]? = some field →
    field.name ≠ name ∧ field.Spares part

section

variable {shape : Shape σ α} {name : String} {place : Nat} {decoder : Decoder β}
  {part : σ → Option β} {fill : σ → β → σ} {parts next : σ} {b : β}

/-! ## Members -/

theorem fillMembers_cons_cases {key value : Json} {members : List (Json × Json)}
    (done : fillMembers shape ((key, value) :: members) parts = .ok next) :
    ∃ text, key = .string (some text) ∧
      ((∃ field between, shape.fields.find? (·.name == text) = some field ∧
          field.isFilled parts = false ∧ field.fill value parts = .ok between ∧
          fillMembers shape members between = .ok next) ∨
        shape.fields.find? (·.name == text) = none ∧
          fillMembers shape members parts = .ok next) := by
  obtain ⟨text, keyed, done⟩ := bind_eq_ok done
  have is_text : key = .string (some text) := by
    cases key with
    | string read =>
      cases read with
      | none => cases keyed
      | some read => exact congrArg (fun name => Json.string (some name)) (Except.ok.inj keyed)
    | _ => cases keyed
  refine ⟨text, is_text, ?_⟩
  cases found : shape.fields.find? (·.name == text) with
  | none =>
    refine .inr ⟨rfl, ?_⟩
    simp only [found] at done
    split at done
    · cases done
    · split at done
      · exact done
      · cases done
  | some field =>
    simp only [found] at done
    cases fresh : field.isFilled parts with
    | true => simp [fresh] at done
    | false =>
      simp only [fresh] at done
      obtain ⟨between, filled, done⟩ := bind_eq_ok done
      exact .inl ⟨field, between, rfl, fresh, filled, done⟩

namespace Shape.Keeps

variable (keeps : shape.Keeps name place decoder part fill)
include keeps

theorem spares {field : Field σ} {text : String} (other : text ≠ name)
    (found : shape.fields.find? (·.name == text) = some field) : field.Spares part := by
  obtain ⟨i, at_place⟩ := List.mem_iff_getElem?.1 (List.mem_of_find?_eq_some found)
  refine (keeps.apart i field ?_ at_place).2
  rintro rfl
  have own : field = .of name decoder part fill := Option.some.inj (at_place.symm.trans keeps.own)
  have called : field.name = text := by simpa using List.find?_some found
  exact other (called.symm.trans (own ▸ rfl))

theorem kept_of_fillMembers {members : List (Json × Json)} (full : part parts = some b)
    (done : fillMembers shape members parts = .ok next) : part next = some b := by
  induction members generalizing parts with
  | nil =>
    obtain rfl := Except.ok.inj done
    exact full
  | cons member members ih =>
    obtain ⟨text, -, ⟨field, between, found, fresh, filled, done⟩ | ⟨-, done⟩⟩ :=
      fillMembers_cons_cases done
    · refine ih ?_ done
      by_cases own : text = name
      · rw [own, keeps.named] at found
        obtain rfl := Option.some.inj found
        simp [Field.of, full] at fresh
      · rw [keeps.spares own found _ _ _ filled, full]
    · exact ih full done

theorem member_of_fillMembers {members : List (Json × Json)} (fresh : part parts = none)
    (done : fillMembers shape members parts = .ok next) (full : part next = some b) :
    ∃ member, members.find? (fun member => member.1.isNamed name) = some member ∧
      decoder member.2 = .ok b := by
  induction members generalizing parts with
  | nil =>
    obtain rfl := Except.ok.inj done
    rw [fresh] at full
    cases full
  | cons member members ih =>
    obtain ⟨text, is_text, step⟩ := fillMembers_cons_cases done
    have called : member.1.isNamed name = (text == name) := by rw [is_text, isNamed]
    rw [List.find?_cons, called]
    by_cases own : text = name
    · rw [own, keeps.named] at step
      obtain ⟨field, between, found, -, filled, done⟩ | ⟨none_found, -⟩ := step
      · obtain rfl := Option.some.inj found
        obtain ⟨c, read, rfl⟩ := Field.fill_of filled
        have same := keeps.kept_of_fillMembers (keeps.filled parts c) done
        obtain rfl := Option.some.inj (same.symm.trans full)
        exact ⟨member, by simp [own], read⟩
      · cases none_found
    · have other : (text == name) = false := by simpa using own
      rw [other]
      obtain ⟨field, between, found, -, filled, done⟩ | ⟨-, done⟩ := step
      · exact ih ((keeps.spares own found _ _ _ filled).trans fresh) done
      · exact ih fresh done

/-! ## Items -/

omit keeps in
theorem kept_of_fillItems {wanted : String} {count : Nat} {closed ends : Bool}
    {fields : List (Field σ)} {items : List Json}
    (spare : ∀ field ∈ fields, field.Spares part)
    (done : fillItems wanted count closed fields items parts = .ok (next, ends)) :
    part next = part parts := by
  induction fields generalizing count items parts with
  | nil =>
    obtain ⟨rfl, -⟩ := Prod.mk.inj (Except.ok.inj done)
    rfl
  | cons field fields ih =>
    obtain ⟨spares, rest⟩ := List.forall_mem_cons.1 spare
    cases items with
    | nil => cases closed <;> cases done
    | cons item items =>
      obtain ⟨between, filled, done⟩ := bind_eq_ok done
      rw [ih rest done, spares _ _ _ filled]

omit keeps in
theorem item_of_fillItems {wanted : String} {count : Nat} {closed ends : Bool}
    {before behind : List (Field σ)} {items : List Json}
    (spare : ∀ field ∈ before ++ behind, field.Spares part)
    (filled : ∀ parts b, part (fill parts b) = some b)
    (done : fillItems wanted count closed (before ++ .of name decoder part fill :: behind) items
      parts = .ok (next, ends)) :
    ∃ item b, items[before.length]? = some item ∧ decoder item = .ok b ∧ part next = some b := by
  induction before generalizing count items parts with
  | nil =>
    cases items with
    | nil => cases closed <;> cases done
    | cons item items =>
      obtain ⟨between, taken, done⟩ := bind_eq_ok done
      obtain ⟨b, read, rfl⟩ := Field.fill_of taken
      exact ⟨item, b, rfl, read, (kept_of_fillItems spare done).trans (filled parts b)⟩
  | cons field before ih =>
    cases items with
    | nil => cases closed <;> cases done
    | cons item items =>
      obtain ⟨between, -, done⟩ := bind_eq_ok done
      exact ih (List.forall_mem_cons.1 spare).2 done

/-! ## Records -/

theorem read_from {json : Json} (fills : Fills shape json parts) (full : part parts = some b) :
    ∃ own, json.field? name place = some own ∧ decoder own = .ok b := by
  cases json with
  | object members closed =>
    obtain ⟨member, found, read⟩ := keeps.member_of_fillMembers keeps.fresh fills full
    exact ⟨member.2, by simp [field?, found], read⟩
  | array items closed =>
    obtain ⟨ends, done⟩ := fills
    obtain ⟨in_range, here⟩ := List.getElem?_eq_some_iff.1 keeps.own
    have spare : ∀ field ∈ shape.fields.take place ++ shape.fields.drop (place + 1),
        field.Spares part := by
      intro field member
      obtain ⟨i, other, found⟩ : ∃ i, i ≠ place ∧ shape.fields[i]? = some field := by
        rcases List.mem_append.1 member with front | back
        · obtain ⟨i, found⟩ := List.mem_iff_getElem?.1 front
          obtain ⟨small, -⟩ := List.getElem?_eq_some_iff.1 found
          have below : i < place := by simp at small; omega
          exact ⟨i, by omega, by rwa [List.getElem?_take_of_lt below] at found⟩
        · obtain ⟨i, found⟩ := List.mem_iff_getElem?.1 back
          exact ⟨place + 1 + i, by omega, by rwa [List.getElem?_drop] at found⟩
      exact (keeps.apart i field other found).2
    have split : shape.fields = shape.fields.take place ++
        .of name decoder part fill :: shape.fields.drop (place + 1) := by
      rw [← here, List.getElem_cons_drop, List.take_append_drop]
    rw [split] at done
    obtain ⟨item, c, found, read, same⟩ := item_of_fillItems spare keeps.filled done
    obtain rfl := Option.some.inj (same.symm.trans full)
    rw [List.length_take, Nat.min_eq_left (Nat.le_of_lt in_range)] at found
    exact ⟨item, found, read⟩
  | _ => exact fills.elim

end Shape.Keeps

end

end SourceIndex.Json
