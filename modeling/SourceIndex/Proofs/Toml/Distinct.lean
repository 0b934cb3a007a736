import SourceIndex.Toml.Reading

/-!
# Keys of tables

A table that is read has no key twice. What is put together never gives a table a second entry for
a key that it has, whether by an entry, by a key with dots, or by a header.
-/

namespace SourceIndex.Toml

/-- No table in the value has a key twice. -/
inductive Distinct : Toml → Prop
  | string (text : String) : Distinct (.string text)
  | integer (value : Int) : Distinct (.integer value)
  | float (value : Float64) : Distinct (.float value)
  | boolean (value : Bool) : Distinct (.boolean value)
  | date (shown : String) : Distinct (.date shown)
  | array {items : List Toml} (each : ∀ item ∈ items, Distinct item) : Distinct (.array items)
  | arrayOfTables {tables : List Toml} (each : ∀ table ∈ tables, Distinct table) :
    Distinct (.arrayOfTables tables)
  | table {kind : TableKind} {entries : List (String × Toml)} (keys : (entries.map (·.1)).Nodup)
    (each : ∀ entry ∈ entries, Distinct entry.2) : Distinct (.table kind entries)

namespace Distinct

variable {kind : TableKind} {entries : List (String × Toml)}

theorem nil : Distinct (.table kind []) := .table .nil (List.forall_mem_nil _)

theorem cons {entry : String × Toml} (fresh : entry.1 ∉ entries.map (·.1))
    (distinct : entry.2.Distinct) (rest : Distinct (.table kind entries)) :
    Distinct (.table kind (entry :: entries)) := by
  cases rest with
  | table keys each =>
    exact .table (List.nodup_cons.2 ⟨fresh, keys⟩) (List.forall_mem_cons.2 ⟨distinct, each⟩)

end Distinct

/-! ## What a reader yields -/

section

variable {ε ε' α β : Type} {P : α → Prop} {Q : β → Prop}

/-- What is read has the property. -/
def Yields (P : α → Prop) : Except ε α → Prop
  | .ok a => P a
  | .error _ => True

theorem Yields.any (reading : Except ε α) : Yields (fun _ => True) reading := by
  cases reading <;> trivial

theorem Yields.of_ok {reading : Except ε α} {a : α} (yields : Yields P reading)
    (read : reading = .ok a) : P a := by
  subst read
  exact yields

theorem Yields.map {reading : Except ε α} {f : α → β} (yields : Yields P reading)
    (after : ∀ a, P a → Q (f a)) : Yields Q (reading.map f) := by
  cases reading with
  | error => trivial
  | ok a => exact after a yields

theorem Yields.mapError {reading : Except ε α} {f : ε → ε'} (yields : Yields P reading) :
    Yields P (reading.mapError f) := by
  cases reading with
  | error => trivial
  | ok => exact yields

theorem Yields.bind {reading : Except ε α} {next : α → Except ε β} (yields : Yields P reading)
    (after : ∀ a, P a → Yields Q (next a)) : Yields Q (reading >>= next) := by
  cases reading with
  | error => trivial
  | ok a => exact after a yields

theorem Yields.otherwise {reading : Except Stop α} {other : Unit → Except Stop α}
    (yields : Yields P reading) (yields' : Yields P (other ())) :
    Yields P (otherwise reading other) := by
  unfold Toml.otherwise
  cases reading with
  | error stop =>
    dsimp only
    split
    · trivial
    · exact yields'
  | ok => exact yields

theorem Yields.foldlM {step : β → α → Except ε β} {items : List α} {b : β} (start : Q b)
    (each : ∀ a ∈ items, ∀ b, Q b → Yields Q (step b a)) : Yields Q (items.foldlM step b) := by
  induction items generalizing b with
  | nil => exact start
  | cons a items ih =>
    obtain ⟨first, others⟩ := List.forall_mem_cons.1 each
    exact (first b start).bind fun _ kept => ih kept others

end

/-- The value that is read has no key twice. -/
abbrev ReadsDistinct (reading : Except Stop (Toml × Place)) : Prop :=
  Yields (fun read => read.1.Distinct) reading

/-! ## Plain values -/

theorem ofWhole_distinct (place : Place) (value : Int) : Yields Distinct (ofWhole place value) := by
  unfold ofWhole
  split
  · trivial
  · split
    · trivial
    · exact .integer value

theorem readInBase_distinct (name : String) (base : Nat) (isDigit : Char → Bool) (input : Place) :
    ReadsDistinct (readInBase name base isDigit input) :=
  (Yields.any _).bind fun _ _ => (ofWhole_distinct _ _).bind fun _ distinct => distinct

theorem readWhole_distinct (input : Place) : ReadsDistinct (readWhole input) := by
  unfold readWhole
  split
  · exact (readInBase_distinct _ _ _ _).mapError
  · exact (readInBase_distinct _ _ _ _).mapError
  · exact (readInBase_distinct _ _ _ _).mapError
  · refine (Yields.any _).bind fun _ _ => ?_
    exact (ofWhole_distinct _ _).mapError.bind fun _ distinct => distinct

theorem ofSize?_distinct {negative : Bool} {size : Option Binary64} {value : Toml}
    (known : ofSize? negative size = some value) : value.Distinct := by
  unfold ofSize? at known
  split at known
  · exact Option.some_inj.1 known ▸ .float _
  · split at known
    · exact Option.some_inj.1 known ▸ .float _
    · contradiction

theorem readFinite_distinct (input : Place) : ReadsDistinct (readFinite input) := by
  refine (Yields.any _).bind fun (whole, _) _ => (Yields.any _).bind fun (behind, _) _ =>
    (Yields.any _).bind fun (exponent, _) _ => ?_
  dsimp only
  split
  · trivial
  · split
    next known => exact ofSize?_distinct known
    · trivial

theorem readSpecial_distinct (input : Place) : ReadsDistinct (readSpecial input) := by
  unfold readSpecial
  dsimp only
  split
  · exact .float _
  · exact .float _
  · trivial

theorem readWord_distinct (input : Place) : ReadsDistinct (readWord input) := by
  unfold readWord
  split
  · exact .boolean _
  · exact .boolean _
  · trivial
  · trivial
  · exact readSpecial_distinct _

theorem readFloat_distinct (input : Place) : ReadsDistinct (readFloat input) :=
  ((readFinite_distinct input).otherwise (readSpecial_distinct input)).mapError

theorem readDate_distinct (input : Place) : ReadsDistinct (readDate input) :=
  (Yields.any _).map fun (shown, _) _ => .date shown

theorem readScalar_distinct (input : Place) : ReadsDistinct (readScalar input) := by
  unfold readScalar
  split
  · trivial
  · split
    · exact (Yields.any _).map fun (text, _) _ => .string text
    · split
      · apply (readDate_distinct _).otherwise
        exact (readFloat_distinct _).otherwise (readWhole_distinct _)
      · split
        · exact (readWhole_distinct _).mapError
        · split
          · exact (readFloat_distinct _).mapError
          · exact (readWord_distinct _).mapError.mapError

/-! ## Tables that are put together -/

/-- No value of an entry has a key twice. -/
def ValuesDistinct (entries : List Entry) : Prop := ∀ entry ∈ entries, entry.value.value.Distinct

/-- No table in the node has a key twice. -/
inductive Node.Distinct : Node → Prop
  | value {located : Located} (distinct : located.value.Distinct) : Node.Distinct (.value located)
  | table {opening : Opening} {span : Option Span} {entries : List (Key × Node)}
    (keys : (entries.map (·.1.name)).Nodup) (each : ∀ entry ∈ entries, Node.Distinct entry.2) :
    Node.Distinct (.table opening span entries)
  | tables {items : List Node} (each : ∀ item ∈ items, Node.Distinct item) :
    Node.Distinct (.tables items)

theorem entriesToToml_eq (kind : TableKind) (entries : List (Key × Node)) :
    entriesToToml kind entries = entries.map fun entry => (entry.1.name, entry.2.toToml kind) := by
  induction entries with
  | nil => rw [entriesToToml, List.map_nil]
  | cons entry rest ih => rw [entriesToToml, ih, List.map_cons]

theorem itemsToToml_eq (kind : TableKind) (items : List Node) :
    itemsToToml kind items = items.map (·.toToml kind) := by
  induction items with
  | nil => rw [itemsToToml, List.map_nil]
  | cons item rest ih => rw [itemsToToml, ih, List.map_cons]

theorem Node.Distinct.toToml {node : Node} (distinct : node.Distinct) (kind : TableKind) :
    (node.toToml kind).Distinct := by
  induction distinct with
  | value distinct => rwa [Node.toToml]
  | table keys _ ih =>
    rw [Node.toToml, entriesToToml_eq]
    exact .table (by rwa [List.map_map]) (List.forall_mem_map.2 ih)
  | tables _ ih =>
    rw [Node.toToml, itemsToToml_eq]
    exact .arrayOfTables (List.forall_mem_map.2 ih)

namespace Draft

/-- No table in the draft has a key twice, itself included. -/
structure Distinct (draft : Draft) : Prop where
  keys : (draft.entries.map (·.1.name)).Nodup
  each : ∀ entry ∈ draft.entries, entry.2.Distinct

theorem Distinct.node {draft : Draft} (distinct : draft.Distinct) : draft.node.Distinct :=
  .table distinct.keys distinct.each

theorem distinct_empty (opening : Opening) (span : Option Span) : Distinct ⟨opening, span, []⟩ :=
  ⟨.nil, fun _ mem => nomatch mem⟩

variable {draft : Draft} {key : Key} {node : Node}

theorem find?_eq_none_iff : draft.find? key = none ↔ key.name ∉ draft.entries.map (·.1.name) := by
  simp [find?]

theorem Distinct.found (distinct : draft.Distinct) (found : draft.find? key = some node) :
    node.Distinct := by
  obtain ⟨entry, present, rfl⟩ := Option.map_eq_some_iff.1 found
  exact distinct.each entry (List.mem_of_find?_eq_some present)

theorem Distinct.append (distinct : draft.Distinct) (fresh : draft.find? key = none)
    (node_distinct : node.Distinct) : (draft.append key node).Distinct := by
  constructor
  · simp only [Draft.append, List.map_append, List.map_cons, List.map_nil]
    refine List.nodup_append.2 ⟨distinct.keys, by simp, ?_⟩
    rintro name mem _ (_ | ⟨_, ⟨⟩⟩) rfl
    exact find?_eq_none_iff.1 fresh mem
  · simp only [Draft.append, List.forall_mem_append, List.forall_mem_singleton]
    exact ⟨distinct.each, node_distinct⟩

theorem Distinct.erase (distinct : draft.Distinct) (key : Key) : (draft.erase key).Distinct :=
  ⟨distinct.keys.sublist (List.filter_sublist.map _),
    fun entry mem => distinct.each entry (List.mem_filter.1 mem).1⟩

theorem find?_erase (draft : Draft) (key : Key) : (draft.erase key).find? key = none := by
  simp [find?_eq_none_iff, erase]

theorem Distinct.replace (distinct : draft.Distinct) (key : Key) (node_distinct : node.Distinct) :
    (draft.replace key node).Distinct := by
  constructor
  · have keys_eq : (draft.replace key node).entries.map (·.1.name) =
        draft.entries.map (·.1.name) := by
      simp only [Draft.replace, List.map_map]
      refine List.map_congr_left fun entry _ => ?_
      rw [Function.comp_apply]
      split <;> rfl
    exact keys_eq ▸ distinct.keys
  · refine List.forall_mem_map.2 fun entry mem => ?_
    split
    · exact node_distinct
    · exact distinct.each entry mem

theorem step_distinct (distinct : draft.Distinct) (home : Home) (dotted : Bool)
    (walked : List String) :
    Yields (fun (next, putBack) => next.Distinct ∧
        ∀ changed, changed.Distinct → (putBack changed).Distinct)
      (draft.step home dotted walked key) := by
  unfold step
  split
  next fresh =>
    exact ⟨distinct_empty _ _, fun _ changed => distinct.append fresh changed.node⟩
  · trivial
  next items found =>
    cases distinct.found found with | tables each
    split
    next opening span entries last =>
      cases each _ (List.mem_of_getLast? last) with | table keys each_entry
      refine ⟨⟨keys, each_entry⟩, fun changed changed_distinct => distinct.replace key (.tables ?_)⟩
      simp only [List.forall_mem_append, List.forall_mem_singleton]
      exact ⟨fun item mem => each item (List.dropLast_subset items mem), changed_distinct.node⟩
    · trivial
  next opening span entries found =>
    split
    · trivial
    · cases distinct.found found with | table keys each
      exact ⟨⟨keys, each⟩, fun _ changed => distinct.replace key changed.node⟩

theorem changeAt_distinct {ε : Type} (home : Home) (dotted : Bool) (refuse : Refusal → ε)
    {change : Draft → Except ε Draft}
    (keeps : ∀ draft : Draft, draft.Distinct → Yields Distinct (change draft))
    (walked : List String) (path : List Key) (distinct : draft.Distinct) :
    Yields Distinct (changeAt home dotted refuse change walked path draft) := by
  induction path generalizing walked draft with
  | nil => exact keeps draft distinct
  | cons key path ih =>
    refine (step_distinct distinct home dotted walked).mapError.bind fun (next, putBack) ready => ?_
    exact (ih _ ready.1).bind fun changed changed_distinct => ready.2 changed changed_distinct

theorem write_distinct (home : Home) (isLong : Bool) (key : Key) {value : Located}
    (value_distinct : value.value.Distinct) (draft : Draft) (distinct : draft.Distinct) :
    Yields Distinct (write home isLong key value draft) := by
  unfold write
  split
  · trivial
  · split
    · trivial
    next fresh =>
      exact distinct.append (by simpa using fresh) (.value value_distinct)

theorem addEntry_distinct (home : Home) (distinct : draft.Distinct) {entry : Entry}
    (value_distinct : entry.value.value.Distinct) :
    Yields Distinct (draft.addEntry home entry) := by
  unfold addEntry
  split
  · exact distinct
  next key _ =>
    exact changeAt_distinct _ _ _ (write_distinct home _ key value_distinct) _ _ distinct

theorem openTable_distinct (span : Span) (way : List Key) (key : Key) (parent : Draft)
    (distinct : parent.Distinct) : Yields Distinct (openTable span way key parent) := by
  unfold openTable
  split
  next fresh => exact distinct.append fresh (distinct_empty _ _).node
  next opening _ present found =>
    split
    · cases distinct.found found with | table keys each
      exact (distinct.erase key).append (find?_erase parent key) (.table keys each)
    · trivial
  · trivial

theorem openItem_distinct (span : Span) (way : List Key) (key : Key) (parent : Draft)
    (distinct : parent.Distinct) : Yields Distinct (openItem span way key parent) := by
  have item_distinct : (named span []).node.Distinct := (distinct_empty _ _).node
  unfold openItem
  split
  next fresh => exact distinct.append fresh (.tables (List.forall_mem_singleton.2 item_distinct))
  next items found =>
    cases distinct.found found with | tables each
    refine distinct.replace key (.tables ?_)
    simp only [List.forall_mem_append, List.forall_mem_singleton]
    exact ⟨each, item_distinct⟩
  · trivial

theorem addEntries_distinct (home : Home) (distinct : draft.Distinct) {entries : List Entry}
    (values : ValuesDistinct entries) : Yields Distinct (draft.addEntries home entries) := by
  apply Yields.foldlM distinct
  intro entry mem draft kept
  exact (addEntry_distinct home kept (values entry mem)).mapError

end Draft

theorem inlineTable_distinct (span : Span) {entries : List Entry} (values : ValuesDistinct entries) :
    Yields (fun located => located.value.Distinct) (inlineTable span entries) := by
  apply (Draft.addEntries_distinct .inline (Draft.distinct_empty _ _) values).bind
  intro draft distinct
  exact distinct.node.toToml .inline

namespace Section

variable {root : Draft}

theorem enter_distinct (part : Section) (distinct : root.Distinct) :
    Yields Draft.Distinct (part.enter root) := by
  unfold enter
  split
  · exact distinct
  · refine Draft.changeAt_distinct _ _ _ (fun draft draft_distinct => ?_) _ _ distinct
    split
    · exact Draft.openItem_distinct _ _ _ draft draft_distinct
    · exact Draft.openTable_distinct _ _ _ draft draft_distinct

theorem addTo_distinct {part : Section} (values : ValuesDistinct part.entries)
    (distinct : root.Distinct) : Yields Draft.Distinct (part.addTo root) := by
  apply (part.enter_distinct distinct).mapError.mapError.bind
  intro root entered
  apply Draft.changeAt_distinct _ _ _ _ _ _ entered
  intro draft draft_distinct
  exact Draft.addEntries_distinct _ draft_distinct values

end Section

theorem documentDraft_distinct {entries : List Entry} {parts : List Section}
    (values : ValuesDistinct entries) (part_values : ∀ part ∈ parts, ValuesDistinct part.entries) :
    Yields Draft.Distinct (documentDraft entries parts) := by
  apply (Draft.addEntries_distinct _ (Draft.distinct_empty _ _) values).bind
  intro root distinct
  apply Yields.foldlM distinct
  intro part mem root kept
  exact Section.addTo_distinct (part_values part mem) kept

/-! ## Documents -/

section

variable {fuel : Nat}

theorem readValue_distinct_of
    (items : ∀ depth input,
      Yields (fun read => ∀ item ∈ read.1, item.value.Distinct) (readItems fuel depth input))
    (entries : ∀ depth front back input,
      Yields (fun read => ValuesDistinct read.1) (readEntries fuel depth front back input))
    (depth : Nat) (input : Place) :
    Yields (fun read => read.1.value.Distinct) (readValue (fuel + 1) depth input) := by
  unfold readValue
  split
  · contradiction
  next rest same =>
    cases same
    refine Yields.mapError ?_
    split
    · trivial
    · refine (items _ _).bind fun _ distinct => ?_
      exact .array (List.forall_mem_map.2 distinct)
  next rest same =>
    cases same
    refine Yields.mapError ?_
    split
    · trivial
    · refine (entries _ _ _ _).bind fun _ values => ?_
      exact (inlineTable_distinct _ values).bind fun _ distinct => distinct
  · exact (readScalar_distinct _).bind fun _ distinct => distinct

theorem readItems_distinct_of
    (value : ∀ depth input, Yields (fun read => read.1.value.Distinct) (readValue fuel depth input))
    (items : ∀ depth input,
      Yields (fun read => ∀ item ∈ read.1, item.value.Distinct) (readItems fuel depth input))
    (depth : Nat) (input : Place) :
    Yields (fun read => ∀ item ∈ read.1, item.value.Distinct)
      (readItems (fuel + 1) depth input) := by
  rw [readItems]
  split
  · split
    · trivial
    · exact (Yields.any _).map fun _ _ => List.forall_mem_nil _
  next item rest read =>
    have item_distinct : item.value.Distinct := (value _ _).of_ok read
    split
    · exact (items _ _).map fun _ distinct => List.forall_mem_cons.2 ⟨item_distinct, distinct⟩
    · exact (Yields.any _).map fun _ _ => by simpa using item_distinct

theorem readEntries_distinct_of
    (value : ∀ depth input, Yields (fun read => read.1.value.Distinct) (readValue fuel depth input))
    (entries : ∀ depth front back input,
      Yields (fun read => ValuesDistinct read.1) (readEntries fuel depth front back input))
    (depth : Nat) (front back input : Place) :
    Yields (fun read => ValuesDistinct read.1) (readEntries (fuel + 1) depth front back input) := by
  rw [readEntries]
  split
  · split
    · trivial
    · exact (Yields.any _).map fun _ _ => List.forall_mem_nil _
  · refine (Yields.any _).bind fun _ _ => (value _ _).bind fun (value, rest) distinct => ?_
    dsimp only
    split
    · exact (entries _ _ _ _).map fun _ values => List.forall_mem_cons.2 ⟨distinct, values⟩
    · exact (Yields.any _).map fun _ _ => by simpa [ValuesDistinct] using distinct

theorem readers_distinct (fuel : Nat) :
    (∀ depth input, Yields (fun read => read.1.value.Distinct) (readValue fuel depth input)) ∧
    (∀ depth input,
      Yields (fun read => ∀ item ∈ read.1, item.value.Distinct) (readItems fuel depth input)) ∧
    (∀ depth front back input,
      Yields (fun read => ValuesDistinct read.1) (readEntries fuel depth front back input)) := by
  -- The three readers call each other with less of the fuel that they share.
  induction fuel with
  | zero => refine ⟨fun _ _ => ?_, fun _ _ => ?_, fun _ _ _ _ => ?_⟩ <;> trivial
  | succ fuel ih =>
    obtain ⟨value, items, entries⟩ := ih
    exact ⟨readValue_distinct_of items entries, readItems_distinct_of value items,
      readEntries_distinct_of value entries⟩

end

/-- What a line holds has no key twice. -/
def Line.Distinct : Line → Prop
  | .entry written => written.value.value.Distinct
  | _ => True

theorem readEntry_distinct (input : Place) :
    Yields (fun read => read.1.value.value.Distinct) (readEntry input) := by
  refine (Yields.any _).bind fun _ _ => (Yields.any _).bind fun _ _ => ?_
  exact ((readers_distinct _).1 _ _).bind fun _ distinct => distinct

theorem readLine_distinct (input : Place) :
    Yields (fun read => read.1.Distinct) (readLine input) := by
  unfold readLine
  dsimp only
  split
  · refine Yields.mapError ?_
    exact (Yields.any _).bind fun _ _ => (Yields.any _).bind fun _ _ => trivial
  · trivial
  · split
    · exact (Yields.any _).map fun _ _ => trivial
    · exact (readEntry_distinct _).bind fun _ distinct => (Yields.any _).bind fun _ _ => distinct

theorem readLines_distinct (fuel : Nat) (input : Place) :
    ∀ line ∈ (readLines fuel input).1, line.Distinct := by
  induction fuel generalizing input with
  | zero => simp [readLines]
  | succ fuel ih =>
    cases input with
    | nil => simp [readLines]
    | cons c input =>
      rw [readLines]
      · split
        · simp
        next line rest read =>
          exact List.forall_mem_cons.2 ⟨(readLine_distinct _).of_ok read, ih rest⟩
      · simp

theorem sections_distinct {lines : List Line} (distinct : ∀ line ∈ lines, line.Distinct) :
    ValuesDistinct (sections lines).1 ∧
      ∀ part ∈ (sections lines).2, ValuesDistinct part.entries := by
  induction lines with
  | nil => simp [sections, ValuesDistinct]
  | cons line lines ih =>
    obtain ⟨first, others⟩ := List.forall_mem_cons.1 distinct
    obtain ⟨values, parts⟩ := ih others
    cases line with
    | blank => exact ⟨values, parts⟩
    | entry => exact ⟨List.forall_mem_cons.2 ⟨first, values⟩, parts⟩
    | header => exact ⟨List.forall_mem_nil _, List.forall_mem_cons.2 ⟨values, parts⟩⟩

/-- No table of a document that is read has a key twice, the document included. -/
theorem read_distinct {text : String} {document : Document} (read_eq : read text = .ok document) :
    (Toml.table .standard document.entries).Distinct := by
  let input := withoutMark text.toList
  obtain ⟨values, parts⟩ := sections_distinct (readLines_distinct (input.length + 1) input)
  have yields : Yields (fun document => (Toml.table .standard document.entries).Distinct)
      (read text) := by
    apply (documentDraft_distinct values parts).bind
    intro root distinct
    split
    · trivial
    · have := distinct.node.toToml .standard
      rwa [Draft.node, Node.toToml] at this
  exact yields.of_ok read_eq

end SourceIndex.Toml
