import Mathlib.Logic.Relation
import SourceIndex.Proofs.Config.Dictionary
import SourceIndex.Proofs.Config.Validity
import SourceIndex.Proofs.Toml.Records

/-!
# The wording of a configuration

A configuration can be written in many ways: its entries in any order, with entries that mean
nothing, and a single default argument with or without brackets. All of them say the same.
-/

namespace SourceIndex

open Toml

/-! ## Records of a configuration -/

theorem Settings.fields_orderFree : FieldsOrderFree Settings.fields where
  apart := by
    simp only [Settings.fields, List.pairwise_cons, List.forall_mem_cons, List.not_mem_nil,
      false_implies, implies_true, List.Pairwise.nil, and_true]
    and_intros <;> exact Field.apart_of (by intros; rfl)
  each := by
    simp only [Settings.fields, List.forall_mem_cons, List.not_mem_nil, false_implies, implies_true,
      and_true]
    refine ⟨?_, ?_, ?_, ?_, ?_⟩
    · exact Field.orderFree_of byte_orderFree _ _
    · exact Field.orderFree_of bool_orderFree _ _
    · exact Field.orderFree_of bool_orderFree _ _
    · exact Field.orderFree_of (choice_orderFree _).list _ _
    · exact Field.orderFree_of (choice_orderFree _) _ _

theorem Arguments.dictionary_orderFree : OrderFree Arguments.dictionary := by
  refine @OrderFree.entries _ _ _ SortedTable.insert text_orderFree.list ?_ .empty
  intro key key' other built a a'
  exact built.insert_comm (Text.sameKey_iff.not.2 other) a a'

theorem Arguments.fields_orderFree : FieldsOrderFree Arguments.fields where
  apart := by
    simp only [Arguments.fields, List.pairwise_cons, List.forall_mem_cons, List.not_mem_nil,
      false_implies, implies_true, List.Pairwise.nil, and_true]
    and_intros <;> exact Field.apart_of (by intros; rfl)
  each := by
    simp only [Arguments.fields, List.forall_mem_cons, List.not_mem_nil, false_implies,
      implies_true, and_true]
    refine ⟨?_, ?_, ?_, ?_⟩
    · exact Field.orderFree_of textOrTexts_orderFree _ _
    · exact Field.orderFree_of text_orderFree.list _ _
    · exact Field.orderFree_of dictionary_orderFree _ _
    · exact Field.orderFree_of dictionary_orderFree _ _

theorem Config.fields_orderFree : FieldsOrderFree Config.fields where
  apart := by
    simp only [Config.fields, List.pairwise_cons, List.forall_mem_cons, List.not_mem_nil,
      false_implies, implies_true, List.Pairwise.nil, and_true]
    exact Field.apart_of (by intros; rfl)
  each := by
    simp only [Config.fields, List.forall_mem_cons, List.not_mem_nil, false_implies, implies_true,
      and_true]
    refine ⟨?_, ?_⟩
    · exact Field.orderFree_of (Settings.fields_orderFree.record _ _) _ _
    · exact Field.orderFree_of (Arguments.fields_orderFree.record _ _) _ _

/-! ## Other words for the same -/

/-- The entries of a document. No table in it has a key twice. -/
structure Toml.Tree where
  entries : List (String × Toml)
  distinct : (Toml.table .standard entries).Distinct

/-- What is read of a text. -/
def Toml.Tree.ofRead {text : String} {document : Document} (read_eq : read text = .ok document) :
    Tree := ⟨document.entries, read_distinct read_eq⟩

/-- A section that is a table is changed. -/
inductive InSection (name : String) (Change : List (String × Toml) → List (String × Toml) → Prop) :
    List (String × Toml) → List (String × Toml) → Prop
  | change (front back : List (String × Toml)) (kind : TableKind)
    {entries entries' : List (String × Toml)} (changed : Change entries entries') :
    InSection name Change (front ++ (name, .table kind entries) :: back)
      (front ++ (name, .table kind entries') :: back)

/-- A single default argument is put in brackets. -/
inductive Bracketed : List (String × Toml) → List (String × Toml) → Prop
  | default (front back : List (String × Toml)) (argument : String) :
    Bracketed (front ++ ("default", .string argument) :: back)
      (front ++ ("default", .array [.string argument]) :: back)

/-- One way to write a document in other words. -/
inductive Reworded : List (String × Toml) → List (String × Toml) → Prop
  | rearranged {entries entries' : List (String × Toml)}
    (moved : Rearranged (.table .standard entries) (.table .standard entries')) :
    Reworded entries entries'
  | unknown {entries entries' : List (String × Toml)}
    (added : Extends Config.fields entries entries') : Reworded entries entries'
  | unknownSetting {entries entries' : List (String × Toml)}
    (added : InSection "index" (Extends Settings.fields) entries entries') :
    Reworded entries entries'
  | unknownArguments {entries entries' : List (String × Toml)}
    (added : InSection "arguments" (Extends Arguments.fields) entries entries') :
    Reworded entries entries'
  | bracketed {entries entries' : List (String × Toml)}
    (put : InSection "arguments" Bracketed entries entries') : Reworded entries entries'
  /-- In a section that is an array the default arguments come first. -/
  | bracketedItem (front back : List (String × Toml)) (argument : String) (items : List Toml) :
    Reworded (front ++ ("arguments", .array (.string argument :: items)) :: back)
      (front ++ ("arguments", .array (.array [.string argument] :: items)) :: back)

/-- The documents say the same in other words. -/
def Toml.Tree.SaysTheSame : Tree → Tree → Prop :=
  Relation.EqvGen fun tree tree' => Reworded tree.entries tree'.entries

/-! ## One step -/

theorem Config.ofToml_of_index {value value' : Toml}
    (alike : (Settings.ofToml value).toOption = (Settings.ofToml value').toOption)
    (front back : List (String × Toml)) :
    (ofToml (front ++ ("index", value) :: back)).toOption =
      (ofToml (front ++ ("index", value') :: back)).toOption :=
  toOption_fillEntries_congr (by rfl) (Field.fill_of_congr alike _ _) front back _

theorem Config.ofToml_of_arguments {value value' : Toml}
    (alike : (Arguments.ofToml value).toOption = (Arguments.ofToml value').toOption)
    (front back : List (String × Toml)) :
    (ofToml (front ++ ("arguments", value) :: back)).toOption =
      (ofToml (front ++ ("arguments", value') :: back)).toOption :=
  toOption_fillEntries_congr (by rfl) (Field.fill_of_congr alike _ _) front back _

theorem Arguments.ofToml_bracketed (kind : TableKind) {entries entries' : List (String × Toml)}
    (put : Bracketed entries entries') :
    (ofToml (.table kind entries)).toOption = (ofToml (.table kind entries')).toOption := by
  obtain ⟨front, back, argument⟩ := put
  have one_list : textOrTexts (.string argument) = textOrTexts (.array [.string argument]) := rfl
  exact toOption_fillEntries_congr (by rfl) (Field.fill_of_congr (congrArg _ one_list) _ _)
    front back _

theorem Reworded.decoded {entries entries' : List (String × Toml)}
    (distinct : (Toml.table .standard entries).Distinct) (reworded : Reworded entries entries') :
    (Config.ofToml entries).toOption = (Config.ofToml entries').toOption := by
  cases reworded with
  | rearranged moved => exact Config.fields_orderFree.fillEntries distinct moved _
  | unknown added => exact congrArg _ (added.fillEntries_eq _)
  | unknownSetting added =>
    obtain ⟨front, back, kind, changed⟩ := added
    refine Config.ofToml_of_index ?_ front back
    exact congrArg _ (changed.fillEntries_eq Settings.default)
  | unknownArguments added =>
    obtain ⟨front, back, kind, changed⟩ := added
    refine Config.ofToml_of_arguments ?_ front back
    exact congrArg _ (changed.fillEntries_eq Arguments.empty)
  | bracketed put =>
    obtain ⟨front, back, kind, changed⟩ := put
    exact Config.ofToml_of_arguments (Arguments.ofToml_bracketed kind changed) front back
  | bracketedItem front back argument items =>
    refine Config.ofToml_of_arguments ?_ front back
    rfl

/-! ## Any number of steps -/

theorem Toml.Tree.SaysTheSame.decoded {tree tree' : Tree} (same : tree.SaysTheSame tree') :
    (Config.ofToml tree.entries).toOption = (Config.ofToml tree'.entries).toOption := by
  induction same with
  | rel tree tree' reworded => exact reworded.decoded tree.distinct
  | refl tree => rfl
  | symm tree tree' _ ih => exact ih.symm
  | trans tree tree' tree'' _ _ ih ih' => exact ih.trans ih'

theorem Config.toOption_parse {text : String} {document : Document}
    (read_eq : read text = .ok document) :
    (parse text).toOption = (ofToml document.entries).toOption := by
  unfold parse
  rw [read_eq]
  dsimp only
  cases ofToml document.entries <;> rfl

/-- Documents in other words are decoded to the same configuration, or both to none. So texts that
are read as such documents are loaded as the same configuration, or found invalid alike. -/
theorem wording_is_irrelevant :
    (∀ tree tree' : Tree, tree.SaysTheSame tree' →
      (Config.ofToml tree.entries).toOption = (Config.ofToml tree'.entries).toOption) ∧
    (∀ (text text' : String) (document document' : Document)
      (read_eq : Toml.read text = .ok document) (read_eq' : Toml.read text' = .ok document'),
      (Tree.ofRead read_eq).SaysTheSame (Tree.ofRead read_eq') →
      (Config.parse text).toOption = (Config.parse text').toOption ∧
      (∀ config, Config.load text = .ok config ↔ Config.load text' = .ok config) ∧
      (∀ fault, Config.load text = .error (.invalid fault) ↔
        Config.load text' = .error (.invalid fault))) := by
  refine ⟨fun tree tree' same => same.decoded, ?_⟩
  intro text text' document document' read_eq read_eq' same
  have parsed : (Config.parse text).toOption = (Config.parse text').toOption :=
    (Config.toOption_parse read_eq).trans (same.decoded.trans (Config.toOption_parse read_eq').symm)
  have parsed_iff (config : Config) :
      Config.parse text = .ok config ↔ Config.parse text' = .ok config := by
    rw [← toOption_eq_some_iff, parsed, toOption_eq_some_iff]
  refine ⟨parsed, fun config => ?_, fun fault => ?_⟩
  · rw [Config.load_eq_ok_iff, Config.load_eq_ok_iff, parsed_iff]
  · simp only [Config.load_eq_invalid_iff, parsed_iff]

/-- The sections in another order, the argument in brackets and an entry that means nothing, and a
text with nothing else. -/
theorem wording_is_irrelevant_of_brackets :
    let index : String × Toml := ("index", .table .standard [("verbosity", .integer 2)])
    let arguments (default : Toml) : String × Toml :=
      ("arguments", .table .standard [("default", default)])
    let config : Config := ⟨{ Settings.default with verbosity := 2 },
      { Arguments.empty with default := ["a"] }⟩
    (∃ tree tree' : Tree, tree.entries = [arguments (.string "a"), index] ∧
      tree'.entries = [("theme", .boolean true), index, arguments (.array [.string "a"])] ∧
      tree.SaysTheSame tree' ∧
      (Config.ofToml tree.entries).toOption = (Config.ofToml tree'.entries).toOption ∧
      (Config.ofToml tree'.entries).toOption = some config) ∧
    (∃ (document document' : Document) (read_eq : Toml.read "" = .ok document)
      (read_eq' : Toml.read "theme=true" = .ok document'),
      (Tree.ofRead read_eq).SaysTheSame (Tree.ofRead read_eq') ∧
      (Config.parse "").toOption = (Config.parse "theme=true").toOption ∧
      (∀ config, Config.load "" = .ok config ↔ Config.load "theme=true" = .ok config) ∧
      (∀ fault, Config.load "" = .error (.invalid fault) ↔
        Config.load "theme=true" = .error (.invalid fault)) ∧
      Config.load "theme=true" = .ok .default) := by
  intro index arguments config
  obtain ⟨decoded, loaded⟩ := wording_is_irrelevant
  have shown : (Config.ofToml [("theme", .boolean true), index,
      arguments (.array [.string "a"])]).toOption = some config := by decide +kernel +zetaReduce
  have distinct_index : index.2.Distinct := .cons (by simp) (.integer 2) .nil
  have distinct_arguments {default : Toml} (distinct : default.Distinct) :
      (arguments default).2.Distinct := .cons (by simp) distinct .nil
  have distinct_list : (Toml.array [.string "a"]).Distinct :=
    .array (List.forall_mem_singleton.2 (.string "a"))
  have distinct_pair {default : Toml} (distinct : default.Distinct) :
      (Toml.table .standard [index, arguments default]).Distinct :=
    .cons (by simp [index, arguments]) distinct_index
      (.cons (by simp) (distinct_arguments distinct) .nil)
  constructor
  · let tree : Tree := ⟨[arguments (.string "a"), index],
      .cons (by simp [arguments, index]) (distinct_arguments (.string "a"))
        (.cons (by simp) distinct_index .nil)⟩
    let moved : Tree := ⟨[index, arguments (.string "a")], distinct_pair (.string "a")⟩
    let between : Tree := ⟨[index, arguments (.array [.string "a"])], distinct_pair distinct_list⟩
    let tree' : Tree := ⟨("theme", .boolean true) :: between.entries,
      .cons (by simp [between, arguments, index]) (.boolean true) between.distinct⟩
    have rearranged : Reworded tree.entries moved.entries :=
      .rearranged (.table (.swap ..) rfl (.cons (.refl _) (.cons (.refl _) .nil)))
    have put : Reworded moved.entries between.entries :=
      .bracketed (.change [index] [] .standard (.default [] [] "a"))
    have added : Reworded between.entries tree'.entries :=
      .unknown (.add [] between.entries (.boolean true) (by decide))
    have same : tree.SaysTheSame tree' :=
      .trans _ moved _ (.rel _ _ rearranged) (.trans _ between _ (.rel _ _ put) (.rel _ _ added))
    exact ⟨tree, tree', rfl, rfl, same, decoded tree tree' same, shown⟩
  · have keys : (Toml.read "").toOption.map (·.entries.map (·.1)) = some [] := by decide +kernel
    have keys' : (Toml.read "theme=true").toOption.map (·.entries.map (·.1)) = some ["theme"] := by
      decide +kernel
    obtain ⟨document, read_eq, keys_eq⟩ := Option.map_eq_some_iff.1 keys
    obtain ⟨document', read_eq', keys_eq'⟩ := Option.map_eq_some_iff.1 keys'
    rw [toOption_eq_some_iff] at read_eq read_eq'
    obtain ⟨⟨_, value⟩, entries_eq', rfl⟩ := List.map_eq_singleton_iff.1 keys_eq'
    have added : Reworded document.entries document'.entries := by
      rw [List.map_eq_nil_iff.1 keys_eq, entries_eq']
      exact .unknown (.add [] [] value (by decide))
    have same : (Tree.ofRead read_eq).SaysTheSame (Tree.ofRead read_eq') := .rel _ _ added
    obtain ⟨parsed, valid, invalid⟩ := loaded _ _ document document' read_eq read_eq' same
    exact ⟨document, document', read_eq, read_eq', same, parsed, valid, invalid, by decide +kernel⟩

end SourceIndex
