import SourceIndex.Proofs.Path.Spelling

/-!
# Keys of files under a root

The key of a file under the root of its project can be taken apart again, so that two files have
one key only if their components behind the root are shown alike. Of files with texts for names
there is at most one for each key.
-/

namespace SourceIndex

/-! ## Slashes in what is shown -/

namespace Utf8

theorem continue?_suffix (more bits low high : Nat) (bytes : List UInt8) :
    (continue? more bits low high bytes).2 <:+ bytes := by
  fun_induction continue? more bits low high bytes with
  | case1 => exact List.suffix_rfl
  | case2 => exact List.suffix_rfl
  | case3 _ _ _ _ b rest _ ih => exact ih.trans (List.suffix_cons b rest)
  | case4 => exact List.suffix_rfl

theorem next_suffix (b : UInt8) (rest : List UInt8) : (next b rest).2 <:+ rest := by
  unfold next
  split
  · exact List.suffix_rfl
  next lead _ =>
    have suffix := continue?_suffix lead.more lead.bits lead.low lead.high rest
    split <;> simp_all

theorem encodeChar_subset_of_mem_pieces {bytes : List UInt8} {c : Char}
    (mem : .char c ∈ pieces bytes) : String.utf8EncodeChar c ⊆ bytes := by
  fun_induction pieces bytes with
  | case1 => simp at mem
  | case2 b rest ih =>
    rcases List.mem_cons.1 mem with first | mem
    · have read : next b rest = (.char c, (next b rest).2) := by rw [first]
      rw [encodeChar_of_next read]
      exact List.subset_append_left _ _
    · have in_rest := List.Subset.trans (ih mem) (next_suffix b rest).subset
      exact List.Subset.trans in_rest (List.subset_cons_self b rest)

theorem slash_not_mem_decodeLossy {bytes : List UInt8} (free : slash ∉ bytes) :
    '/' ∉ (decodeLossy bytes).toList := by
  rw [decodeLossy, String.toList_ofList, List.mem_map]
  rintro ⟨piece, mem, shown⟩
  cases piece with
  | damage bytes => simp [Piece.char?] at shown
  | char c =>
    obtain rfl : c = '/' := by simpa [Piece.char?] using shown
    exact free (encodeChar_subset_of_mem_pieces mem (by decide))

theorem decodeLossy_ne_nil {bytes : List UInt8} (filled : bytes ≠ []) :
    (decodeLossy bytes).toList ≠ [] := by
  obtain ⟨b, rest, rfl⟩ := List.exists_cons_of_ne_nil filled
  rw [decodeLossy, String.toList_ofList, pieces_cons]
  simp

end Utf8

/-! ## Components of a path -/

/-- A name that is one component, and none of those that mean something else. -/
def Component.Proper : Component → Prop
  | name bytes => bytes ≠ [] ∧ slash ∉ bytes ∧ bytes ≠ [dot] ∧ bytes ≠ [dot, dot]
  | _ => True

theorem Component.spec_of_ofPiece? {piece : List UInt8} {c : Component}
    (free : slash ∉ piece) (stands : ofPiece? piece = some c) : c.Proper ∧ c ≠ .root := by
  unfold ofPiece? at stands
  split at stands
  · simp at stands
  next counted =>
  split at stands
  · obtain rfl := Option.some.inj stands
    simp [Proper]
  next named =>
    obtain rfl := Option.some.inj stands
    simp_all [Proper]

theorem Component.spec_of_ofFirst? {piece : List UInt8} {c : Component}
    (free : slash ∉ piece) (stands : ofFirst? piece = some c) : c.Proper ∧ c ≠ .root := by
  unfold ofFirst? at stands
  split at stands
  · obtain rfl := Option.some.inj stands
    simp [Proper]
  · exact spec_of_ofPiece? free stands

namespace Path

theorem components_eq (p : Path) : ∃ relative : List Component,
    p.components = (if p.isAbsolute then [.root] else []) ++ relative ∧
      ∀ c ∈ relative, c.Proper ∧ c ≠ .root := by
  obtain ⟨first, others, split⟩ := List.exists_cons_of_ne_nil (splitSlashes_ne_nil p.bytes)
  have free : ∀ piece ∈ first :: others, slash ∉ piece := by
    rw [← split, splitSlashes_eq]
    exact fun piece mem => not_mem_of_mem_splitOn mem
  rw [components_of_pieces split, List.append_assoc]
  refine ⟨_, rfl, fun c mem => ?_⟩
  rcases List.mem_append.1 mem with mem | mem
  · exact Component.spec_of_ofFirst? (free first List.mem_cons_self) (Option.mem_toList.1 mem)
  · obtain ⟨piece, mem, stands⟩ := List.mem_filterMap.1 mem
    exact Component.spec_of_ofPiece? (free piece (List.mem_cons_of_mem _ mem)) stands

theorem components_of_behind? {root p : Path} {rest : List Component}
    (under : root.behind? p = some rest) :
    (∀ c ∈ rest, c.Proper ∧ c ≠ .root) ∨
      ∃ relative, rest = .root :: relative ∧ ∀ c ∈ relative, c.Proper ∧ c ≠ .root := by
  obtain ⟨relative, eq, spec⟩ := p.components_eq
  have suffix : rest <:+ p.components := ⟨_, (dropStart?_eq_some_iff.1 under).symm⟩
  rw [eq] at suffix
  split at suffix
  · rcases List.suffix_cons_iff.1 suffix with rfl | suffix
    · exact .inr ⟨relative, rfl, spec⟩
    · exact .inl fun c mem => spec c (suffix.subset mem)
  · exact .inl fun c mem => spec c (suffix.subset mem)

end Path

/-! ## Keys taken apart -/

theorem Component.shown_spec {c : Component} (spec : c.Proper ∧ c ≠ .root) :
    '/' ∉ c.shown.toList ∧ c.shown.toList ≠ [] := by
  obtain ⟨proper, other⟩ := spec
  cases c with
  | root => exact absurd rfl other
  | here => decide
  | up => decide
  | name bytes =>
    exact ⟨Utf8.slash_not_mem_decodeLossy proper.2.1, Utf8.decodeLossy_ne_nil proper.1⟩

/-- What a key shows of each component. A slash in front is the root, and another one follows it
unless it is alone. -/
def partsOfKey : List Char → List (List Char)
  | [] => []
  | ['/'] => [['/']]
  | '/' :: '/' :: key => ['/'] :: key.splitOn '/'
  | key => key.splitOn '/'

theorem partsOfKey_intercalate {parts : List (List Char)}
    (spec : ∀ part ∈ parts, '/' ∉ part ∧ part ≠ []) :
    partsOfKey (['/'].intercalate parts) = parts := by
  cases parts with
  | nil => rfl
  | cons part parts =>
    have split := List.splitOn_intercalate '/' (fun part mem => (spec part mem).1)
      (List.cons_ne_nil part parts)
    obtain ⟨free, filled⟩ := spec part List.mem_cons_self
    obtain ⟨c, chars, rfl⟩ := List.exists_cons_of_ne_nil filled
    obtain ⟨behind, begins⟩ : ∃ behind,
        ['/'].intercalate ((c :: chars) :: parts) = c :: behind := by
      cases parts <;> exact ⟨_, rfl⟩
    have other : c ≠ '/' := fun same => free (same ▸ List.mem_cons_self)
    rw [begins] at split ⊢
    rw [← split, partsOfKey] <;> simp [other]

theorem partsOfKey_intercalate_root {parts : List (List Char)}
    (spec : ∀ part ∈ parts, '/' ∉ part ∧ part ≠ []) :
    partsOfKey (['/'].intercalate (['/'] :: parts)) = ['/'] :: parts := by
  cases parts with
  | nil => rfl
  | cons part parts =>
    have split := List.splitOn_intercalate '/' (fun part mem => (spec part mem).1)
      (List.cons_ne_nil part parts)
    have begins : ['/'].intercalate (['/'] :: part :: parts) =
        '/' :: '/' :: ['/'].intercalate (part :: parts) := rfl
    rw [begins, partsOfKey, split]

namespace Path

variable {root p p' : Path} {rest rest' : List Component}

theorem partsOfKey_relativeKey (under : root.behind? p = some rest) :
    partsOfKey (root.relativeKey p).toList = rest.map (·.shown.toList) := by
  have split := dropStart?_eq_some_iff.1 under
  rw [relativeKey_of_components split, String.toList_ofList]
  have parts_spec : ∀ {components : List Component},
      (∀ c ∈ components, c.Proper ∧ c ≠ .root) →
      ∀ part ∈ components.map (·.shown.toList), '/' ∉ part ∧ part ≠ [] := by
    intro components spec
    simp only [List.forall_mem_map]
    exact fun c mem => Component.shown_spec (spec c mem)
  rcases components_of_behind? under with spec | ⟨relative, rfl, spec⟩
  · exact partsOfKey_intercalate (parts_spec spec)
  · exact partsOfKey_intercalate_root (parts_spec spec)

theorem relativeKey_eq_iff_shown (under : root.behind? p = some rest)
    (under' : root.behind? p' = some rest') :
    root.relativeKey p = root.relativeKey p' ↔
      rest.map Component.shown = rest'.map Component.shown := by
  have as_lists : ∀ {components : List Component},
      components.map (·.shown.toList) = (components.map Component.shown).map String.toList := by
    simp
  constructor
  · intro same
    have parts := congrArg (partsOfKey ∘ String.toList) same
    simp only [Function.comp_apply] at parts
    rw [partsOfKey_relativeKey under, partsOfKey_relativeKey under', as_lists, as_lists] at parts
    exact (List.map_inj_right fun _ _ => String.toList_inj.1).1 parts
  · intro same
    rw [relativeKey_of_components (dropStart?_eq_some_iff.1 under),
      relativeKey_of_components (dropStart?_eq_some_iff.1 under'), as_lists, as_lists, same]

end Path

/-! ## Names that are texts -/

/-- The name of the component, if it is one, is a text. -/
def Component.Written : Component → Prop
  | name bytes => ∃ text, bytes = Utf8.encode text
  | _ => True

theorem Component.written_of_ofPiece? {text : String} {c : Component}
    (stands : ofPiece? (Utf8.encode text) = some c) : c.Written := by
  unfold ofPiece? at stands
  split at stands
  · simp at stands
  split at stands
  all_goals obtain rfl := Option.some.inj stands
  · trivial
  · exact ⟨text, rfl⟩

theorem Component.written_of_ofFirst? {text : String} {c : Component}
    (stands : ofFirst? (Utf8.encode text) = some c) : c.Written := by
  unfold ofFirst? at stands
  split at stands
  · obtain rfl := Option.some.inj stands
    trivial
  · exact written_of_ofPiece? stands

theorem Component.shown_name_ne {bytes : List UInt8} (proper : (name bytes).Proper)
    (written : (name bytes).Written) :
    (name bytes).shown ≠ "/" ∧ (name bytes).shown ≠ "." ∧ (name bytes).shown ≠ ".." := by
  obtain ⟨text, rfl⟩ := written
  obtain ⟨-, free, single, double⟩ := proper
  rw [shown, Utf8.decodeLossy_encode]
  refine ⟨?_, ?_, ?_⟩ <;> rintro rfl
  · exact free (by decide)
  · exact single rfl
  · exact double rfl

theorem Component.eq_of_shown_eq {c c' : Component} (proper : c.Proper) (proper' : c'.Proper)
    (written : c.Written) (written' : c'.Written) (same : c.shown = c'.shown) : c = c' := by
  cases c <;> cases c'
  case name.name =>
    obtain ⟨text, rfl⟩ := written
    obtain ⟨text', rfl⟩ := written'
    simp only [shown, Utf8.decodeLossy_encode] at same
    rw [same]
  case name.root => exact absurd same (shown_name_ne proper written).1
  case name.here => exact absurd same (shown_name_ne proper written).2.1
  case name.up => exact absurd same (shown_name_ne proper written).2.2
  case root.name => exact absurd same.symm (shown_name_ne proper' written').1
  case here.name => exact absurd same.symm (shown_name_ne proper' written').2.1
  case up.name => exact absurd same.symm (shown_name_ne proper' written').2.2
  all_goals first | rfl | exact absurd same (by decide)

theorem Component.eq_of_map_shown_eq {list list' : List Component}
    (known : ∀ c ∈ list, c.Proper ∧ c.Written) (known' : ∀ c ∈ list', c.Proper ∧ c.Written)
    (same : list.map shown = list'.map shown) : list = list' := by
  induction list generalizing list' with
  | nil => exact (List.map_eq_nil_iff.1 same.symm).symm
  | cons c rest ih =>
    obtain ⟨c', rest', rfl, first, others⟩ := List.map_eq_cons_iff.1 same.symm
    obtain ⟨⟨proper, written⟩, known⟩ := List.forall_mem_cons.1 known
    obtain ⟨⟨proper', written'⟩, known'⟩ := List.forall_mem_cons.1 known'
    rw [eq_of_shown_eq proper proper' written written' first.symm, ih known known' others.symm]

namespace Path

theorem written_of_mem {p : Path} {c : Component} (text : p.text?.isSome)
    (mem : c ∈ p.components) : c.Written := by
  obtain ⟨text, read⟩ := Option.isSome_iff_exists.1 text
  have split := splitSlashes_encode text
  rw [← Utf8.decode?_eq_some_iff.1 read] at split
  obtain ⟨first, others, pieces⟩ :=
    List.exists_cons_of_ne_nil (List.splitOn_ne_nil '/' text.toList)
  rw [pieces, List.map_cons] at split
  rw [components_of_pieces split] at mem
  simp only [List.mem_append, Option.mem_toList, List.mem_filterMap, List.mem_map] at mem
  rcases mem with (root | stands) | ⟨_, ⟨piece, -, rfl⟩, stands⟩
  · split at root
    · obtain rfl := List.mem_singleton.1 root
      trivial
    · simp at root
  · exact Component.written_of_ofFirst? stands
  · exact Component.written_of_ofPiece? stands

theorem proper_of_mem {p : Path} {c : Component} (mem : c ∈ p.components) : c.Proper := by
  obtain ⟨relative, eq, spec⟩ := p.components_eq
  rw [eq, List.mem_append] at mem
  rcases mem with root | mem
  · split at root
    · obtain rfl := List.mem_singleton.1 root
      trivial
    · simp at root
  · exact (spec c mem).1

theorem same_of_relativeKey_eq {root p p' : Path} {rest rest' : List Component}
    (under : root.behind? p = some rest) (under' : root.behind? p' = some rest')
    (text : p.text?.isSome) (text' : p'.text?.isSome)
    (same : root.relativeKey p = root.relativeKey p') : p.Same p' := by
  have split := dropStart?_eq_some_iff.1 under
  have split' := dropStart?_eq_some_iff.1 under'
  have shown_eq := (relativeKey_eq_iff_shown under under').1 same
  have known : ∀ {p : Path} {rest : List Component}, p.components = root.components ++ rest →
      p.text?.isSome → ∀ c ∈ rest, c.Proper ∧ c.Written := by
    intro p rest split text c mem
    have mem : c ∈ p.components := split ▸ List.mem_append_right _ mem
    exact ⟨proper_of_mem mem, written_of_mem text mem⟩
  have rest_eq : rest = rest' :=
    Component.eq_of_map_shown_eq (known split text) (known split' text') shown_eq
  rw [Same, split, split', rest_eq]

end Path

end SourceIndex
