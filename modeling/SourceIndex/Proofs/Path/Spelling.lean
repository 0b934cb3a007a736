import SourceIndex.File.Kind
import SourceIndex.Path.Relative
import SourceIndex.Proofs.Text.Utf8

/-!
# Ways to spell a path

A path behind a root has the components of the root and then those that its own pieces stand for.
What depends on components only is the same for every spelling: the kind of a file, its extension,
and its key under a root that it lies under. A slash at the end is another spelling.
-/

namespace SourceIndex

/-! ## Pieces -/

theorem splitSlashes_eq (bytes : List UInt8) : splitSlashes bytes = bytes.splitOn slash := by
  induction bytes with
  | nil => rfl
  | cons b rest ih =>
    rw [splitSlashes, List.splitOn_cons_eq_if_modifyHead, ih]
    by_cases ends : b = slash
    · simp [ends]
    · obtain ⟨piece, pieces, split⟩ := List.exists_cons_of_ne_nil (List.splitOn_ne_nil slash rest)
      simp [ends, split]

theorem splitSlashes_append (front behind : List UInt8) :
    splitSlashes (front ++ slash :: behind) = splitSlashes front ++ splitSlashes behind := by
  simp only [splitSlashes_eq, List.splitOn_append_cons_self]

theorem splitSlashes_ne_nil (bytes : List UInt8) : splitSlashes bytes ≠ [] := by
  rw [splitSlashes_eq]
  exact List.splitOn_ne_nil slash bytes

/-! ## Texts -/

theorem pieces_slash (behind : List UInt8) :
    Utf8.pieces (slash :: behind) = .char '/' :: Utf8.pieces behind :=
  Utf8.pieces_alone (by decide) behind

theorem slash_not_mem_encode {text : String} (other : '/' ∉ text.toList) :
    slash ∉ Utf8.encode text :=
  fun mem => other ((Utf8.mem_encode_iff (by decide)).1 mem)

theorem Path.text?_eq_some_iff {path : Path} {text : String} :
    path.text? = some text ↔ path = .ofText text := by
  rw [text?, Utf8.decode?_eq_some_iff, ofText, Path.mk.injEq]

theorem encode_intercalate (pieces : List (List Char)) :
    Utf8.encode (String.ofList (['/'].intercalate pieces)) =
      [slash].intercalate (pieces.map fun piece => Utf8.encode (String.ofList piece)) := by
  simp only [Utf8.encode_eq, String.toList_ofList]
  induction pieces with
  | nil => rfl
  | cons piece rest ih =>
    cases rest with
    | nil => simp
    | cons next rest =>
      rw [List.intercalate_cons_cons, List.flatMap_append, List.flatMap_append, ih]
      simp only [List.map_cons, List.intercalate_cons_cons]
      rfl

theorem not_mem_of_mem_splitOn {α : Type} [BEq α] [LawfulBEq α] {a : α} {list piece : List α}
    (mem : piece ∈ list.splitOn a) : a ∉ piece := by
  induction list generalizing piece with
  | nil => simp_all
  | cons first rest ih =>
    rw [List.splitOn_cons_eq_if_modifyHead] at mem
    split at mem
    · rcases List.mem_cons.1 mem with rfl | mem
      · simp
      · exact ih mem
    next other =>
      obtain ⟨next, others, split⟩ := List.exists_cons_of_ne_nil (List.splitOn_ne_nil a rest)
      simp only [split, List.modifyHead_cons, List.mem_cons] at mem ih
      rcases mem with rfl | mem
      · have free : a ∉ next := ih (.inl rfl)
        simp only [beq_iff_eq] at other
        simp [free, Ne.symm other]
      · exact ih (.inr mem)

theorem splitSlashes_encode (text : String) :
    splitSlashes (Utf8.encode text) =
      (text.toList.splitOn '/').map fun piece => Utf8.encode (String.ofList piece) := by
  have joined := encode_intercalate (text.toList.splitOn '/')
  rw [List.intercalate_splitOn, String.ofList_toList] at joined
  rw [splitSlashes_eq, joined, List.splitOn_intercalate]
  · simp only [List.forall_mem_map]
    intro piece mem
    exact slash_not_mem_encode (by simpa using not_mem_of_mem_splitOn mem)
  · simp

/-- A piece that stands for nothing, unless it is the first one. -/
def Silent (piece : List Char) : Prop := piece = [] ∨ piece = ['.']

instance (piece : List Char) : Decidable (Silent piece) := inferInstanceAs (Decidable (_ ∨ _))

section

variable (piece : List Char)

theorem encode_eq_iff (chars : List Char) :
    Utf8.encode (String.ofList piece) = Utf8.encode (String.ofList chars) ↔ piece = chars := by
  rw [Utf8.encode_inj, String.ofList_inj]

theorem shown_of_piece :
    (Component.ofPiece? (Utf8.encode (String.ofList piece))).map (·.shown.toList) =
      if Silent piece then none else some piece := by
  have nothing : Utf8.encode (String.ofList piece) = [] ↔ piece = [] := encode_eq_iff piece []
  have here : Utf8.encode (String.ofList piece) = [dot] ↔ piece = ['.'] :=
    encode_eq_iff piece ['.']
  have up : Utf8.encode (String.ofList piece) = [dot, dot] ↔ piece = ['.', '.'] :=
    encode_eq_iff piece ['.', '.']
  have either : (piece = [] ∨ piece = ['.']) ↔ Silent piece := .rfl
  simp only [Component.ofPiece?, nothing, here, up, either]
  by_cases silent : Silent piece
  · rw [if_pos silent, if_pos silent]
    rfl
  rw [if_neg silent, if_neg silent]
  split
  next double =>
    rw [double]
    rfl
  · simp [Component.shown]

theorem shown_of_first :
    (Component.ofFirst? (Utf8.encode (String.ofList piece))).map (·.shown.toList) =
      if piece = [] then none else some piece := by
  have here : Utf8.encode (String.ofList piece) = [dot] ↔ piece = ['.'] :=
    encode_eq_iff piece ['.']
  simp only [Component.ofFirst?, here]
  split
  next single =>
    rw [single]
    rfl
  next other =>
    rw [shown_of_piece]
    simp [Silent, other]

end

theorem shown_of_pieces (pieces : List (List Char)) :
    ((pieces.map fun piece => Utf8.encode (String.ofList piece)).filterMap
      Component.ofPiece?).map (·.shown.toList) = pieces.filter (¬ Silent ·) := by
  rw [List.filterMap_map, List.map_filterMap]
  induction pieces with
  | nil => rfl
  | cons piece rest ih =>
    rw [List.filterMap_cons, List.filter_cons, ih, Function.comp_apply, shown_of_piece]
    by_cases silent : Silent piece <;> simp [silent]

namespace Path

/-! ## Behind a root -/

/-- The components that a relative path adds to the path in front of it. -/
def steps (p : Path) : List Component := (splitSlashes p.bytes).filterMap Component.ofPiece?

theorem components_of_pieces {p : Path} {first : List UInt8} {others : List (List UInt8)}
    (split : splitSlashes p.bytes = first :: others) :
    p.components = (if p.isAbsolute then [.root] else []) ++
      (Component.ofFirst? first).toList ++ others.filterMap Component.ofPiece? := by
  simp [components, split]

theorem components_append (front behind : List UInt8) :
    components ⟨front ++ slash :: behind⟩ =
      components ⟨front ++ [slash]⟩ ++ steps ⟨behind⟩ := by
  obtain ⟨first, others, split⟩ := List.exists_cons_of_ne_nil (splitSlashes_ne_nil front)
  have split_all : splitSlashes (front ++ slash :: behind) =
      first :: (others ++ splitSlashes behind) := by
    rw [splitSlashes_append, split, List.cons_append]
  have split_front : splitSlashes (front ++ [slash]) = first :: (others ++ [[]]) := by
    rw [splitSlashes_append, split, List.cons_append]
    rfl
  have absolute : isAbsolute ⟨front ++ slash :: behind⟩ = isAbsolute ⟨front ++ [slash]⟩ := by
    cases front <;> rfl
  rw [components_of_pieces split_all, components_of_pieces split_front, absolute]
  simp [steps, Component.ofPiece?]

theorem same_append_slash {p : Path} (filled : p.bytes ≠ []) : p.Same ⟨p.bytes ++ [slash]⟩ := by
  obtain ⟨first, others, split⟩ := List.exists_cons_of_ne_nil (splitSlashes_ne_nil p.bytes)
  have split_all : splitSlashes (p.bytes ++ [slash]) = first :: (others ++ [[]]) := by
    rw [splitSlashes_append, split, List.cons_append]
    rfl
  have absolute : isAbsolute ⟨p.bytes ++ [slash]⟩ = p.isAbsolute := by
    obtain ⟨b, rest, bytes_eq⟩ := List.exists_cons_of_ne_nil filled
    simp [isAbsolute, bytes_eq]
  unfold Same
  rw [components_of_pieces split, components_of_pieces split_all, absolute]
  simp [Component.ofPiece?]

/-- What a path adds to a root. Nothing is in front of it when the root is empty. -/
def stepsUnder (root p : Path) : List Component :=
  if root.bytes = [] then p.components else p.steps

theorem components_join {root p : Path} (relative : p.isAbsolute = false) :
    (root.join p).components = root.components ++ root.stepsUnder p := by
  unfold join stepsUnder
  rw [if_neg (by simp [relative])]
  by_cases empty : root.bytes = []
  · have nothing : root.components = [] := by
      obtain ⟨bytes⟩ := root
      obtain rfl : bytes = [] := empty
      rfl
    simp [empty, nothing]
  rw [if_neg empty]
  split
  next ends =>
    -- The slash at the end of the root does as well as one in between.
    obtain ⟨front, bytes_eq⟩ := List.getLast?_eq_some_iff.1 (ends.resolve_left empty)
    have all := components_append front p.bytes
    rw [List.append_cons, ← bytes_eq] at all
    exact all
  · have all := components_append root.bytes p.bytes
    rwa [← same_append_slash empty] at all

/-! ## Under a root -/

theorem dropStart?_eq_some_iff {α : Type} [DecidableEq α] {start list rest : List α} :
    dropStart? start list = some rest ↔ list = start ++ rest := by
  induction start generalizing list with
  | nil => simp [dropStart?]
  | cons a start ih =>
    cases list with
    | nil => simp [dropStart?]
    | cons b list =>
      by_cases same : a = b
      · simp [dropStart?, same, ih]
      · simp [dropStart?, same, Ne.symm same]

/-- The file lies under the root. -/
def Under (root p : Path) : Prop := root.components <+: p.components

instance (root p : Path) : Decidable (Under root p) := inferInstanceAs (Decidable (_ <+: _))

variable {root root' p p' : Path}

theorem relativeKey_of_components {rest : List Component}
    (under : p.components = root.components ++ rest) :
    root.relativeKey p = String.ofList (['/'].intercalate (rest.map (·.shown.toList))) := by
  rw [relativeKey, behind?, dropStart?_eq_some_iff.2 under]

theorem relativeKey_of_not_under (outside : ¬ root.Under p) : root.relativeKey p = p.shown := by
  unfold relativeKey behind?
  cases left : dropStart? root.components p.components with
  | none => rfl
  | some rest => exact absurd ⟨rest, (dropStart?_eq_some_iff.1 left).symm⟩ outside

theorem relativeKey_congr (same_root : root.Same root') (same : p.Same p')
    (under : root.Under p) : root.relativeKey p = root'.relativeKey p' := by
  obtain ⟨rest, split⟩ := under
  rw [relativeKey_of_components split.symm]
  rw [same_root, same] at split
  rw [relativeKey_of_components split.symm]

theorem Same.extensionText?_eq (same : p.Same p') : p.extensionText? = p'.extensionText? := by
  have names_eq : p.fileName? = p'.fileName? := by
    unfold fileName?
    rw [same]
  simp only [extensionText?, extension?, names_eq]

theorem Same.isSource_eq (same : p.Same p') : p.isSource = p'.isSource := by
  simp only [isSource, kind?, same.extensionText?_eq]

end Path

end SourceIndex
