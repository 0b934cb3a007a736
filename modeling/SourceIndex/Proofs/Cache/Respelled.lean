import SourceIndex.Proofs.Cache.Configured
import SourceIndex.Proofs.Path.Spelling

/-!
# Arguments of a file in another spelling

Under the root of the project a file has the same arguments however its path is spelled. Outside it
the text of the path is looked up as it is, and a slash at the end is enough to miss an entry.
-/

namespace SourceIndex

namespace Path

theorem shown_append_slash (bytes : List UInt8) :
    shown ⟨bytes ++ [slash]⟩ = shown ⟨bytes⟩ ++ "/" := by
  have last : Utf8.pieces [slash] = [.char '/'] := by
    rw [pieces_slash, Utf8.pieces]
  unfold shown Utf8.decodeLossy
  rw [Utf8.pieces_append (by decide), last, List.map_append, String.ofList_append]
  rfl

theorem filled_of_isSource {p : Path} (source : p.isSource = true) : p.bytes ≠ [] := by
  obtain ⟨bytes⟩ := p
  rintro rfl
  simp [isSource, kind?, extensionText?, extension?, fileName?, components, splitSlashes,
    Component.ofFirst?, Component.ofPiece?, dot, isAbsolute] at source

theorem Same.under_iff {root root' p p' : Path} (same_root : root.Same root') (same : p.Same p') :
    root.Under p ↔ root'.Under p' := by
  unfold Under
  rw [same_root, same]

end Path

namespace Arguments

variable {root root' path path' : Path}

theorem resolve_congr (config : Arguments) (same : path.Same path')
    (key_eq : root.relativeKey path = root'.relativeKey path') :
    config.resolve root path = config.resolve root' path' := by
  simp only [resolve, forExtension, key_eq, same.isSource_eq, same.extensionText?_eq]

/-- Excludes the file of this key, and has an argument for every other. -/
def excluding (key : String) : Arguments := ⟨["-w"], [key], .empty, .empty⟩

theorem resolve_excluding_eq_nil_iff {key : String} (source : path.isSource = true) :
    (excluding key).resolve root path = [] ↔ root.relativeKey path = key := by
  simp [resolve, excluding, source]

theorem resolve_eq_iff (same_root : root.Same root') (same : path.Same path') :
    (∀ config : Arguments, config.resolve root path = config.resolve root' path') ↔
      path.isSource = false ∨ root.Under path ∨ path.shown = path'.shown := by
  constructor
  · intro alike
    by_cases source : path.isSource = true
    case neg => exact .inl (by simpa using source)
    by_cases under : root.Under path
    · exact .inr (.inl under)
    have outside : ¬ root'.Under path' := (same_root.under_iff same).not.1 under
    have excluded := (resolve_excluding_eq_nil_iff source).2 (Path.relativeKey_of_not_under under)
    rw [alike, resolve_excluding_eq_nil_iff (same.isSource_eq ▸ source),
      Path.relativeKey_of_not_under outside] at excluded
    exact .inr (.inr excluded.symm)
  · rintro (other | under | alike) config
    · rw [resolve_of_not_source config root other,
        resolve_of_not_source config root' (same.isSource_eq ▸ other)]
    · exact resolve_congr config same (Path.relativeKey_congr same_root same under)
    · by_cases under : root.Under path
      · exact resolve_congr config same (Path.relativeKey_congr same_root same under)
      · have outside : ¬ root'.Under path' := (same_root.under_iff same).not.1 under
        apply resolve_congr config same
        rw [Path.relativeKey_of_not_under under, Path.relativeKey_of_not_under outside, alike]

end Arguments

/-- What a configuration says about a source file is the same for all its spellings only if the file
lies under the root. -/
theorem spelling_is_irrelevant_iff_under (root path : Path) :
    (∀ (config : Arguments) (root' path' : Path), root.Same root' → path.Same path' →
      config.resolve root path = config.resolve root' path') ↔
        path.isSource = false ∨ root.Under path := by
  constructor
  · intro alike
    by_cases source : path.isSource = true
    case neg => exact .inl (by simpa using source)
    have same := Path.same_append_slash (Path.filled_of_isSource source)
    have known := (Arguments.resolve_eq_iff (.refl root) same).1
      fun config => alike config root _ (.refl root) same
    rw [Path.shown_append_slash] at known
    refine known.imp_right (Or.resolve_right · ?_)
    intro shown_eq
    have := congrArg String.length shown_eq
    simp at this
  · intro known config root' path' same_root same
    exact (Arguments.resolve_eq_iff same_root same).2 (known.imp_right .inl) config

/-- Outside the root a unit is thrown away whenever its file is asked for in the other spelling. -/
theorem unit_is_rebuilt_for_other_spelling :
    let config : Arguments :=
      { Arguments.empty with
        default := ["-Wall"], files := .ofList [("/elsewhere/x.cc", ["-DX"])] }
    let root : Path := .ofText "/p"
    let single : Path := .ofText "/elsewhere/x.cc"
    let double : Path := .ofText "/elsewhere//x.cc"
    let setup := (Blueprint.ofClauses [.configured config root]).setup (Simulation.scripted id)
    let time : FileTime := ⟨0, by decide, by decide⟩
    let occasions := [single, double, single].map fun path =>
      Scripted.occasion time .empty (.serve path false)
    single.Same double ∧
      config.resolve root single = ["-Wall", "-DX"] ∧ config.resolve root double = ["-Wall"] ∧
      callLog (setup.history Scripted.start occasions) =
        [.parse ⟨0, ⟨0⟩⟩ single ["-Wall", "-DX"] [] (.value ⟨0, ⟨0, 0⟩⟩),
          .disposeUnit ⟨0, ⟨0, 0⟩⟩ .explicit (.value ()),
          .parse ⟨0, ⟨0⟩⟩ double ["-Wall"] [] (.value ⟨1, ⟨1, 0⟩⟩),
          .disposeUnit ⟨1, ⟨1, 0⟩⟩ .explicit (.value ()),
          .parse ⟨0, ⟨0⟩⟩ single ["-Wall", "-DX"] [] (.value ⟨2, ⟨2, 0⟩⟩)] := by
  decide +kernel

end SourceIndex
