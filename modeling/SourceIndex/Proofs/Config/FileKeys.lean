import SourceIndex.Config.FileArguments
import SourceIndex.Proofs.Config.Dictionary
import SourceIndex.Proofs.Path.Keys

/-!
# What an entry says about files

An entry for a file, be it one that excludes the file or one that has arguments for it, says
something about files with its key only. Under the root of the project those are the spellings of
one file.
-/

namespace SourceIndex

namespace Arguments

variable {config : Arguments} {root path : Path} {entry : String}

theorem resolve_of_ne_key (other : root.relativeKey path ≠ entry) :
    config.resolve root path =
      { config with exclude := config.exclude.filter (· ≠ entry) }.resolve root path := by
  simp [resolve, forExtension, other]

theorem resolve_of_ne_file (other : root.relativeKey path ≠ entry) :
    config.resolve root path =
      { config with files := config.files.erase entry }.resolve root path := by
  simp [resolve, forExtension, SortedTable.find?_erase_of_ne config.files other]

/-- Without the entry among the excluded files, or among those with arguments of their own, the file
would get other arguments. -/
def TakesEffect (config : Arguments) (root path : Path) (entry : String) : Prop :=
  config.resolve root path ≠
    { config with exclude := config.exclude.filter (· ≠ entry) }.resolve root path ∨
  config.resolve root path ≠
    { config with files := config.files.erase entry }.resolve root path

instance : Decidable (config.TakesEffect root path entry) := inferInstanceAs (Decidable (_ ∨ _))

theorem TakesEffect.key_eq (effect : config.TakesEffect root path entry) :
    root.relativeKey path = entry := by
  refine Decidable.byContradiction fun other => ?_
  rcases effect with excludes | adds
  · exact excludes (resolve_of_ne_key other)
  · exact adds (resolve_of_ne_file other)

end Arguments

/-- Under a root a key tells what is shown of the components of a file, and nothing else. So an
entry takes effect for one file at most, if the names of files are texts. -/
theorem keys_tell_files_apart {root p p' : Path} {rest rest' : List Component}
    (under : root.behind? p = some rest) (under' : root.behind? p' = some rest') :
    (root.relativeKey p = root.relativeKey p' ↔
      rest.map Component.shown = rest'.map Component.shown) ∧
    (p.text?.isSome → p'.text?.isSome → ∀ (config : Arguments) (entry : String),
      config.TakesEffect root p entry → config.TakesEffect root p' entry → p.Same p') := by
  refine ⟨Path.relativeKey_eq_iff_shown under under', ?_⟩
  intro text text' config entry effect effect'
  have same : root.relativeKey p = root.relativeKey p' := effect.key_eq.trans effect'.key_eq.symm
  exact Path.same_of_relativeKey_eq under under' text text' same

/-- An absolute path under no root has a key with two slashes in front. -/
theorem keys_tell_files_apart_of_absolute :
    let root : Path := .ofText ""
    let p : Path := .ofText "/src//a.c"
    let p' : Path := .ofText "/src/./a.c/"
    let rest : List Component := [.root, .name (Utf8.encode "src"), .name (Utf8.encode "a.c")]
    let config : Arguments :=
      { Arguments.empty with default := ["-Wall"], exclude := ["//src/a.c"] }
    root.behind? p = some rest ∧ root.behind? p' = some rest ∧
      (root.relativeKey p = root.relativeKey p' ↔
        rest.map Component.shown = rest.map Component.shown) ∧
      p.text?.isSome ∧ p'.text?.isSome ∧ config.TakesEffect root p "//src/a.c" ∧
      config.TakesEffect root p' "//src/a.c" ∧ p.Same p' := by
  intro root p p' rest config
  have under : root.behind? p = some rest := by decide +kernel
  have under' : root.behind? p' = some rest := by decide +kernel
  have text : p.text?.isSome := by decide +kernel
  have text' : p'.text?.isSome := by decide +kernel
  have effect : config.TakesEffect root p "//src/a.c" := by decide +kernel
  have effect' : config.TakesEffect root p' "//src/a.c" := by decide +kernel
  obtain ⟨key, one_file⟩ := keys_tell_files_apart under under'
  exact ⟨under, under', key, text, text', effect, effect',
    one_file text text' config "//src/a.c" effect effect'⟩

/-- Two files whose names are no texts may have one key. -/
example :
    let root : Path := .ofText "/p"
    let p : Path := ⟨Utf8.encode "/p/" ++ [0xFE]⟩
    let p' : Path := ⟨Utf8.encode "/p/" ++ [0xFF]⟩
    root.relativeKey p = root.relativeKey p' ∧ ¬ p.Same p' := by
  decide +kernel

end SourceIndex
