import SourceIndex.Proofs.Config.Validity
import SourceIndex.Proofs.Path.Letters

/-!
# Arguments by extension

Whether a path names a source file is decided in small letters from A to Z, the arguments for its
extension are looked up in small letters of all alphabets. For source files that is one thing, so
capitals in their extension are of no account.
-/

namespace SourceIndex

namespace FileKind

/-- The extensions of source files, in small letters. -/
def sourceExtensions : List String := ["h", "hh", "hpp", "c", "cc", "cpp", "m", "mm"]

theorem isSome_ofExtension?_iff {extension : String} :
    (ofExtension? extension).isSome ↔ smallLetters extension ∈ sourceExtensions := by
  simp only [ofExtension?, all, List.find?_isSome, List.mem_cons, List.not_mem_nil, or_false,
    List.contains_iff_mem, exists_eq_or_imp, exists_eq_left, extensions, sourceExtensions]
  grind

theorem isAscii_of_mem_sourceExtensions {extension : String}
    (source : smallLetters extension ∈ sourceExtensions) : Text.IsAscii extension := by
  have all_ascii : sourceExtensions.all (·.toList.all (·.toNat < 128)) := by decide +kernel
  simp only [List.all_eq_true, decide_eq_true_eq] at all_ascii
  exact Text.isAscii_smallLetters_iff.1 (all_ascii _ source)

end FileKind

namespace Path

variable {p p' : Path}

theorem isSource_iff : p.isSource ↔ ∃ extension, p.extensionText? = some extension ∧
    FileKind.smallLetters extension ∈ FileKind.sourceExtensions := by
  rw [isSource, kind?, Option.isSome_bind]
  cases p.extensionText? <;> simp [FileKind.isSome_ofExtension?_iff]

theorem extensionText?_eq_some_iff {extension : String} :
    p.extensionText? = some extension ↔ p.extension? = some (Utf8.encode extension) := by
  rw [extensionText?, Option.bind_eq_some_iff]
  simp [Utf8.decode?_eq_some_iff]

theorem SameLetters.exists_extensionText (same : p.SameLetters p') {extension : String}
    (known : p.extensionText? = some extension) (ascii : Text.IsAscii extension) :
    ∃ extension', p'.extensionText? = some extension' ∧
      FileKind.smallLetters extension' = FileKind.smallLetters extension := by
  have small : p'.extension?.map (·.map smallByte) =
      some (Utf8.encode (FileKind.smallLetters extension)) := by
    rw [← extension?_small, ← same, extension?_small, extensionText?_eq_some_iff.1 known,
      Option.map_some, ascii.map_smallByte_encode]
  obtain ⟨bytes, extension_eq, bytes_small⟩ := Option.map_eq_some_iff.1 small
  obtain ⟨extension', rfl, small_eq⟩ :=
    Text.exists_isAscii_of_small (Text.isAscii_smallLetters_iff.2 ascii) bytes_small
  exact ⟨extension', extensionText?_eq_some_iff.2 extension_eq, small_eq⟩

theorem SameLetters.of_isSource (same : p.SameLetters p') (source : p.isSource) :
    p'.isSource ∧ p'.extensionText?.map Text.lowercase = p.extensionText?.map Text.lowercase := by
  obtain ⟨extension, known, mem⟩ := isSource_iff.1 source
  have ascii := FileKind.isAscii_of_mem_sourceExtensions mem
  obtain ⟨extension', known', small_eq⟩ := same.exists_extensionText known ascii
  rw [← small_eq] at mem
  have ascii' := FileKind.isAscii_of_mem_sourceExtensions mem
  refine ⟨isSource_iff.2 ⟨extension', known', mem⟩, ?_⟩
  rw [known, known', Option.map_some, Option.map_some, ascii.lowercase_eq, ascii'.lowercase_eq,
    small_eq]

end Path

namespace Arguments

variable {config : Arguments} {root p p' : Path}

theorem resolve_of_extensions {extensions : Dictionary (List String)}
    (agree : ∀ key ∈ FileKind.sourceExtensions, p.extensionText?.map Text.lowercase = some key →
      extensions.find? key = config.extensions.find? key) :
    { config with extensions }.resolve root p = config.resolve root p := by
  by_cases source : p.isSource = true
  case neg =>
    rw [resolve_of_not_source _ root (by simpa using source),
      resolve_of_not_source _ root (by simpa using source)]
  obtain ⟨extension, known, mem⟩ := Path.isSource_iff.1 source
  have lower := (FileKind.isAscii_of_mem_sourceExtensions mem).lowercase_eq
  have found := agree _ mem (by rw [known, Option.map_some, lower])
  rw [← lower] at found
  simp only [resolve, forExtension, known, found]

theorem resolve_of_unlisted (source : p.isSource) (included : root.relativeKey p ∉ config.exclude)
    (unlisted : config.files.find? (root.relativeKey p) = none) :
    config.resolve root p = config.default ++
      ((p.extensionText?.map Text.lowercase).bind config.extensions.find?).getD [] := by
  simp [resolve, source, included, unlisted, forExtension_eq]

end Arguments

/-- The extension of a source file is the same in both small forms, and is one of eight. Entries for
any other extension have no part in the arguments of a file, and neither do capitals. -/
theorem extension_case_is_irrelevant (config : Arguments) (root p : Path) :
    (p.isSource → ∃ extension, p.extensionText? = some extension ∧
      Text.lowercase extension = FileKind.smallLetters extension ∧
      FileKind.smallLetters extension ∈ FileKind.sourceExtensions) ∧
    (∀ extensions : Dictionary (List String),
      (∀ key ∈ FileKind.sourceExtensions, p.extensionText?.map Text.lowercase = some key →
        extensions.find? key = config.extensions.find? key) →
      { config with extensions }.resolve root p = config.resolve root p) ∧
    (∀ p' : Path, p.SameLetters p' →
      (∀ key ∈ [root.relativeKey p, root.relativeKey p'],
        key ∉ config.exclude ∧ config.files.find? key = none) →
      config.resolve root p = config.resolve root p') := by
  refine ⟨fun source => ?_, fun _ => Arguments.resolve_of_extensions, fun p' same no_entry => ?_⟩
  · obtain ⟨extension, known, mem⟩ := Path.isSource_iff.1 source
    exact ⟨extension, known, (FileKind.isAscii_of_mem_sourceExtensions mem).lowercase_eq, mem⟩
  · obtain ⟨included, unlisted⟩ := no_entry (root.relativeKey p) (by simp)
    obtain ⟨included', unlisted'⟩ := no_entry (root.relativeKey p') (by simp)
    by_cases source : p.isSource = true
    · obtain ⟨source', extension_eq⟩ := same.of_isSource source
      rw [Arguments.resolve_of_unlisted source included unlisted,
        Arguments.resolve_of_unlisted source' included' unlisted', extension_eq]
    · have other : p.isSource = false := by simpa using source
      have other' : p'.isSource = false := by
        simpa using fun source' => source (Path.SameLetters.of_isSource same.symm source').1
      rw [Arguments.resolve_of_not_source config root other,
        Arguments.resolve_of_not_source config root other']

/-- A file of C in capitals, beside arguments for headers. -/
theorem extension_case_is_irrelevant_of_capital :
    let root : Path := .ofText "/p"
    let p : Path := .ofText "/p/a.C"
    let p' : Path := .ofText "/P/a.c"
    let config : Arguments := { Arguments.empty with
      default := ["-I."]
      extensions := SortedTable.ofList [("c", ["-std=c11"]), ("h", ["-xc"])] }
    let extensions : Dictionary (List String) := SortedTable.ofList [("c", ["-std=c11"])]
    p.isSource ∧ p.extensionText? = some "C" ∧ Text.lowercase "C" = FileKind.smallLetters "C" ∧
      (∀ key ∈ FileKind.sourceExtensions, p.extensionText?.map Text.lowercase = some key →
        extensions.find? key = config.extensions.find? key) ∧
      { config with extensions }.resolve root p = config.resolve root p ∧
      p.SameLetters p' ∧
      (∀ key ∈ [root.relativeKey p, root.relativeKey p'],
        key ∉ config.exclude ∧ config.files.find? key = none) ∧
      config.resolve root p = config.resolve root p' ∧
      config.resolve root p' = ["-I.", "-std=c11"] := by
  intro root p p' config extensions
  have source : p.isSource := by decide +kernel
  have known : p.extensionText? = some "C" := by decide +kernel
  have agree : ∀ key ∈ FileKind.sourceExtensions, p.extensionText?.map Text.lowercase = some key →
      extensions.find? key = config.extensions.find? key := by decide +kernel
  have same : p.SameLetters p' := by decide +kernel
  have no_entry : ∀ key ∈ [root.relativeKey p, root.relativeKey p'],
      key ∉ config.exclude ∧ config.files.find? key = none := by decide +kernel
  obtain ⟨one_extension, other_entries, capitals⟩ := extension_case_is_irrelevant config root p
  obtain ⟨extension, known', lower, -⟩ := one_extension source
  obtain rfl : "C" = extension := Option.some_inj.1 (known.symm.trans known')
  exact ⟨source, known, lower, agree, other_entries extensions agree, same, no_entry,
    capitals p' same no_entry, by decide +kernel⟩

end SourceIndex
