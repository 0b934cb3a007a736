import SourceIndex.Config.FileArguments
import SourceIndex.Config.Load
import SourceIndex.Proofs.Tables

/-!
# Valid configurations

What a configuration without a fault is like, and what it says about a file.
-/

namespace SourceIndex

/-! ## Valid arguments -/

/-- Nothing is wrong with the arguments of a configuration. -/
structure Arguments.Valid (arguments : Arguments) : Prop where
  default : "" ∉ arguments.default
  extensions : ∀ entry ∈ arguments.extensions.entries,
    (entry.1 ≠ "" ∧ entry.1.toList.head? ≠ some '.') ∧
      entry.1.toList.any Text.isUppercase = false ∧ "" ∉ entry.2
  files : ∀ entry ∈ arguments.files.entries, entry.1 ≠ "" ∧ "" ∉ entry.2

namespace Arguments

theorem defaultFault?_eq_none_iff {arguments : List String} :
    defaultFault? arguments = none ↔ "" ∉ arguments := by
  unfold defaultFault?
  split <;> simp_all

theorem extensionFault?_eq_none_iff {entry : String × List String} :
    extensionFault? entry = none ↔ (entry.1 ≠ "" ∧ entry.1.toList.head? ≠ some '.') ∧
      entry.1.toList.any Text.isUppercase = false ∧ "" ∉ entry.2 := by
  obtain ⟨extension, arguments⟩ := entry
  unfold extensionFault?
  grind

theorem fileFault?_eq_none_iff {entry : String × List String} :
    fileFault? entry = none ↔ entry.1 ≠ "" ∧ "" ∉ entry.2 := by
  obtain ⟨file, arguments⟩ := entry
  unfold fileFault?
  grind

theorem fault?_eq_none_iff {arguments : Arguments} :
    arguments.fault? = none ↔ arguments.Valid := by
  unfold fault?
  simp only [Option.or_eq_none_iff, List.findSome?_eq_none_iff, defaultFault?_eq_none_iff,
    extensionFault?_eq_none_iff, fileFault?_eq_none_iff]
  exact ⟨fun ⟨default, extensions, files⟩ => ⟨default, extensions, files⟩,
    fun valid => ⟨valid.default, valid.extensions, valid.files⟩⟩

end Arguments

/-! ## Loaded configurations -/

namespace Config

variable {text : String} {config : Config}

theorem load_eq_ok_iff :
    load text = .ok config ↔ parse text = .ok config ∧ config.fault? = none := by
  unfold load
  cases parse text with
  | error fault => simp
  | ok read =>
    cases faulty : read.fault? with
    | some fault =>
      simp only [faulty, Except.ok.injEq, reduceCtorEq, false_iff, not_and]
      rintro rfl
      simp [faulty]
    | none =>
      simp only [faulty, Except.ok.injEq, iff_self_and]
      rintro rfl
      exact faulty

theorem load_eq_invalid_iff {fault : ConfigFault} :
    load text = .error (.invalid fault) ↔
      ∃ config, parse text = .ok config ∧ config.fault? = some fault := by
  unfold load
  cases parse text with
  | error fault => simp
  | ok read => cases faulty : read.fault? <;> simp [faulty]

theorem valid_of_load (loaded : load text = .ok config) : config.arguments.Valid := by
  have faultless := (load_eq_ok_iff.1 loaded).2
  unfold fault? at faultless
  exact Arguments.fault?_eq_none_iff.1 (Option.or_eq_none_iff.1 faultless).2

end Config

/-! ## The arguments of a file -/

namespace Arguments

variable (config : Arguments) (root path : Path)

/-- All that is listed for a file: for every file, for its extension in small letters, and for
itself. -/
def listed : List String :=
  config.default ++
    ((path.extensionText?.map Text.lowercase).bind config.extensions.find?).getD [] ++
      (config.files.find? (root.relativeKey path)).getD []

variable {root path}

theorem forExtension_eq : config.forExtension path =
    ((path.extensionText?.map Text.lowercase).bind config.extensions.find?).getD [] := by
  unfold forExtension
  cases path.extensionText? <;> rfl

theorem resolve_of_not_source (root : Path) (other : path.isSource = false) :
    config.resolve root path = [] := by
  simp [resolve, other]

variable {config}

theorem resolve_of_ne_nil (indexed : config.resolve root path ≠ []) :
    path.isSource ∧ root.relativeKey path ∉ config.exclude ∧
      config.resolve root path = config.listed root path := by
  unfold resolve at indexed ⊢
  dsimp only at indexed ⊢
  split at indexed
  · contradiction
  split at indexed
  · contradiction
  next source included =>
    rw [if_neg source, if_neg included, forExtension_eq]
    exact ⟨by simpa using source, included, rfl⟩

theorem not_mem_getD_find? {table : Dictionary (List String)}
    (none_empty : ∀ entry ∈ table.entries, "" ∉ entry.2) (key : Option String) :
    "" ∉ (key.bind table.find?).getD [] := by
  cases found : key.bind table.find? with
  | none => simp
  | some arguments =>
    obtain ⟨key, -, found⟩ := Option.bind_eq_some_iff.1 found
    obtain ⟨entry, mem, -, rfl⟩ := SortedTable.find?_eq_some_iff.1 found
    exact none_empty entry mem

theorem Valid.not_mem_listed (valid : config.Valid) (root path : Path) :
    "" ∉ config.listed root path := by
  have by_extension := not_mem_getD_find? (fun entry mem => (valid.extensions entry mem).2.2)
    (path.extensionText?.map Text.lowercase)
  have by_file := not_mem_getD_find? (fun entry mem => (valid.files entry mem).2)
    (some (root.relativeKey path))
  unfold listed
  simp only [List.mem_append, not_or]
  exact ⟨⟨valid.default, by_extension⟩, by_file⟩

end Arguments

end SourceIndex
