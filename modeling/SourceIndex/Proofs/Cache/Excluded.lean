import SourceIndex.Proofs.Cache.Configured
import SourceIndex.Proofs.Config.FileKeys
import SourceIndex.Proofs.Path.Entries

/-!
# Excluded files

An entry that is written plainly keeps its file out of every cache of the project, however the file
is asked for. An entry that is not keeps nothing out.
-/

namespace SourceIndex

variable {ω σ κ υ : Type} {config : Arguments} {root path : Path}

theorem Arguments.resolve_of_excluded (excluded : root.relativeKey path ∈ config.exclude) :
    config.resolve root path = [] := by
  simp [resolve, excluded]

theorem Opened.not_parsed {setup : Setup ω σ κ υ} {built : List (Call κ υ)}
    {s : CacheState σ κ υ} (opened : Opened setup built s) (occasions : List (Occasion ω υ))
    {provider : ω → Path → List String} (asks : setup.provider = some provider)
    (silent : ∀ world, provider world path = []) :
    ∀ context args buffers answer, .parse context path args buffers answer ∉
      built ++ callLog (setup.history s occasions) := by
  intro context args buffers answer mem
  have provided : ∃ world, (Call.parse context path args buffers answer).AsProvided setup world := by
    rcases List.mem_append.1 mem with mem | mem
    · have ⟨_, world, _⟩ := opened
      exact ⟨world, opened.asProvided world _ mem⟩
    · obtain ⟨step, known, mem⟩ := List.mem_flatMap.1 mem
      exact ⟨_, opened.steps_asProvided occasions step known _ mem⟩
  obtain ⟨world, own, indexable, -⟩ := provided
  simp [Setup.argsFor?, asks, silent] at indexable

/-- No cache of the project ever parses the file, in whatever spelling. -/
def Arguments.KeepsOut (config : Arguments) (root path : Path) : Prop :=
  ∀ {ω σ κ υ : Type} {setup : Setup ω σ κ υ} {built : List (Call κ υ)} {s : CacheState σ κ υ},
    Opened setup built s → setup.provider = some (fun _ file => config.resolve root file) →
    ∀ (occasions : List (Occasion ω υ)) context file args buffers answer,
      .parse context file args buffers answer ∈ built ++ callLog (setup.history s occasions) →
      ¬ file.Same path

/-- A plain entry keeps the file that it names out of the index. Any other entry does nothing for
it. -/
theorem excludes_if_plain {entry : String} (listed : entry ∈ config.exclude)
    (relative : (Path.ofText entry).isAbsolute = false)
    (names : (root.join (.ofText entry)).Same path) :
    (root.PlainEntry entry → config.resolve root path = [] ∧ config.KeepsOut root path) ∧
    (¬ root.PlainEntry entry → config.resolve root path =
      { config with exclude := config.exclude.filter (· ≠ entry) }.resolve root path) := by
  have key_eq {file : Path} (same : file.Same path) :
      root.relativeKey file = entry ↔ root.PlainEntry entry :=
    Path.relativeKey_eq_iff relative (names.trans same.symm)
  refine ⟨fun plain => ?_, fun odd => Arguments.resolve_of_ne_key ((key_eq (.refl path)).not.2 odd)⟩
  have excluded {file : Path} (same : file.Same path) : config.resolve root file = [] :=
    Arguments.resolve_of_excluded (by rwa [(key_eq same).2 plain])
  refine ⟨excluded (.refl path), ?_⟩
  intro ω σ κ υ setup built s opened asks occasions context file args buffers answer parsed same
  exact opened.not_parsed occasions asks (fun _ => excluded same) context args buffers answer parsed

/-- The entry is found behind a slash at the end of the root too. -/
theorem excludes_if_plain_under_slash :
    let config : Arguments := { Arguments.empty with default := ["-Wall"], exclude := ["gen/b.c"] }
    let root : Path := .ofText "/p/"
    let path : Path := .ofText "/p//gen/./b.c"
    "gen/b.c" ∈ config.exclude ∧ (Path.ofText "gen/b.c").isAbsolute = false ∧
      (root.join (.ofText "gen/b.c")).Same path ∧ config.KeepsOut root path := by
  intro config root path
  have listed : "gen/b.c" ∈ config.exclude := by decide
  have relative : (Path.ofText "gen/b.c").isAbsolute = false := by decide +kernel
  have names : (root.join (.ofText "gen/b.c")).Same path := by decide +kernel
  have plain : root.PlainEntry "gen/b.c" := by decide +kernel
  exact ⟨listed, relative, names, ((excludes_if_plain listed relative names).1 plain).2⟩

/-- An entry with a dot in front names the file, and the file is parsed all the same. -/
theorem not_excluded_by_dotted_entry :
    let config : Arguments :=
      { Arguments.empty with default := ["-Wall"], exclude := ["./a.cpp"] }
    let root : Path := .ofText "/p"
    let path : Path := .ofText "/p/a.cpp"
    let setup := (Blueprint.ofClauses [.configured config root]).setup (Simulation.scripted id)
    let asked := Scripted.occasion ⟨0, by decide, by decide⟩ .empty (.serve path false)
    (root.join (.ofText "./a.cpp")).Same path ∧ config.resolve root path = ["-Wall"] ∧
      callLog (setup.history Scripted.start [asked]) =
        [.parse ⟨0, ⟨0⟩⟩ path ["-Wall"] [] (.value ⟨0, ⟨0, 0⟩⟩)] := by
  decide +kernel

end SourceIndex
