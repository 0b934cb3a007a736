import SourceIndex.Proofs.Cache.Calls
import SourceIndex.Proofs.Config.Validity

/-!
# From a configuration to the analyzer

Whatever a cache does, the analyzer gets the arguments that the provider has for the file at that
moment. With the provider of a configuration that was loaded they are those that the configuration
lists for the file.
-/

namespace SourceIndex

variable {ω σ κ υ : Type}

/-! ## As provided -/

/-- If the call parses a file, then with the arguments that the provider has for it. -/
def Call.AsProvided (setup : Setup ω σ κ υ) (world : ω) : Call κ υ → Prop
  | parse _ path args _ _ => ∃ own, setup.argsFor? world path = some own ∧
      args = setup.parseArgs own
  | _ => True

section

variable {setup : Setup ω σ κ υ} {world : ω} {path : Path} {s : CacheState σ κ υ}

theorem Call.Fits.asProvided {call : Call κ υ} (fits : call.Fits setup world) :
    call.AsProvided setup world := by
  cases fits with
  | parse indexable => exact ⟨_, indexable, rfl⟩
  | _ => trivial

theorem Opened.asProvided {built : List (Call κ υ)} (opened : Opened setup built s) (world : ω) :
    ∀ call ∈ built, call.AsProvided setup world := by
  obtain ⟨context, options, set, -, -, rfl, only_set⟩ := opened.spec
  refine List.forall_mem_cons.2 ⟨trivial, fun call mem => ?_⟩
  obtain ⟨options, rfl⟩ := only_set call mem
  trivial

theorem Opened.steps_asProvided {built : List (Call κ υ)} (opened : Opened setup built s)
    (occasions : List (Occasion ω υ)) :
    ∀ step ∈ setup.history s occasions, ∀ call ∈ step.calls,
      call.AsProvided setup step.occasion.moment.world :=
  fun step known call mem => (opened.steps_fit occasions step known call mem).asProvided

end

/-! ## As configured -/

/-- What is known about a cache by the configuration of the project at `root`. -/
def Config.blueprint (config : Config) (root : Path) : Blueprint ω :=
  .ofClauses (Clause.ofConfig config root)

/-- The file is to be indexed, and the arguments are those that the configuration lists for it, with
a wish for a verbose compiler if the index is that verbose. -/
structure ConfiguredParse (config : Config) (root path : Path) (args : List String) : Prop where
  source : path.isSource
  included : root.relativeKey path ∉ config.arguments.exclude
  args_eq : args = config.arguments.listed root path ++
    if 2 ≤ config.index.verbosity then ["-v"] else []
  some_listed : config.arguments.listed root path ≠ []
  none_empty : "" ∉ args

section

variable {config : Config} {root path : Path} {analyzer : Analyzer ω σ κ υ} {world : ω}

theorem Config.argsFor?_blueprint {own : List String}
    (indexable : ((config.blueprint root).setup analyzer).argsFor? world path = some own) :
    config.arguments.resolve root path = own ∧ own ≠ [] := by
  cases Setup.argsFor?_eq_some_iff.1 indexable with
  | unasked no_provider => cases no_provider
  | asked provided args_eq some_args =>
    cases provided
    exact ⟨args_eq, some_args⟩

theorem Config.parseArgs_blueprint (config : Config) (root : Path) (analyzer : Analyzer ω σ κ υ)
    (own : List String) :
    ((config.blueprint root).setup analyzer).parseArgs own =
      own ++ if 2 ≤ config.index.verbosity then ["-v"] else [] :=
  Setup.parseArgs_eq _ own

theorem configuredParse {text : String} (loaded : Config.load text = .ok config)
    {context : Handle κ} {args : List String} {buffers : List Buffer}
    {answer : Answer (Handle υ)}
    (provided : (Call.parse context path args buffers answer).AsProvided
      ((config.blueprint root).setup analyzer) world) :
    ConfiguredParse config root path args := by
  obtain ⟨own, indexable, rfl⟩ := provided
  obtain ⟨rfl, indexed⟩ := Config.argsFor?_blueprint indexable
  obtain ⟨source, included, listed⟩ := Arguments.resolve_of_ne_nil indexed
  have none_empty := (Config.valid_of_load loaded).not_mem_listed root path
  rw [Config.parseArgs_blueprint, listed]
  rw [listed] at indexed
  refine ⟨source, included, rfl, indexed, ?_⟩
  split <;> simpa using none_empty

end

/-- Whatever is asked of a cache that was built from a loaded configuration, the analyzer parses
what it is to parse and gets the arguments that are listed for it. -/
theorem parses_as_configured {text : String} {config : Config}
    (loaded : Config.load text = .ok config) {root : Path} {analyzer : Analyzer ω σ κ υ}
    {world : ω} {start left : AnalyzerState σ} {cache : Cache ω σ κ υ}
    {effects : List (Effect κ υ)}
    (built : ((config.blueprint root).build analyzer world).run start =
      ⟨.ok (.ok cache), effects, left⟩) (occasions : List (Occasion ω υ)) :
    ∀ context path args buffers answer,
      .parse context path args buffers answer ∈ callsOf effects ++
        callLog (cache.setup.history ⟨left, cache.context, cache.table⟩ occasions) →
      ConfiguredParse config root path args := by
  intro context path args buffers answer mem
  have opened := Blueprint.opened_of_build built
  obtain ⟨first, set, rfl, -⟩ := Blueprint.build_spec built
  rcases List.mem_append.1 mem with mem | mem
  · exact configuredParse loaded (opened.asProvided world _ mem)
  · obtain ⟨step, known, mem⟩ := List.mem_flatMap.1 mem
    exact configuredParse loaded (opened.steps_asProvided occasions step known _ mem)

/-- A file gets what is listed for every file, for its extension and for itself, and an excluded one
is not parsed. -/
theorem parses_as_configured_of_text :
    let text := "[index]\nverbosity = 2\n" ++
      "[arguments]\ndefault = \"-Wall\"\nexclude = [\"gen/b.c\"]\n" ++
      "extensions = \x7b cpp = [\"-std=c++17\"] \x7d\nfiles = \x7b \"a.CPP\" = [\"-DA\"] \x7d\n"
    let config : Config := ⟨⟨2, false, none, [], .leak⟩,
      ⟨["-Wall"], ["gen/b.c"], .ofList [("cpp", ["-std=c++17"])], .ofList [("a.CPP", ["-DA"])]⟩⟩
    let root : Path := .ofText "/p"
    let setup := (config.blueprint root).setup (Simulation.scripted id)
    let time : FileTime := ⟨0, by decide, by decide⟩
    let occasions := [Scripted.occasion time .empty (.serve (.ofText "/p/a.CPP") false),
      Scripted.occasion time .empty (.prime (.ofText "/p/gen/b.c"))]
    let args := ["-Wall", "-std=c++17", "-DA", "-v"]
    Config.load text = .ok config ∧
      callLog (setup.history Scripted.start occasions) =
        [.parse ⟨0, ⟨0⟩⟩ (.ofText "/p/a.CPP") args [] (.value ⟨0, ⟨0, 0⟩⟩)] ∧
      ConfiguredParse config root (.ofText "/p/a.CPP") args := by
  intro text config root setup time occasions args
  have loaded : Config.load text = .ok config := by decide +kernel +zetaReduce
  have parsed : callLog (setup.history Scripted.start occasions) =
      [.parse ⟨0, ⟨0⟩⟩ (.ofText "/p/a.CPP") args [] (.value ⟨0, ⟨0, 0⟩⟩)] := by
    decide +kernel +zetaReduce
  have configured := @parses_as_configured _ _ _ _ text config loaded root
    (Simulation.scripted id) .empty (.start .start) _ _ _ rfl occasions
  refine ⟨loaded, parsed, configured ⟨0, ⟨0⟩⟩ _ _ [] (.value ⟨0, ⟨0, 0⟩⟩) ?_⟩
  exact List.mem_append_right _ (parsed ▸ List.mem_cons_self)

end SourceIndex
