import SourceIndex.Cache.Basic
import SourceIndex.Config.FileArguments
import SourceIndex.Config.Load

/-!
# Blueprints

A cache is described clause by clause, and for each thing the last clause that says something
about it counts. Building creates the context, and then sets its global options if there are any.
-/

namespace SourceIndex

/-! ## Clauses -/

/-- Something that is said about a cache to be built. -/
inductive Clause (ω : Type) where
  | verbosity (level : UInt8)
  | provider (provider : ω → Path → List String)
  | overlay (overlay : ω → List Buffer)
  | inbox (inbox : InboxId)
  | excludeDeclarationsFromPch (exclude : Bool)
  | displayDiagnostics (display : Bool)
  | globalOptions (options : GlobalOptions)
  | settings (settings : Settings)

/-- The clauses for a cache that asks `provider` for arguments. -/
def Clause.plain {ω : Type} (provider : ω → Path → List String) (verbosity : UInt8) :
    List (Clause ω) :=
  [.provider provider, .verbosity verbosity]

/-- The provider of what a configuration says about the files of the project at `root`. -/
def Clause.configured {ω : Type} (arguments : Arguments) (root : Path) : Clause ω :=
  .provider fun _ path => arguments.resolve root path

/-- The clauses for a cache by the configuration of the project at `root`. -/
def Clause.ofConfig {ω : Type} (config : Config) (root : Path) : List (Clause ω) :=
  [.settings config.index, .configured config.arguments root]

/-! ## Errors -/

/-- The index itself could not be set up. -/
structure SetupError where
  message : String
  deriving DecidableEq, Repr

def SetupError.shown (error : SetupError) : String := "internal index error: " ++ error.message

/-- Why there is no cache. -/
inductive BuildError where
  | analyzer (message : String)
  | config (error : ConfigError)
  | setup (error : SetupError)
  deriving DecidableEq, Repr

/-! ## Blueprints -/

structure Blueprint (ω : Type) where
  provider : Option (ω → Path → List String)
  overlay : Option (ω → List Buffer)
  inbox : Option InboxId
  verbosity : UInt8
  excludeDeclarationsFromPch : Bool
  displayDiagnostics : Option Bool
  globalOptions : Option GlobalOptions

namespace Blueprint

variable {ω σ κ υ : Type}

def blank : Blueprint ω := ⟨none, none, none, 0, false, none, none⟩

/-- Settings without global options say nothing about them. -/
def withSettings (plan : Blueprint ω) (settings : Settings) : Blueprint ω :=
  { plan with
    verbosity := settings.verbosity
    excludeDeclarationsFromPch := settings.excludeDeclarationsFromPch
    displayDiagnostics := some settings.displays
    globalOptions :=
      if settings.globalOptions = [] then plan.globalOptions
      else some (.ofOptions settings.globalOptions) }

def add (plan : Blueprint ω) : Clause ω → Blueprint ω
  | .verbosity level => { plan with verbosity := level }
  | .provider provider => { plan with provider := some provider }
  | .overlay overlay => { plan with overlay := some overlay }
  | .inbox inbox => { plan with inbox := some inbox }
  | .excludeDeclarationsFromPch exclude => { plan with excludeDeclarationsFromPch := exclude }
  | .displayDiagnostics display => { plan with displayDiagnostics := some display }
  | .globalOptions options => { plan with globalOptions := some options }
  | .settings settings => plan.withSettings settings

def ofClauses (clauses : List (Clause ω)) : Blueprint ω := clauses.foldl add blank

/-! ## Building -/

/-- Unless it is set, the analyzer displays its diagnostics exactly when the cache is verbose. -/
def contextOptions (plan : Blueprint ω) : ContextOptions where
  excludeDeclarationsFromPch := plan.excludeDeclarationsFromPch
  displayDiagnostics := plan.displayDiagnostics.getD (0 < plan.verbosity)

/-- Without an overlay there are no buffers. -/
def setup (plan : Blueprint ω) (analyzer : Analyzer ω σ κ υ) : Setup ω σ κ υ where
  analyzer := analyzer
  provider := plan.provider
  overlay := plan.overlay.getD fun _ => Buffers.empty.toList
  inbox := plan.inbox
  verbosity := plan.verbosity

def noContext (message : String) : SetupError :=
  ⟨"analyzer could not create an index context: " ++ message⟩

def setOptions (plan : Blueprint ω) (analyzer : Analyzer ω σ κ υ) (world : ω)
    (context : Owned κ) : AnalyzerAct σ κ υ Unit :=
  match plan.globalOptions with
  | none => pure ()
  | some options => do
    let context ← context.get "context"
    analyzer.callSetGlobalOptions world context options

def build (plan : Blueprint ω) (analyzer : Analyzer ω σ κ υ) (world : ω) :
    AnalyzerAct σ κ υ (Except SetupError (Cache ω σ κ υ)) := do
  match ← analyzer.callCreateContext world plan.contextOptions with
  | .error message => pure (.error (noContext message))
  | .ok context =>
    plan.setOptions analyzer world (.hold context)
    pure (.ok ⟨plan.setup analyzer, some (.hold context), .empty⟩)

end Blueprint

end SourceIndex
