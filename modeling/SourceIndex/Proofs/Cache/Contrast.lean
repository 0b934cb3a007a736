import SourceIndex.Proofs.Alike
import SourceIndex.Proofs.Cache.Reports

/-!
# Caches of different verbosity

Two caches that differ in their verbosity only, with an analyzer that answers the same whether or not
it is asked to be verbose, do the same. One may say more about it than the other.
-/

namespace SourceIndex

variable {ω σ κ υ α : Type}

/-- The flag that asks a compiler to be verbose. -/
def verboseFlag (verbose : Bool) : List String := if verbose then ["-v"] else []

def Setup.withVerbosity (setup : Setup ω σ κ υ) (verbosity : UInt8) : Setup ω σ κ υ :=
  { setup with verbosity }

/-! ## Contrasts -/

/-- Two verbosities, and how what an analyzer remembers at the one may differ from what it
remembers at the other. What was said about displaying diagnostics holds for both. -/
structure Contrast (σ : Type) where
  inner : σ → σ → Prop
  verbosity : UInt8
  verbosity' : UInt8
  display? : Option Bool

namespace Contrast

variable (contrast : Contrast σ)

inductive Calls : Call κ υ → Call κ υ → Prop
  | createContext (exclude : Bool) {display display' : Bool} (answer : Answer (Handle κ))
      (said : ∀ b, contrast.display? = some b → display = b ∧ display' = b) :
      Calls (.createContext ⟨exclude, display⟩ answer) (.createContext ⟨exclude, display'⟩ answer)
  | parse (context : Handle κ) (path : Path) (own : List String) (buffers : List Buffer)
      (answer : Answer (Handle υ)) :
      Calls (.parse context path (own ++ verboseFlag (2 ≤ contrast.verbosity)) buffers answer)
        (.parse context path (own ++ verboseFlag (2 ≤ contrast.verbosity')) buffers answer)
  | reparse (unit : Handle υ) (buffers : List Buffer) (after : υ) (answer : Answer Unit) :
      Calls (.reparse unit buffers after answer) (.reparse unit buffers after answer)
  | disposeUnit (unit : Handle υ) (release : Release) (answer : Answer Unit) :
      Calls (.disposeUnit unit release answer) (.disposeUnit unit release answer)
  | disposeContext (context : Handle κ) (release : Release) (answer : Answer Unit) :
      Calls (.disposeContext context release answer) (.disposeContext context release answer)
  | globalOptions (context : Handle κ) (options : GlobalOptions) :
      Calls (.globalOptions context options) (.globalOptions context options)
  | setGlobalOptions (context : Handle κ) (options : GlobalOptions) :
      Calls (.setGlobalOptions context options) (.setGlobalOptions context options)

/-- Warnings, errors and diagnostics are the same. -/
inductive Effects : Effect κ υ → Effect κ υ → Prop
  | call {call call' : Call κ υ} (calls : contrast.Calls call call') :
      Effects (.call call) (.call call')
  | event (event : Event) (serious : event.level = .warn ∨ event.level = .error) :
      Effects (.event event) (.event event)
  | diagnostic (inbox : InboxId) (diagnostic : Diagnostic) :
      Effects (.diagnostic inbox diagnostic) (.diagnostic inbox diagnostic)

structure Analyzers (a a' : AnalyzerState σ) : Prop where
  inner : contrast.inner a.inner a'.inner
  units : a'.units = a.units
  contexts : a'.contexts = a.contexts

/-- Both caches hold the same records and the same context. -/
structure States (s s' : CacheState σ κ υ) : Prop where
  analyzer : contrast.Analyzers s.analyzer s'.analyzer
  context : s'.context = s.context
  table : s'.table = s.table

end Contrast

/-- Whether or not it is asked to be verbose the analyzer answers the same. What it remembers may
differ, as long as that does not matter later. -/
structure Analyzer.IgnoresVerbosity (analyzer : Analyzer ω σ κ υ) (alike : σ → σ → Prop) :
    Prop where
  createContext : ∀ world exclude display display' {inner inner'}, alike inner inner' →
    ∃ answer left left',
      analyzer.createContext world ⟨exclude, display⟩ inner = (answer, left) ∧
        analyzer.createContext world ⟨exclude, display'⟩ inner' = (answer, left') ∧
        alike left left'
  parse : ∀ world context path args verbose verbose' buffers {inner inner'}, alike inner inner' →
    ∃ answer left left',
      analyzer.parse world context path (args ++ verboseFlag verbose) buffers inner =
          (answer, left) ∧
        analyzer.parse world context path (args ++ verboseFlag verbose') buffers inner' =
          (answer, left') ∧
        alike left left'
  reparse : ∀ world unit buffers {inner inner'}, alike inner inner' →
    ∃ answer after left left',
      analyzer.reparse world unit buffers inner = (answer, after, left) ∧
        analyzer.reparse world unit buffers inner' = (answer, after, left') ∧ alike left left'
  disposeUnit : ∀ world unit {inner inner'}, alike inner inner' →
    ∃ answer left left',
      analyzer.disposeUnit world unit inner = (answer, left) ∧
        analyzer.disposeUnit world unit inner' = (answer, left') ∧ alike left left'
  disposeContext : ∀ world context {inner inner'}, alike inner inner' →
    ∃ answer left left',
      analyzer.disposeContext world context inner = (answer, left) ∧
        analyzer.disposeContext world context inner' = (answer, left') ∧ alike left left'
  globalOptions : ∀ world context {inner inner'}, alike inner inner' →
    ∃ options left left',
      analyzer.globalOptions world context inner = (options, left) ∧
        analyzer.globalOptions world context inner' = (options, left') ∧ alike left left'
  setGlobalOptions : ∀ world context options {inner inner'}, alike inner inner' →
    alike (analyzer.setGlobalOptions world context options inner)
      (analyzer.setGlobalOptions world context options inner')

namespace Contrast

variable {contrast : Contrast σ} {analyzer : Analyzer ω σ κ υ}

/-! ## Calls -/

variable (contrast) in
abbrev Calling (act act' : AnalyzerAct σ κ υ α) : Prop :=
  Act.Alike contrast.Analyzers contrast.Effects Eq act act'

theorem calling_createContext (ignores : analyzer.IgnoresVerbosity contrast.inner) (world : ω)
    (exclude : Bool) {display display' : Bool}
    (said : ∀ b, contrast.display? = some b → display = b ∧ display' = b) :
    contrast.Calling (analyzer.callCreateContext world ⟨exclude, display⟩)
      (analyzer.callCreateContext world ⟨exclude, display'⟩) := by
  intro a a' start
  obtain ⟨answer, left, left', answered, answered', inner⟩ :=
    ignores.createContext world exclude display display' start.inner
  simp only [Analyzer.callCreateContext, answered, answered', start.contexts]
  exact ⟨.refl _, .cons (.call (.createContext exclude _ said)) .nil, ⟨inner, start.units, rfl⟩⟩

theorem calling_parse (ignores : analyzer.IgnoresVerbosity contrast.inner) (world : ω)
    (context : Handle κ) (path : Path) (own : List String) (buffers : List Buffer) :
    contrast.Calling
      (analyzer.callParse world context path (own ++ verboseFlag (2 ≤ contrast.verbosity)) buffers)
      (analyzer.callParse world context path (own ++ verboseFlag (2 ≤ contrast.verbosity'))
        buffers) := by
  intro a a' start
  obtain ⟨answer, left, left', answered, answered', inner⟩ := ignores.parse world context.value
    path own (2 ≤ contrast.verbosity) (2 ≤ contrast.verbosity') buffers start.inner
  simp only [Analyzer.callParse, answered, answered', start.units]
  exact ⟨.refl _, .cons (.call (.parse context path own buffers _)) .nil,
    ⟨inner, rfl, start.contexts⟩⟩

theorem calling_reparse (ignores : analyzer.IgnoresVerbosity contrast.inner) (world : ω)
    (unit : Handle υ) (buffers : List Buffer) :
    contrast.Calling (analyzer.callReparse world unit buffers)
      (analyzer.callReparse world unit buffers) := by
  intro a a' start
  obtain ⟨answer, after, left, left', answered, answered', inner⟩ :=
    ignores.reparse world unit.value buffers start.inner
  simp only [Analyzer.callReparse, answered, answered']
  exact ⟨.ok rfl, .cons (.call (.reparse unit buffers after answer)) .nil,
    ⟨inner, start.units, start.contexts⟩⟩

theorem calling_disposeUnit (ignores : analyzer.IgnoresVerbosity contrast.inner) (world : ω)
    (unit : Handle υ) (release : Release) :
    contrast.Calling (analyzer.callDisposeUnit world unit release)
      (analyzer.callDisposeUnit world unit release) := by
  intro a a' start
  obtain ⟨answer, left, left', answered, answered', inner⟩ :=
    ignores.disposeUnit world unit.value start.inner
  simp only [Analyzer.callDisposeUnit, answered, answered']
  exact ⟨.refl _, .cons (.call (.disposeUnit unit release answer)) .nil,
    ⟨inner, start.units, start.contexts⟩⟩

theorem calling_disposeContext (ignores : analyzer.IgnoresVerbosity contrast.inner) (world : ω)
    (context : Handle κ) (release : Release) :
    contrast.Calling (analyzer.callDisposeContext world context release)
      (analyzer.callDisposeContext world context release) := by
  intro a a' start
  obtain ⟨answer, left, left', answered, answered', inner⟩ :=
    ignores.disposeContext world context.value start.inner
  simp only [Analyzer.callDisposeContext, answered, answered']
  exact ⟨.refl _, .cons (.call (.disposeContext context release answer)) .nil,
    ⟨inner, start.units, start.contexts⟩⟩

theorem calling_globalOptions (ignores : analyzer.IgnoresVerbosity contrast.inner) (world : ω)
    (context : Handle κ) :
    contrast.Calling (analyzer.callGlobalOptions (υ := υ) world context)
      (analyzer.callGlobalOptions world context) := by
  intro a a' start
  obtain ⟨options, left, left', answered, answered', inner⟩ :=
    ignores.globalOptions world context.value start.inner
  simp only [Analyzer.callGlobalOptions, answered, answered']
  exact ⟨.ok rfl, .cons (.call (.globalOptions context options)) .nil,
    ⟨inner, start.units, start.contexts⟩⟩

theorem calling_setGlobalOptions (ignores : analyzer.IgnoresVerbosity contrast.inner) (world : ω)
    (context : Handle κ) (options : GlobalOptions) :
    contrast.Calling (analyzer.callSetGlobalOptions (υ := υ) world context options)
      (analyzer.callSetGlobalOptions world context options) := by
  intro a a' start
  have inner := ignores.setGlobalOptions world context.value options start.inner
  exact ⟨.ok rfl, .cons (.call (.setGlobalOptions context options)) .nil,
    ⟨inner, start.units, start.contexts⟩⟩

/-! ## Owned units and contexts -/

theorem calling_ownedUnit (ignores : analyzer.IgnoresVerbosity contrast.inner) (world : ω)
    (owned : Owned υ) :
    contrast.Calling (owned.disposeUnit analyzer world) (owned.disposeUnit analyzer world) := by
  unfold Owned.disposeUnit
  cases owned.held with
  | none => exact .pure rfl
  | some unit => exact calling_disposeUnit ignores world unit .explicit

theorem calling_dropUnit (ignores : analyzer.IgnoresVerbosity contrast.inner) (world : ω)
    (owned : Owned υ) :
    contrast.Calling (owned.dropUnit analyzer world) (owned.dropUnit analyzer world) := by
  unfold Owned.dropUnit
  cases owned.held with
  | none => exact .pure rfl
  | some unit =>
    refine (calling_disposeUnit ignores world unit .dropped).bind ?_
    rintro outcome - rfl
    cases outcome with
    | ok => exact .pure rfl
    | error message => exact .emit (.event _ (.inl rfl))

theorem calling_ownedContext (ignores : analyzer.IgnoresVerbosity contrast.inner) (world : ω)
    (owned : Owned κ) :
    contrast.Calling (owned.disposeContext analyzer world)
      (owned.disposeContext analyzer world) := by
  unfold Owned.disposeContext
  cases owned.held with
  | none => exact .pure rfl
  | some context => exact calling_disposeContext ignores world context .explicit

/-! ## Actions of a cache -/

variable (contrast) in
/-- As far as it is heard both actions do alike. -/
abbrev Acts (values : α → α → Prop) (act act' : CacheAct σ κ υ α) : Prop :=
  Act.AlikeHeard Effect.isLoud contrast.States contrast.Effects values act act'

variable (contrast) in
/-- At both verbosities the cache does alike and ends with the same. -/
abbrev Same (setup : Setup ω σ κ υ) (act : Setup ω σ κ υ → CacheAct σ κ υ α) : Prop :=
  contrast.Acts Eq (act (setup.withVerbosity contrast.verbosity))
    (act (setup.withVerbosity contrast.verbosity'))

theorem isLoud_eq (effect effect' : Effect κ υ) (alike : contrast.Effects effect effect') :
    effect.isLoud = effect'.isLoud := by
  cases alike <;> rfl

theorem acts_call {act act' : AnalyzerAct σ κ υ α} (calling : contrast.Calling act act') :
    contrast.Acts Eq (CacheAct.call act) (CacheAct.call act') := by
  refine .of_alike isLoud_eq ?_
  intro s s' start
  obtain ⟨ended, done, left⟩ := calling s.analyzer s'.analyzer start.analyzer
  exact ⟨ended, done, ⟨left, start.context, start.table⟩⟩

variable (setup : Setup ω σ κ υ)

theorem same_emit {effect : Effect κ υ} (alike : contrast.Effects effect effect) :
    contrast.Same setup fun _ => Act.emit effect :=
  .of_alike isLoud_eq (.emit alike)

theorem same_setTable (table : PathTable (Entry υ)) :
    contrast.Same setup fun _ => CacheAct.setTable table :=
  .modify fun _ _ start => ⟨start.analyzer, start.context, rfl⟩

theorem same_get (owned : Owned α) (what : String) :
    contrast.Same setup fun _ => owned.get what := by
  unfold Owned.get
  cases owned.held with
  | none => exact .raise _
  | some handle => exact .pure rfl

/-! ## Logging and reporting -/

theorem same_of_unheard {act : Setup ω σ κ υ → CacheAct σ κ υ Unit}
    (unheard : ∀ setup s, ((act setup).hear Effect.isLoud).run s = ⟨.ok (), [], s⟩) :
    contrast.Same setup act := by
  intro s s' start
  rw [unheard, unheard]
  exact ⟨.ok rfl, .nil, start⟩

theorem same_announce (path : Path) (message : String) :
    contrast.Same setup (·.announce path message) := by
  refine same_of_unheard setup fun setup s => ?_
  unfold Setup.announce
  split <;> rfl

theorem same_conclude (path : Path) (outcome : String) :
    contrast.Same setup (·.conclude path outcome) := by
  refine same_of_unheard setup fun setup s => ?_
  unfold Setup.conclude
  split <;> rfl

theorem same_tell {level : Level} (serious : level = .warn ∨ level = .error)
    (failure : Failure) : contrast.Same setup (·.tell level failure) := by
  refine .bind (same_emit setup (.event _ serious)) fun _ _ _ => ?_
  simp only [Setup.withVerbosity]
  cases setup.inbox with
  | none => exact .pure rfl
  | some inbox => exact same_emit setup (.diagnostic inbox _)

theorem same_fail (failure : Failure) : contrast.Same setup (·.fail failure) :=
  .bind (same_tell setup (.inr rfl) failure) fun _ _ _ => .pure rfl

theorem same_noteDisposal (what : String) (outcome : Except Payload (Except String Unit)) :
    contrast.Same setup (·.noteDisposal what outcome) := by
  unfold Setup.noteDisposal
  cases Setup.disposalFault? outcome with
  | none => exact .pure rfl
  | some reason => exact same_tell setup (.inl rfl) _

/-! ## Disposing -/

variable {setup} (ignores : setup.analyzer.IgnoresVerbosity contrast.inner) (world : ω)

include ignores

theorem same_disposeEntry (entry : Entry υ) :
    contrast.Same setup (·.disposeEntry world entry) := by
  have disposed : contrast.Same setup fun setup =>
      CacheAct.call (entry.unit.disposeUnit setup.analyzer world) :=
    acts_call (calling_ownedUnit ignores world entry.unit)
  refine .bind disposed.attempt fun outcome outcome' ended => ?_
  rw [ended.eq]
  exact same_noteDisposal setup _ _

theorem same_remove (path : Path) : contrast.Same setup (·.remove world path) := by
  refine .bind .state fun s s' start => ?_
  rw [start.table]
  cases s.table.find? path with
  | none => exact .pure rfl
  | some entry =>
    exact .bind (same_setTable setup _) fun _ _ _ =>
      .bind (same_announce setup path _) fun _ _ _ => same_disposeEntry ignores world entry

theorem same_removeAll (walk : Walk (Path × Entry υ)) :
    contrast.Same setup (·.removeAll world walk) := by
  refine .bind .state fun s s' start => .bind (same_setTable setup _) fun _ _ _ => ?_
  rw [start.table]
  refine .each (fun cached => ?_) _
  exact .bind (same_announce setup cached.1 _) fun _ _ _ =>
    same_disposeEntry ignores world cached.2

theorem same_destroy (walk : Walk (Path × Entry υ)) :
    contrast.Same setup (·.destroy world walk) := by
  refine .bind (same_removeAll ignores world walk) fun _ _ _ => .bind .state fun s s' start => ?_
  rw [start.context]
  cases s.context with
  | none => exact .pure rfl
  | some context =>
    refine .bind (.modify fun _ _ start => ⟨start.analyzer, rfl, start.table⟩) fun _ _ _ => ?_
    have disposed : contrast.Same setup fun setup =>
        CacheAct.call (context.disposeContext setup.analyzer world) :=
      acts_call (calling_ownedContext ignores world context)
    refine .bind disposed.attempt fun outcome outcome' ended => ?_
    rw [ended.eq]
    exact same_noteDisposal setup _ _

theorem same_letGo (walk : Walk (Path × Entry υ)) : contrast.Same setup (·.letGo world walk) := by
  have as_destroyed (setup : Setup ω σ κ υ) (s : CacheState σ κ υ) :
      (setup.letGo world walk).run s = ⟨((setup.destroy world walk).run s).result,
        ((setup.destroy world walk).run s).effects,
        ⟨((setup.destroy world walk).run s).state.analyzer, none, .empty⟩⟩ := by
    simp only [Setup.letGo, Cache.drop, Cache.run, Act.run_bind]
    obtain ⟨_ | _, effects, left⟩ := (setup.destroy world walk).run s <;>
      simp [Act.andThen_ok, Act.resume]
  intro s s' start
  obtain ⟨ended, done, left⟩ := same_destroy ignores world walk s s' start
  simp only [Act.hear, as_destroyed] at ended done left ⊢
  exact ⟨ended, done, ⟨left.analyzer, rfl, rfl⟩⟩

omit ignores

/-! ## Lending -/

variable (setup)

theorem same_lendEntry (entry : Entry υ) : contrast.Same setup (·.lendEntry entry) := by
  refine .bind (same_get setup entry.unit _) ?_
  rintro unit - rfl
  exact .pure rfl

theorem same_lend (path : Path) : contrast.Same setup (·.lend path) := by
  refine .bind .state fun s s' start => ?_
  rw [start.table]
  cases s.table.find? path with
  | none => exact .pure rfl
  | some entry => exact .map (same_lendEntry setup entry) fun _ _ same => congrArg some same

theorem same_lendAll (walk : Walk (Entry υ)) : contrast.Same setup (·.lendAll walk) := by
  refine .bind .state fun s s' start => ?_
  rw [start.table]
  exact .mapM (same_lendEntry setup) _

/-! ## Serving -/

variable {setup}

include ignores

theorem same_refresh (path : Path) (time : FileTime) (reason : String) :
    contrast.Same setup (·.refresh world path time reason) := by
  refine .bind (same_announce setup path reason) fun _ _ _ => .bind .state fun s s' start => ?_
  rw [start.table]
  cases s.table.find? path with
  | none => exact .pure rfl
  | some entry =>
    refine .bind (same_get setup entry.unit _) ?_
    rintro unit - rfl
    have reparsed : contrast.Same setup fun setup =>
        CacheAct.call (setup.analyzer.callReparse world unit (setup.overlay world)) :=
      acts_call (calling_reparse ignores world unit _)
    refine .bind reparsed ?_
    rintro ⟨after, answer⟩ - rfl
    cases answer with
    | value =>
      exact .bind (same_setTable setup _) fun _ _ _ =>
        .bind (same_conclude setup path _) fun _ _ _ => same_lend setup path
    | fault message =>
      exact .bind (same_setTable setup _) fun _ _ _ => same_fail setup _
    | panic payload => exact .bind (same_setTable setup _) fun _ _ _ => .raise payload

theorem same_store (path : Path) (entry : Entry υ) :
    contrast.Same setup (·.store world path entry) := by
  refine .bind .state fun s s' start => ?_
  rw [start.table]
  refine .bind (same_setTable setup _) fun _ _ _ => ?_
  cases s.table.find? path with
  | none => exact .pure rfl
  | some replaced => exact acts_call (calling_dropUnit ignores world replaced.unit)

omit ignores in
theorem parseArgs_withVerbosity (verbosity : UInt8) (own : List String) :
    (setup.withVerbosity verbosity).parseArgs own = own ++ verboseFlag (2 ≤ verbosity) := by
  simp [Setup.parseArgs_eq, verboseFlag, Setup.withVerbosity]

theorem same_parseAnew (path : Path) (own : List String) (time : FileTime) :
    contrast.Same setup (·.parseAnew world path own time) := by
  refine .bind (same_remove ignores world path) fun _ _ _ => .bind .state fun s s' start => ?_
  rw [start.context]
  cases s.context with
  | none => exact same_fail setup _
  | some owned =>
    refine .bind (same_announce setup path _) fun _ _ _ => .bind (same_get setup owned _) ?_
    rintro context - rfl
    have parsed : contrast.Same setup fun setup => CacheAct.call (setup.analyzer.callParse world
        context path (setup.parseArgs own) (setup.overlay world)) := by
      apply acts_call
      rw [parseArgs_withVerbosity, parseArgs_withVerbosity]
      exact calling_parse ignores world context path own _
    refine .bind parsed ?_
    rintro answer - rfl
    cases answer with
    | error message => exact same_fail setup _
    | ok unit =>
      exact .bind (same_store ignores world path _) fun _ _ _ =>
        .bind (same_conclude setup path _) fun _ _ _ => same_lend setup path

theorem same_serve (moment : Moment ω) (path : Path) (force : Bool) :
    contrast.Same setup (·.serve moment path force) := by
  refine .bind (same_announce setup path _) fun _ _ _ => ?_
  have same_args (verbosity : UInt8) : (setup.withVerbosity verbosity).argsFor? moment.world path =
      setup.argsFor? moment.world path := rfl
  rw [same_args, same_args]
  cases setup.argsFor? moment.world path with
  | none =>
    -- That a file is not to be indexed is said for nobody to hear.
    intro s s' start
    exact ⟨.ok rfl, .nil, start⟩
  | some own =>
    cases moment.fileTime path with
    | error fault => exact same_fail setup _
    | ok time =>
      refine .bind .state fun s s' start => ?_
      rw [start.table]
      cases Action.needed (s.table.find? path) own time force with
      | hit => exact .bind (same_conclude setup path _) fun _ _ _ => same_lend setup path
      | forcedReparse | changedOnDisk => exact same_refresh ignores moment.world path time _
      | rebuild => exact same_parseAnew ignores moment.world path own time

theorem same_prime (moment : Moment ω) (path : Path) :
    contrast.Same setup (·.prime moment path) := by
  refine .bind .state fun s s' start => ?_
  rw [start.table]
  split
  · exact .pure rfl
  · exact (same_serve ignores moment path false).discard

theorem same_reprime (moment : Moment ω) (path : Path) :
    contrast.Same setup (·.reprime moment path) := by
  refine .bind .state fun s s' start => ?_
  rw [start.table]
  split
  · exact (same_serve ignores moment path false).discard
  · exact .pure rfl

theorem same_globalOptions : contrast.Same setup (·.globalOptions world) := by
  refine .bind .state fun s s' start => ?_
  rw [start.context]
  cases s.context with
  | none => exact .pure rfl
  | some owned =>
    refine .bind (same_get setup owned _) ?_
    rintro context - rfl
    exact acts_call (calling_globalOptions ignores world context)

theorem same_setGlobalOptions (options : GlobalOptions) :
    contrast.Same setup (·.setGlobalOptions world options) := by
  refine .bind .state fun s s' start => ?_
  rw [start.context]
  cases s.context with
  | none => exact .pure rfl
  | some owned =>
    refine .bind (same_get setup owned _) ?_
    rintro context - rfl
    exact acts_call (calling_setGlobalOptions ignores world context options)

theorem same_request (moment : Moment ω) (request : Request υ) :
    contrast.Same setup (request.act · moment) := by
  cases request with
  | serve path force =>
    exact .map (same_serve ignores moment path force) fun _ _ => congrArg Response.unit
  | prime path => exact .map (same_prime ignores moment path) fun _ _ _ => rfl
  | reprime path => exact .map (same_reprime ignores moment path) fun _ _ _ => rfl
  | remove path => exact .map (same_remove ignores moment.world path) fun _ _ _ => rfl
  | removeAll walk => exact .map (same_removeAll ignores moment.world walk) fun _ _ _ => rfl
  | destroy walk => exact .map (same_destroy ignores moment.world walk) fun _ _ _ => rfl
  | drop walk => exact .map (same_letGo ignores moment.world walk) fun _ _ _ => rfl
  | lendAll walk => exact .map (same_lendAll setup walk) fun _ _ => congrArg Response.units
  | globalOptions =>
    exact .map (same_globalOptions ignores moment.world) fun _ _ => congrArg Response.options
  | setGlobalOptions options =>
    exact .map (same_setGlobalOptions ignores moment.world options) fun _ _ _ => rfl

end Contrast

end SourceIndex
