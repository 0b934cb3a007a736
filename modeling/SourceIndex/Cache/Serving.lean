import SourceIndex.Cache.Disposal

/-!
# Serving units

A request is a hit when neither the arguments nor the file have changed. When only the file has,
the unit is reparsed in place. Otherwise an old unit is disposed and the file is parsed anew.
-/

namespace SourceIndex

/-! ## What a request has to do -/

inductive Action where
  | hit
  | forcedReparse
  | changedOnDisk
  | rebuild
  deriving DecidableEq, Repr

/-- What is to be done for a file with these arguments, written at this time. -/
def Action.needed {υ : Type} (cached : Option (Entry υ)) (args : List String) (time : FileTime)
    (force : Bool) : Action :=
  match cached with
  | none => rebuild
  | some entry =>
    if entry.args ≠ args then rebuild
    else if force then forcedReparse
    else if entry.isCurrent args time then hit
    else changedOnDisk

/-- From this verbosity on the compiler is asked to be verbose too. -/
def verboseCompiler : UInt8 := 2

namespace Setup

variable {ω σ κ υ : Type}

/-- The arguments of a file, and nothing if it is not to be indexed. -/
def argsFor? (setup : Setup ω σ κ υ) (world : ω) (path : Path) : Option (List String) :=
  match setup.provider with
  | none => some []
  | some provider =>
    let args := provider world path
    if args = [] then none else some args

/-- The arguments as the analyzer gets them. -/
def parseArgs (setup : Setup ω σ κ υ) (args : List String) : List String :=
  if verboseCompiler ≤ setup.verbosity then args ++ ["-v"] else args

/-! ## Lending -/

/-- Lends out the unit of an entry. -/
def lendEntry (setup : Setup ω σ κ υ) (entry : Entry υ) : CacheAct σ κ υ (LentUnit ω υ) := do
  let unit ← entry.unit.get "unit"
  pure ⟨entry.path, unit, setup.overlay⟩

/-- Lends out the unit of a file. -/
def lend (setup : Setup ω σ κ υ) (path : Path) : CacheAct σ κ υ (Option (LentUnit ω υ)) := do
  let s ← Act.state
  match s.table.find? path with
  | none => pure none
  | some entry => some <$> setup.lendEntry entry

/-- All units as they are, without a look at their files. -/
def lendAll (setup : Setup ω σ κ υ) (walk : Walk (Entry υ)) :
    CacheAct σ κ υ (List (LentUnit ω υ)) := do
  let s ← Act.state
  (walk.arrange s.table.values).mapM setup.lendEntry

/-! ## Bringing up to date -/

/-- Reparses a unit in place. If that fails the unit stays, as out of date as before. -/
def refresh (setup : Setup ω σ κ υ) (world : ω) (path : Path) (time : FileTime)
    (reason : String) : CacheAct σ κ υ (Option (LentUnit ω υ)) := do
  setup.announce path reason
  let s ← Act.state
  match s.table.find? path with
  | none => pure none
  | some entry =>
    let unit ← entry.unit.get "unit"
    let (after, answer) ←
      CacheAct.call (setup.analyzer.callReparse world unit (setup.overlay world))
    let keep (entry : Entry υ) : CacheAct σ κ υ Unit :=
      CacheAct.setTable (s.table.insert path { entry with unit := .hold after })
    match answer with
    | .value () =>
      keep { entry with time }
      setup.conclude path "reparsed"
      setup.lend path
    | .fault message =>
      keep entry
      setup.fail (.reparseFailed path message)
    | .panic payload =>
      keep entry
      Act.raise payload

/-! ## Parsing anew -/

/-- Keeps a unit. Whatever was kept for the file before is dropped. -/
def store (setup : Setup ω σ κ υ) (world : ω) (path : Path) (entry : Entry υ) :
    CacheAct σ κ υ Unit := do
  let s ← Act.state
  CacheAct.setTable (s.table.insert path entry)
  match s.table.find? path with
  | none => pure ()
  | some replaced => CacheAct.call (replaced.unit.dropUnit setup.analyzer world)

/-- Parses a file from scratch. The old unit goes first, so a file never has two. -/
def parseAnew (setup : Setup ω σ κ υ) (world : ω) (path : Path) (args : List String)
    (time : FileTime) : CacheAct σ κ υ (Option (LentUnit ω υ)) := do
  setup.remove world path
  let s ← Act.state
  match s.context with
  | none => setup.fail (.destroyed path)
  | some context =>
    setup.announce path "creating new index"
    let context ← context.get "context"
    match ← CacheAct.call (setup.analyzer.callParse world context path (setup.parseArgs args)
        (setup.overlay world)) with
    | .ok unit =>
      setup.store world path ⟨path, args, time, .hold unit⟩
      setup.conclude path "parsed"
      setup.lend path
    | .error message => setup.fail (.parseFailed path message)

/-! ## Requests -/

/-- Serves an up-to-date unit for a file. -/
def serve (setup : Setup ω σ κ υ) (moment : Moment ω) (path : Path) (force : Bool) :
    CacheAct σ κ υ (Option (LentUnit ω υ)) := do
  setup.announce path "indexing"
  match setup.argsFor? moment.world path with
  | none =>
    CacheAct.log (.about path .trace "not indexable")
    pure none
  | some args =>
    match moment.fileTime path with
    | .error fault => setup.fail (.unreadable path fault)
    | .ok time =>
      let s ← Act.state
      match Action.needed (s.table.find? path) args time force with
      | .hit =>
        setup.conclude path "index already up to date"
        setup.lend path
      | .forcedReparse => setup.refresh moment.world path time "forced reparse"
      | .changedOnDisk =>
        setup.refresh moment.world path time "file changed on disk, reparsing"
      | .rebuild => setup.parseAnew moment.world path args time

/-- Parses a file ahead of its first use. A file that is cached is left alone. -/
def prime (setup : Setup ω σ κ υ) (moment : Moment ω) (path : Path) : CacheAct σ κ υ Unit := do
  let s ← Act.state
  if s.table.contains path then pure ()
  else discard (setup.serve moment path false)

/-- Brings a cached file up to date. A file that is not cached is left alone. -/
def reprime (setup : Setup ω σ κ υ) (moment : Moment ω) (path : Path) : CacheAct σ κ υ Unit := do
  let s ← Act.state
  if s.table.contains path then discard (setup.serve moment path false)
  else pure ()

/-! ## Global options -/

/-- A destroyed cache has no options. -/
def globalOptions (setup : Setup ω σ κ υ) (world : ω) : CacheAct σ κ υ GlobalOptions := do
  let s ← Act.state
  match s.context with
  | none => pure .none
  | some context =>
    let context ← context.get "context"
    CacheAct.call (setup.analyzer.callGlobalOptions world context)

def setGlobalOptions (setup : Setup ω σ κ υ) (world : ω) (options : GlobalOptions) :
    CacheAct σ κ υ Unit := do
  let s ← Act.state
  match s.context with
  | none => pure ()
  | some context =>
    let context ← context.get "context"
    CacheAct.call (setup.analyzer.callSetGlobalOptions world context options)

end Setup

end SourceIndex
