import SourceIndex.Cache.Shared
import SourceIndex.Inbox
import SourceIndex.Simulation.Command

/-!
# Sessions

A session changes the world, builds caches and sends them requests, one command at a time. It
holds its cache itself, or the cache is the shared one.
-/

namespace SourceIndex.Simulation

/-- How a session holds its cache. -/
inductive Holder (σ κ υ : Type) where
  | own (cache : Option (Cache World σ κ υ))
  | shared (process : SharedCache World σ κ υ)

structure Session (σ κ υ : Type) where
  world : World
  analyzer : AnalyzerState σ
  inbox : Inbox
  holder : Holder σ κ υ

/-- An action of a session. -/
abbrev SessionAct (σ κ υ α : Type) := Act (Session σ κ υ) (Effect κ υ) α

namespace Holder

variable {σ κ υ : Type}

def cache? : Holder σ κ υ → Option (Cache World σ κ υ)
  | .own cache => cache
  | .shared process => process.slot.map (·.enter)

/-- The holder without its cache. -/
def emptied : Holder σ κ υ → Holder σ κ υ
  | .own _ => .own none
  | .shared _ => .shared .empty

end Holder

namespace Session

variable {σ κ υ α : Type}

def start (engine : Engine σ κ υ) (holder : Holder σ κ υ) (clock : Clock) : Session σ κ υ :=
  ⟨.start clock, .start engine.start, .empty, holder⟩

def inboxId : InboxId := ⟨0⟩

def cache? (session : Session σ κ υ) : Option (Cache World σ κ υ) := session.holder.cache?

/-! ## Parts of a session -/

def onAnalyzer (act : AnalyzerAct σ κ υ α) : SessionAct σ κ υ α :=
  act.onPart (·.analyzer) fun session analyzer => { session with analyzer }

def onShared (shared : SharedCache World σ κ υ) (act : SharedAct World σ κ υ α) :
    SessionAct σ κ υ α :=
  act.onPart (fun session => ⟨session.analyzer, shared⟩) fun session state =>
    { session with analyzer := state.analyzer, holder := .shared state.shared }

def setHolder (holder : Holder σ κ υ) : SessionAct σ κ υ Unit :=
  Act.modify fun session => { session with holder }

def changeWorld (change : World → World) : SessionAct σ κ υ (Reply υ) := do
  Act.modify fun session => { session with world := change session.world }
  pure .done

/-- Changes the buffers and tells something about them. -/
def changeBuffers (change : Buffers → Buffers) (reply : Buffers → Reply υ) :
    SessionAct σ κ υ (Reply υ) := do
  discard (changeWorld (World.changeBuffers change))
  let session ← Act.state
  pure (reply session.world.buffers)

/-! ## Building -/

/-- Gets an analyzer, reads the plan, and builds. -/
def make (engine : Engine σ κ υ) (world : World) (command : BuildCommand) :
    AnalyzerAct σ κ υ (Except BuildError (Cache World σ κ υ)) := do
  match ← engine.provide world command.library with
  | .error error => pure (.error error)
  | .ok analyzer =>
    match command.plan with
    | .error error => pure (.error error)
    | .ok clauses =>
      let built ← (Blueprint.ofClauses clauses).build analyzer world
      pure (built.mapError .setup)

def opening (engine : Engine σ κ υ) (world : World) (command : BuildCommand) :
    Opening World σ κ υ :=
  let make := Opening.make (make engine world command)
  if command.race then .after make make else make

def build (engine : Engine σ κ υ) (command : BuildCommand) : SessionAct σ κ υ (Reply υ) := do
  let session ← Act.state
  match session.holder with
  | .own (some _) => pure .alreadyBuilt
  | .own none =>
    match ← onAnalyzer (make engine session.world command) with
    | .error error => pure (.notBuilt error)
    | .ok cache =>
      setHolder (.own (some cache))
      pure .built
  | .shared shared =>
    let opening := opening engine session.world command
    match ← onShared shared (SharedCache.obtain session.world .inOrder opening) with
    | .error error => pure (.notBuilt error)
    | .ok () => pure .built

/-- Lets go of the cache. A shared cache leaves an empty place. -/
def dropCache : SessionAct σ κ υ (Reply υ) := do
  let session ← Act.state
  setHolder session.holder.emptied
  match session.cache? with
  | none => pure .done
  | some cache =>
    onAnalyzer (cache.drop session.world .inOrder)
    pure .done

/-- Ends the process as far as the shared cache goes. -/
def exit (policy : ExitPolicy) : SessionAct σ κ υ (Reply υ) := do
  let session ← Act.state
  match session.holder with
  | .own _ => pure .done
  | .shared shared =>
    pure (.flag (← onShared shared (SharedCache.exit session.world .inOrder policy)))

/-! ## Using the cache -/

/-- Runs an action on the cache, if there is one. -/
def use (act : Setup World σ κ υ → CacheAct σ κ υ α) : SessionAct σ κ υ (Option α) := do
  let session ← Act.state
  match session.holder with
  | .own none => pure none
  | .own (some cache) =>
    let (result, left) ← onAnalyzer (cache.run act)
    setHolder (.own (some left))
    some <$> Act.resume result
  | .shared shared => onShared shared (SharedCache.use act)

/-- Asks the cache, which finds the world as it is. -/
def request (reply : α → Reply υ) (act : Setup World σ κ υ → World → CacheAct σ κ υ α) :
    SessionAct σ κ υ (Reply υ) := do
  let session ← Act.state
  let answer ← use fun setup => act setup session.world
  pure ((answer.map reply).getD .noCache)

/-- Looks at the cache, if there is one. -/
def look (reply : Cache World σ κ υ → World → Reply υ) : SessionAct σ κ υ (Reply υ) := do
  let session ← Act.state
  pure ((session.cache?.map fun cache => reply cache session.world).getD .noCache)

def infoOf (path : Path) (cache : Cache World σ κ υ) : FileInfo :=
  ⟨cache.isIndexed path, cache.args? path, cache.time? path⟩

def statusOf (cache : Cache World σ κ υ) (world : World) : Status :=
  ⟨cache.length, cache.setup.verbosity, cache.isDestroyed, cache.setup.overlay world⟩

def done (_ : Unit) : Reply υ := .done

/-! ## Reading the inbox -/

def readInbox (reply : Inbox → Reply υ) : SessionAct σ κ υ (Reply υ) := do
  let session ← Act.state
  pure (reply session.inbox)

def takeInbox : SessionAct σ κ υ (Reply υ) := do
  let session ← Act.state
  let (taken, inbox) := session.inbox.takeAll
  Act.modify fun session => { session with inbox }
  pure (.diagnostics taken)

/-! ## Commands -/

/-- Does what a command says. -/
def obey (engine : Engine σ κ υ) : Command → SessionAct σ κ υ (Reply υ)
  | .touch path time => changeWorld (World.changeFiles fun files => files.touch path time [])
  | .makeDirectory path time =>
    changeWorld (World.changeFiles fun files => files.makeDirectory path time)
  | .removeFile path => changeWorld (World.changeFiles fun files => files.remove path)
  | .setArgs path args => changeWorld (World.setArgs path args)
  | .setMode entry mode =>
    changeWorld fun world => { world with script := world.script.set entry mode }
  | .setStub change => changeWorld fun world => { world with stub := world.stub.change change }
  | .updateBuffer path contents => changeBuffers (·.update path contents) (.number ·.length)
  | .removeBuffer path => changeBuffers (·.remove path) (.number ·.length)
  | .removeBuffers => changeBuffers Buffers.removeAll (.flag ·.isEmpty)
  | .inbox => readInbox (.diagnostics ·.waiting)
  | .inboxFor path => readInbox fun inbox => .diagnostics (inbox.waitingFor path)
  | .takeInbox => takeInbox
  | .errors => readInbox fun inbox => .errors inbox.hasErrors inbox.errorCount
  | .build command => build engine command
  | .drop => dropCache
  | .isMade => do
    let session ← Act.state
    pure (.flag session.cache?.isSome)
  | .exit policy => exit policy
  | .serve path force => request .unit fun setup world => setup.serve world.moment path force
  | .prime path => request done fun setup world => setup.prime world.moment path
  | .reprime path => request done fun setup world => setup.reprime world.moment path
  | .remove path => request done fun setup world => setup.remove world path
  | .removeAll => request done fun setup world => setup.removeAll world .inOrder
  | .destroy => request done fun setup world => setup.destroy world .inOrder
  | .lendAll => request .units fun setup _ => setup.lendAll .inOrder
  | .info path => look fun cache _ => .info (infoOf path cache)
  | .status => look fun cache world => .status (statusOf cache world)
  | .globalOptions => request .options fun setup world => setup.globalOptions world
  | .setGlobalOptions options =>
    request done fun setup world => setup.setGlobalOptions world options

/-! ## Running -/

/-- The diagnostics that an action reported to the session's inbox. -/
def reported : List (Effect κ υ) → List Diagnostic
  | [] => []
  | .diagnostic inbox diagnostic :: rest =>
    if inbox = inboxId then diagnostic :: reported rest else reported rest
  | .call _ :: rest | .event _ :: rest => reported rest

/-- Runs an action of a session. What it reports reaches the inbox. -/
def run (session : Session σ κ υ) (act : SessionAct σ κ υ α) :
    Ran (Session σ κ υ) (Effect κ υ) α :=
  let ran := act.run session
  let inbox := (reported ran.effects).foldl Inbox.add ran.state.inbox
  { ran with state := { ran.state with inbox } }

end Session

end SourceIndex.Simulation
