import SourceIndex.Proofs.Cache.Runs

/-!
# Fallbacks

A cache asks for handles that it holds and for entries that it has just seen. Where one were missing
nonetheless it has something to fall back on. Here anything may stand in these places, so that it can
be told whether they are ever reached. With what the cache itself has there, these are its requests.
-/

namespace SourceIndex

variable {ω σ κ υ : Type}

/-! ## What stands in these places -/

structure Fallbacks (ω σ κ υ : Type) where
  unitGone : CacheAct σ κ υ (Handle υ)
  contextGone : CacheAct σ κ υ (Handle κ)
  unitDisposed : CacheAct σ κ υ (Except String Unit)
  contextDisposed : CacheAct σ κ υ (Except String Unit)
  notLent : CacheAct σ κ υ (Option (LentUnit ω υ))
  notRefreshed : CacheAct σ κ υ (Option (LentUnit ω υ))
  /-- What becomes of an entry in whose place another one is kept. -/
  replaced : Entry υ → CacheAct σ κ υ Unit

namespace Fallbacks

/-- What the cache itself falls back on. -/
def asWritten (analyzer : Analyzer ω σ κ υ) (world : ω) : Fallbacks ω σ κ υ where
  unitGone := Act.raise (Owned.handedBack "unit")
  contextGone := Act.raise (Owned.handedBack "context")
  unitDisposed := pure (.ok ())
  contextDisposed := pure (.ok ())
  notLent := pure none
  notRefreshed := pure none
  replaced entry := CacheAct.call (entry.unit.dropUnit analyzer world)

variable (fallbacks : Fallbacks ω σ κ υ) (setup : Setup ω σ κ υ)

/-! ## Handles -/

def unitOf (owned : Owned υ) : CacheAct σ κ υ (Handle υ) :=
  match owned.held with
  | some unit => pure unit
  | none => fallbacks.unitGone

def contextOf (owned : Owned κ) : CacheAct σ κ υ (Handle κ) :=
  match owned.held with
  | some context => pure context
  | none => fallbacks.contextGone

def disposeUnit (world : ω) (owned : Owned υ) : CacheAct σ κ υ (Except String Unit) :=
  match owned.held with
  | some unit => CacheAct.call (setup.analyzer.callDisposeUnit world unit .explicit)
  | none => fallbacks.unitDisposed

def disposeContext (world : ω) (owned : Owned κ) : CacheAct σ κ υ (Except String Unit) :=
  match owned.held with
  | some context => CacheAct.call (setup.analyzer.callDisposeContext world context .explicit)
  | none => fallbacks.contextDisposed

/-! ## Lending -/

def lendEntry (entry : Entry υ) : CacheAct σ κ υ (LentUnit ω υ) := do
  let unit ← fallbacks.unitOf entry.unit
  pure ⟨entry.path, unit, setup.overlay⟩

def lend (path : Path) : CacheAct σ κ υ (Option (LentUnit ω υ)) := do
  let s ← Act.state
  match s.table.find? path with
  | none => fallbacks.notLent
  | some entry => some <$> fallbacks.lendEntry setup entry

def lendAll (walk : Walk (Entry υ)) : CacheAct σ κ υ (List (LentUnit ω υ)) := do
  let s ← Act.state
  (walk.arrange s.table.values).mapM (fallbacks.lendEntry setup)

/-! ## Disposing -/

def disposeEntry (world : ω) (entry : Entry υ) : CacheAct σ κ υ Unit := do
  let outcome ← Act.attempt (fallbacks.disposeUnit setup world entry.unit)
  setup.noteDisposal ("translation unit " ++ entry.path.shown) outcome

def remove (world : ω) (path : Path) : CacheAct σ κ υ Unit := do
  let s ← Act.state
  match s.table.find? path with
  | none => pure ()
  | some entry =>
    CacheAct.setTable (s.table.erase path)
    setup.announce path "removing index"
    fallbacks.disposeEntry setup world entry

def disposeCached (world : ω) (cached : Path × Entry υ) : CacheAct σ κ υ Unit := do
  setup.announce cached.1 "removing index"
  fallbacks.disposeEntry setup world cached.2

def removeAll (world : ω) (walk : Walk (Path × Entry υ)) : CacheAct σ κ υ Unit := do
  let s ← Act.state
  CacheAct.setTable .empty
  Act.each (fallbacks.disposeCached setup world) (walk.arrange s.table.entries)

def destroy (world : ω) (walk : Walk (Path × Entry υ)) : CacheAct σ κ υ Unit := do
  fallbacks.removeAll setup world walk
  let s ← Act.state
  match s.context with
  | none => pure ()
  | some context =>
    Act.modify fun s => { s with context := none }
    let outcome ← Act.attempt (fallbacks.disposeContext setup world context)
    setup.noteDisposal "index context" outcome

def drop (cache : Cache ω σ κ υ) (world : ω) (walk : Walk (Path × Entry υ)) :
    AnalyzerAct σ κ υ Unit := do
  let (result, _) ← cache.run fun setup => fallbacks.destroy setup world walk
  Act.resume result

def letGo (world : ω) (walk : Walk (Path × Entry υ)) : CacheAct σ κ υ Unit :=
  ⟨fun s =>
    let cache : Cache ω σ κ υ := ⟨setup, s.context, s.table⟩
    let ran := (fallbacks.drop cache world walk).run s.analyzer
    ⟨ran.result, ran.effects, ⟨ran.state, none, .empty⟩⟩⟩

/-! ## Serving -/

def refresh (world : ω) (path : Path) (time : FileTime) (reason : String) :
    CacheAct σ κ υ (Option (LentUnit ω υ)) := do
  setup.announce path reason
  let s ← Act.state
  match s.table.find? path with
  | none => fallbacks.notRefreshed
  | some entry =>
    let unit ← fallbacks.unitOf entry.unit
    let (after, answer) ←
      CacheAct.call (setup.analyzer.callReparse world unit (setup.overlay world))
    let keep (entry : Entry υ) : CacheAct σ κ υ Unit :=
      CacheAct.setTable (s.table.insert path { entry with unit := .hold after })
    match answer with
    | .value () =>
      keep { entry with time }
      setup.conclude path "reparsed"
      fallbacks.lend setup path
    | .fault message =>
      keep entry
      setup.fail (.reparseFailed path message)
    | .panic payload =>
      keep entry
      Act.raise payload

def store (path : Path) (entry : Entry υ) : CacheAct σ κ υ Unit := do
  let s ← Act.state
  CacheAct.setTable (s.table.insert path entry)
  match s.table.find? path with
  | none => pure ()
  | some replaced => fallbacks.replaced replaced

def parseAnew (world : ω) (path : Path) (args : List String) (time : FileTime) :
    CacheAct σ κ υ (Option (LentUnit ω υ)) := do
  fallbacks.remove setup world path
  let s ← Act.state
  match s.context with
  | none => setup.fail (.destroyed path)
  | some context =>
    setup.announce path "creating new index"
    let context ← fallbacks.contextOf context
    match ← CacheAct.call (setup.analyzer.callParse world context path (setup.parseArgs args)
        (setup.overlay world)) with
    | .ok unit =>
      fallbacks.store path ⟨path, args, time, .hold unit⟩
      setup.conclude path "parsed"
      fallbacks.lend setup path
    | .error message => setup.fail (.parseFailed path message)

def serve (moment : Moment ω) (path : Path) (force : Bool) :
    CacheAct σ κ υ (Option (LentUnit ω υ)) := do
  setup.announce path "indexing"
  match setup.argsFor? moment.world path with
  | none =>
    CacheAct.log (.about path .trace "not indexable")
    pure none
  | some args =>
    match moment.fileTime path with
    | .error fault => setup.fail (.unreadable path fault)
    | .ok time =>
      let s ← Act.state
      match Action.needed (s.table.find? path) args time force with
      | .hit =>
        setup.conclude path "index already up to date"
        fallbacks.lend setup path
      | .forcedReparse => fallbacks.refresh setup moment.world path time "forced reparse"
      | .changedOnDisk =>
        fallbacks.refresh setup moment.world path time "file changed on disk, reparsing"
      | .rebuild => fallbacks.parseAnew setup moment.world path args time

def prime (moment : Moment ω) (path : Path) : CacheAct σ κ υ Unit := do
  let s ← Act.state
  if s.table.contains path then pure ()
  else discard (fallbacks.serve setup moment path false)

def reprime (moment : Moment ω) (path : Path) : CacheAct σ κ υ Unit := do
  let s ← Act.state
  if s.table.contains path then discard (fallbacks.serve setup moment path false)
  else pure ()

/-! ## Requests -/

def globalOptions (world : ω) : CacheAct σ κ υ GlobalOptions := do
  let s ← Act.state
  match s.context with
  | none => pure .none
  | some context =>
    let context ← fallbacks.contextOf context
    CacheAct.call (setup.analyzer.callGlobalOptions world context)

def setGlobalOptions (world : ω) (options : GlobalOptions) : CacheAct σ κ υ Unit := do
  let s ← Act.state
  match s.context with
  | none => pure ()
  | some context =>
    let context ← fallbacks.contextOf context
    CacheAct.call (setup.analyzer.callSetGlobalOptions world context options)

def act (moment : Moment ω) : Request υ → CacheAct σ κ υ (Response ω υ)
  | .serve path force => .unit <$> fallbacks.serve setup moment path force
  | .prime path => Request.done <$> fallbacks.prime setup moment path
  | .reprime path => Request.done <$> fallbacks.reprime setup moment path
  | .remove path => Request.done <$> fallbacks.remove setup moment.world path
  | .removeAll walk => Request.done <$> fallbacks.removeAll setup moment.world walk
  | .destroy walk => Request.done <$> fallbacks.destroy setup moment.world walk
  | .drop walk => Request.done <$> fallbacks.letGo setup moment.world walk
  | .lendAll walk => .units <$> fallbacks.lendAll setup walk
  | .globalOptions => .options <$> fallbacks.globalOptions setup moment.world
  | .setGlobalOptions options => Request.done <$> fallbacks.setGlobalOptions setup moment.world options

/-- A run of the cache where each world may have other fallbacks. -/
def history (fallbacks : ω → Fallbacks ω σ κ υ) (s : CacheState σ κ υ) :
    List (Occasion ω υ) → List (Step ω σ κ υ)
  | [] => []
  | occasion :: rest =>
    let ran := ((fallbacks occasion.moment.world).act setup occasion.moment occasion.request).run s
    ⟨occasion, ran⟩ :: history fallbacks ran.state rest

/-! ## The cache itself -/

section

variable (setup : Setup ω σ κ υ) (world : ω)

theorem disposeUnit_asWritten (owned : Owned υ) :
    (asWritten setup.analyzer world).disposeUnit setup world owned =
      CacheAct.call (owned.disposeUnit setup.analyzer world) := by
  obtain ⟨_ | unit⟩ := owned <;> rfl

theorem disposeContext_asWritten (owned : Owned κ) :
    (asWritten setup.analyzer world).disposeContext setup world owned =
      CacheAct.call (owned.disposeContext setup.analyzer world) := by
  obtain ⟨_ | context⟩ := owned <;> rfl

theorem disposeEntry_asWritten :
    (asWritten setup.analyzer world).disposeEntry setup world = setup.disposeEntry world := by
  funext entry
  rw [disposeEntry, disposeUnit_asWritten]
  rfl

theorem remove_asWritten :
    (asWritten setup.analyzer world).remove setup world = setup.remove world := by
  funext path
  unfold remove
  rw [disposeEntry_asWritten]
  rfl

theorem removeAll_asWritten :
    (asWritten setup.analyzer world).removeAll setup world = setup.removeAll world := by
  funext walk
  unfold removeAll disposeCached
  rw [disposeEntry_asWritten]
  rfl

theorem destroy_asWritten :
    (asWritten setup.analyzer world).destroy setup world = setup.destroy world := by
  funext walk
  unfold destroy
  simp only [removeAll_asWritten, disposeContext_asWritten]
  rfl

theorem letGo_asWritten :
    (asWritten setup.analyzer world).letGo setup world = setup.letGo world := by
  funext walk
  unfold letGo drop Setup.letGo Cache.drop Cache.run
  simp only [destroy_asWritten]

theorem store_asWritten :
    (asWritten setup.analyzer world).store = setup.store world := rfl

theorem parseAnew_asWritten :
    (asWritten setup.analyzer world).parseAnew setup world = setup.parseAnew world := by
  funext path args time
  unfold parseAnew
  rw [remove_asWritten]
  rfl

theorem serve_asWritten (moment : Moment ω) :
    (asWritten setup.analyzer moment.world).serve setup moment = setup.serve moment := by
  funext path force
  unfold serve
  rw [parseAnew_asWritten]
  rfl

theorem act_asWritten (moment : Moment ω) (request : Request υ) :
    (asWritten setup.analyzer moment.world).act setup moment request =
      request.act setup moment := by
  cases request with
  | serve path force => rw [act, serve_asWritten, Request.act]
  | prime path =>
    rw [act, prime, serve_asWritten]
    rfl
  | reprime path =>
    rw [act, reprime, serve_asWritten]
    rfl
  | remove path => rw [act, remove_asWritten, Request.act]
  | removeAll walk => rw [act, removeAll_asWritten, Request.act]
  | destroy walk => rw [act, destroy_asWritten, Request.act]
  | drop walk => rw [act, letGo_asWritten, Request.act]
  | lendAll walk => rfl
  | globalOptions => rfl
  | setGlobalOptions options => rfl

end

end Fallbacks

end SourceIndex
