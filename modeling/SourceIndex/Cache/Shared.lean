import SourceIndex.Cache.Blueprint

/-!
# The shared cache

One cache for the whole process, made when it is first asked for. The first cache that is made
is kept for good: another one that comes too late is dropped. When the process ends the cache is
usually left alone, since some analyzers do not survive their own disposal.
-/

namespace SourceIndex

/-! ## Locks -/

/-- A value behind a lock. A panic while the lock is held poisons it. -/
structure Locked (α : Type) where
  value : α
  poisoned : Bool

namespace Locked

variable {α β : Type}

def fresh (value : α) : Locked α := ⟨value, false⟩

/-- What stands behind the lock, also when it is poisoned. -/
def enter (locked : Locked α) : α := locked.value

/-- Leaves `value` behind the lock once something has ended with `result`. -/
def leave (locked : Locked α) (value : α) (result : Except Payload β) : Locked α :=
  ⟨value, locked.poisoned || !result.isOk⟩

end Locked

/-! ## The slot -/

/-- A place for one cache that may be there already. -/
structure SharedCache (ω σ κ υ : Type) where
  slot : Option (Locked (Cache ω σ κ υ))

/-- The state of the shared cache and of the analyzer. -/
structure SharedState (ω σ κ υ : Type) where
  analyzer : AnalyzerState σ
  shared : SharedCache ω σ κ υ

/-- How a cache is made. -/
inductive Opening (ω σ κ υ : Type) where
  | make (make : AnalyzerAct σ κ υ (Except BuildError (Cache ω σ κ υ)))
  /-- Asks for the shared cache itself before it makes its own. -/
  | after (inner outer : Opening ω σ κ υ)

/-- An action of the shared cache. -/
abbrev SharedAct (ω σ κ υ α : Type) := Act (SharedState ω σ κ υ) (Effect κ υ) α

namespace SharedCache

variable {ω σ κ υ α : Type}

def empty : SharedCache ω σ κ υ := ⟨none⟩

def isMade (shared : SharedCache ω σ κ υ) : Bool := shared.slot.isSome

/-- An action that does not look at the slot. -/
def outside (act : AnalyzerAct σ κ υ α) : SharedAct ω σ κ υ α :=
  act.onPart (·.analyzer) fun s analyzer => { s with analyzer }

def setSlot (locked : Locked (Cache ω σ κ υ)) : SharedAct ω σ κ υ Unit :=
  Act.modify fun s => { s with shared := ⟨some locked⟩ }

/-! ## Getting the cache -/

/-- Puts a cache into the slot, or drops it when another one is there. -/
def offer (world : ω) (walk : Walk (Path × Entry υ)) (cache : Cache ω σ κ υ) :
    SharedAct ω σ κ υ Unit := do
  let s ← Act.state
  match s.shared.slot with
  | none => setSlot (.fresh cache)
  | some _ => outside (cache.drop world walk)

def slotEmpty : BuildError := .setup ⟨"process index slot empty after initialization"⟩

/-- Makes sure that there is a cache. One is made only for an empty slot. -/
def ensure (world : ω) (walk : Walk (Path × Entry υ))
    (make : SharedAct ω σ κ υ (Except BuildError (Cache ω σ κ υ))) :
    SharedAct ω σ κ υ (Except BuildError Unit) := do
  let s ← Act.state
  if s.shared.isMade then pure (.ok ())
  else
    match ← make with
    | .error error => pure (.error error)
    | .ok cache =>
      offer world walk cache
      let s ← Act.state
      pure (if s.shared.isMade then .ok () else .error slotEmpty)

/-- Makes a cache. What comes of an inner request does not matter. -/
def make (world : ω) (walk : Walk (Path × Entry υ)) :
    Opening ω σ κ υ → SharedAct ω σ κ υ (Except BuildError (Cache ω σ κ υ))
  | .make make => outside make
  | .after inner outer => do
    let _ ← ensure world walk (make world walk inner)
    make world walk outer

/-- Gets the cache, which is made by `opening` on first use. -/
def obtain (world : ω) (walk : Walk (Path × Entry υ)) (opening : Opening ω σ κ υ) :
    SharedAct ω σ κ υ (Except BuildError Unit) :=
  ensure world walk (make world walk opening)

/-! ## Using the cache -/

/-- Runs an action on the cache, if there is one. A panic leaves the cache usable. -/
def use (act : Setup ω σ κ υ → CacheAct σ κ υ α) : SharedAct ω σ κ υ (Option α) := do
  let s ← Act.state
  match s.shared.slot with
  | none => pure none
  | some locked =>
    let (result, left) ← outside (locked.enter.run act)
    setSlot (locked.leave left result)
    some <$> Act.resume result

/-! ## The end of the process -/

/-- Follows the policy. The answer tells whether anything was disposed. -/
def exit (world : ω) (walk : Walk (Path × Entry υ)) (policy : ExitPolicy) :
    SharedAct ω σ κ υ Bool := do
  let s ← Act.state
  match s.shared.slot, policy with
  | none, _ => pure false
  | some _, .leak =>
    Act.emit (.event ⟨.debug, "leaving process index alive until exit", []⟩)
    pure false
  | some locked, .dispose =>
    discard (use fun setup => setup.destroy world walk)
    pure (!locked.enter.isDestroyed)

end SharedCache

end SourceIndex
