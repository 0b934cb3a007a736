import SourceIndex.Cache.Entry
import SourceIndex.Cache.Failure

/-!
# What a cache works with

What never changes about a cache, what does, and how it logs and reports what it does. No failure
leaves a request: it is reported, and there is no unit.
-/

namespace SourceIndex

/-! ## Setup and state -/

/-- What a request finds: the times of the files, and everything else in the world. -/
structure Moment (ω : Type) where
  fileTime : Path → Except FileFault FileTime
  world : ω

/-- What never changes about a cache. -/
structure Setup (ω σ κ υ : Type) where
  analyzer : Analyzer ω σ κ υ
  /-- The arguments of a file, and none for a file that is not to be indexed. Without a provider
  every file is parsed without arguments. -/
  provider : Option (ω → Path → List String)
  overlay : ω → List Buffer
  inbox : Option InboxId
  verbosity : UInt8

/-- The state of a cache and its analyzer. The context is gone once the cache is destroyed. -/
structure CacheState (σ κ υ : Type) where
  analyzer : AnalyzerState σ
  context : Option (Owned κ)
  table : PathTable (Entry υ)

/-- An order in which a table without order may be gone through. -/
structure Walk (α : Type) where
  arrange : List α → List α
  perm : ∀ list, (arrange list).Perm list

def Walk.inOrder {α : Type} : Walk α := ⟨id, fun _ => .refl _⟩

/-! ## Actions -/

/-- An action of a cache. -/
abbrev CacheAct (σ κ υ α : Type) := Act (CacheState σ κ υ) (Effect κ υ) α

namespace CacheAct

variable {σ κ υ α : Type}

/-- A call to the analyzer. -/
def call (act : AnalyzerAct σ κ υ α) : CacheAct σ κ υ α :=
  act.onPart (·.analyzer) fun s analyzer => { s with analyzer }

def setTable (table : PathTable (Entry υ)) : CacheAct σ κ υ Unit :=
  Act.modify fun s => { s with table }

def log (event : Event) : CacheAct σ κ υ Unit := Act.emit (.event event)

end CacheAct

namespace Setup

variable {ω σ κ υ : Type}

/-! ## Logging -/

def isVerbose (setup : Setup ω σ κ υ) : Bool := 0 < setup.verbosity

/-- Says what is being done. A cache that is not verbose is silent. -/
def announce (setup : Setup ω σ κ υ) (path : Path) (message : String) : CacheAct σ κ υ Unit :=
  if setup.isVerbose then CacheAct.log (.about path .info message) else pure ()

/-- Says how a request ended. How long it took is left out. -/
def conclude (setup : Setup ω σ κ υ) (path : Path) (outcome : String) : CacheAct σ κ υ Unit :=
  CacheAct.log (.about path (if setup.isVerbose then .info else .trace) outcome)

/-! ## Reporting -/

/-- Logs a failure and puts it into the inbox. -/
def tell (setup : Setup ω σ κ υ) (level : Level) (failure : Failure) : CacheAct σ κ υ Unit := do
  CacheAct.log ⟨level, failure.message, []⟩
  match setup.inbox with
  | some inbox => Act.emit (.diagnostic inbox failure.diagnostic)
  | none => pure ()

/-- A request failed. -/
def fail (setup : Setup ω σ κ υ) (failure : Failure) :
    CacheAct σ κ υ (Option (LentUnit ω υ)) := do
  setup.tell .error failure
  pure none

def panicReason : Payload → String
  | .text message => "analyzer panicked: " ++ message
  | .unreadable => "analyzer panicked"

/-- What went wrong with a disposal. -/
def disposalFault? : Except Payload (Except String Unit) → Option String
  | .ok (.ok ()) => none
  | .ok (.error message) => some message
  | .error payload => some (panicReason payload)

/-- Reports how a disposal went wrong, if it did. -/
def noteDisposal (setup : Setup ω σ κ υ) (what : String)
    (outcome : Except Payload (Except String Unit)) : CacheAct σ κ υ Unit :=
  match disposalFault? outcome with
  | none => pure ()
  | some reason => setup.tell .warn (.disposeFailed what reason)

end Setup

end SourceIndex
