import SourceIndex.Cache.Setup

/-!
# Disposing what is cached

Whatever the analyzer answers, and even if it panics, a unit that was to be disposed is gone
afterwards. The order in which many units are disposed may be any.
-/

namespace SourceIndex.Setup

variable {ω σ κ υ : Type}

def disposeEntry (setup : Setup ω σ κ υ) (world : ω) (entry : Entry υ) :
    CacheAct σ κ υ Unit := do
  let outcome ← Act.attempt (CacheAct.call (entry.unit.disposeUnit setup.analyzer world))
  setup.noteDisposal ("translation unit " ++ entry.path.shown) outcome

/-- Removes the unit of a file, if there is one. -/
def remove (setup : Setup ω σ κ υ) (world : ω) (path : Path) : CacheAct σ κ υ Unit := do
  let s ← Act.state
  match s.table.find? path with
  | none => pure ()
  | some entry =>
    CacheAct.setTable (s.table.erase path)
    setup.announce path "removing index"
    setup.disposeEntry world entry

/-- Disposes a unit that is in the table no longer. -/
def disposeCached (setup : Setup ω σ κ υ) (world : ω) (cached : Path × Entry υ) :
    CacheAct σ κ υ Unit := do
  setup.announce cached.1 "removing index"
  setup.disposeEntry world cached.2

def removeAll (setup : Setup ω σ κ υ) (world : ω) (walk : Walk (Path × Entry υ)) :
    CacheAct σ κ υ Unit := do
  let s ← Act.state
  CacheAct.setTable .empty
  Act.each (setup.disposeCached world) (walk.arrange s.table.entries)

/-- Disposes every unit and then the context. Nothing is left to do the second time. -/
def destroy (setup : Setup ω σ κ υ) (world : ω) (walk : Walk (Path × Entry υ)) :
    CacheAct σ κ υ Unit := do
  setup.removeAll world walk
  let s ← Act.state
  match s.context with
  | none => pure ()
  | some context =>
    Act.modify fun s => { s with context := none }
    let outcome ← Act.attempt (CacheAct.call (context.disposeContext setup.analyzer world))
    setup.noteDisposal "index context" outcome

end SourceIndex.Setup
