import SourceIndex.Cache.Serving

/-!
# Caches

A cache as a value, apart from its analyzer, whose state may be shared.
-/

namespace SourceIndex

structure Cache (ω σ κ υ : Type) where
  setup : Setup ω σ κ υ
  context : Option (Owned κ)
  table : PathTable (Entry υ)

namespace Cache

variable {ω σ κ υ α : Type}

/-! ## Looking -/

def isDestroyed (cache : Cache ω σ κ υ) : Bool := cache.context.isNone

def length (cache : Cache ω σ κ υ) : Nat := cache.table.length

def isIndexed (cache : Cache ω σ κ υ) (path : Path) : Bool := cache.table.contains path

/-- The arguments that the unit of a file was parsed with. -/
def args? (cache : Cache ω σ κ υ) (path : Path) : Option (List String) :=
  (cache.table.find? path).map (·.args)

/-- The time of the file that its unit is up to date with. -/
def time? (cache : Cache ω σ κ υ) (path : Path) : Option FileTime :=
  (cache.table.find? path).map (·.time)

/-! ## Using -/

/-- Runs an action on a cache. The answer comes with the cache as the action left it, also when
it panicked. -/
def run (cache : Cache ω σ κ υ) (act : Setup ω σ κ υ → CacheAct σ κ υ α) :
    AnalyzerAct σ κ υ (Except Payload α × Cache ω σ κ υ) :=
  ⟨fun analyzer =>
    let ran := (act cache.setup).run ⟨analyzer, cache.context, cache.table⟩
    let left := { cache with context := ran.state.context, table := ran.state.table }
    ⟨.ok (ran.result, left), ran.effects, ran.state.analyzer⟩⟩

/-- A cache that nobody holds any longer destroys itself. -/
def drop (cache : Cache ω σ κ υ) (world : ω) (walk : Walk (Path × Entry υ)) :
    AnalyzerAct σ κ υ Unit := do
  let (result, _) ← cache.run fun setup => setup.destroy world walk
  Act.resume result

end Cache

end SourceIndex
