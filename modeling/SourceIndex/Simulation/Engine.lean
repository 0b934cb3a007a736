import SourceIndex.Cache.Blueprint
import SourceIndex.Native.Adapter
import SourceIndex.Simulation.World

/-!
# Engines

Where a session gets its analyzer from: it follows a script, or it stands on the stub of the
native library, which has to be loaded first.
-/

namespace SourceIndex.Simulation

/-- Which library an analyzer is loaded from. -/
inductive LibraryChoice where
  /-- A build on the shelf. -/
  | build (name : String)
  | usual
  | named (name : Path)
  deriving DecidableEq, Repr

structure Engine (σ κ υ : Type) where
  start : σ
  provide : World → LibraryChoice →
    AnalyzerAct σ κ υ (Except BuildError (Analyzer World σ κ υ))

def scriptedEngine : Engine ScriptedState ScriptedContext ScriptedUnit where
  start := .start
  provide _ _ := pure (.ok (scripted (·.script)))

/-! ## The native engine -/

def loadChoice {σ κ υ : Type} (world : World) :
    LibraryChoice → Act σ (Effect κ υ) (Except Native.LoadFault Unit)
  | .build name => Native.load shelfLoader (onShelf name)
  | .usual => Native.loadDefault (loader world.files)
  | .named name => Native.load (loader world.files) name

def nativeEngine : Engine (Native.State StubState) Native.IndexRef Native.UnitRef where
  start := ⟨.start, []⟩
  provide world choice := do
    match ← loadChoice world choice with
    | .error fault => pure (.error (.analyzer fault.message))
    | .ok () => pure (.ok (stub (·.stub)).analyzer)

end SourceIndex.Simulation
