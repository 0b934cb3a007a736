import SourceIndex.Cache.Basic
import SourceIndex.Simulation.Files
import SourceIndex.Simulation.Script
import SourceIndex.Simulation.Stub

/-!
# The world of a session

Everything around the cache that may change between two requests.
-/

namespace SourceIndex.Simulation

structure World where
  files : Files
  /-- The arguments of every path that has none of its own. -/
  defaultArgs : List String
  /-- The arguments of single paths, by how they are written. -/
  argsOf : List (Path × List String)
  script : Script
  stub : StubSettings
  buffers : Buffers

namespace World

def start (clock : Clock) : World := ⟨.start clock, [], [], .empty, .start, .empty⟩

def moment (world : World) : Moment World := ⟨world.files.fileTime, world⟩

def args (world : World) (path : Path) : List String :=
  ((world.argsOf.find? (·.1 == path)).map (·.2)).getD world.defaultArgs

def overlay (world : World) : List Buffer := world.buffers.toList

/-! ## Changes -/

def changeFiles (change : Files → Files) (world : World) : World :=
  { world with files := change world.files }

def changeBuffers (change : Buffers → Buffers) (world : World) : World :=
  { world with buffers := change world.buffers }

/-- New arguments for one path, or for all that have none of their own. -/
def setArgs (path : Option Path) (args : List String) (world : World) : World :=
  match path with
  | none => { world with defaultArgs := args }
  | some path =>
    { world with argsOf := (path, args) :: world.argsOf.filter (·.1 != path) }

end World

end SourceIndex.Simulation
