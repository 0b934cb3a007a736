import SourceIndex.Path.Table

/-!
# Buffers

The editor's unsaved buffers, which stand in for the files on disk. There is one buffer for a
path, however the path is spelled, and it keeps the spelling of its first update.
-/

namespace SourceIndex

structure Buffer where
  path : Path
  contents : String
  deriving DecidableEq, Repr

structure Buffers where
  table : PathTable String

namespace Buffers

def empty : Buffers := ⟨.empty⟩

def update (b : Buffers) (path : Path) (contents : String) : Buffers :=
  ⟨b.table.insert path contents⟩

def remove (b : Buffers) (path : Path) : Buffers := ⟨b.table.erase path⟩

def removeAll (_ : Buffers) : Buffers := empty

def contents? (b : Buffers) (path : Path) : Option String := b.table.find? path

def length (b : Buffers) : Nat := b.table.length

def isEmpty (b : Buffers) : Bool := b.length == 0

/-- All buffers, ordered by their paths. -/
def toList (b : Buffers) : List Buffer :=
  b.table.entries.map fun (path, contents) => ⟨path, contents⟩

@[simp] theorem length_toList (b : Buffers) : b.toList.length = b.length := by
  simp [toList, length, SortedTable.length]

end Buffers

end SourceIndex
