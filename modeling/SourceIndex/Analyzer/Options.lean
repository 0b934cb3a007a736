import SourceIndex.Text.Quoted

/-!
# Options of an analyzer

How a context is created, and which threads of the analyzer run at background priority.
-/

namespace SourceIndex

/-- How a context is created. -/
structure ContextOptions where
  excludeDeclarationsFromPch : Bool
  displayDiagnostics : Bool
  deriving DecidableEq, Repr

/-- A set of bits that say which threads run at background priority. -/
structure GlobalOptions where
  bits : UInt32
  deriving DecidableEq, Repr

/-- An option as a configuration names it. -/
inductive GlobalOption where
  | backgroundIndexing
  | backgroundEditing
  deriving DecidableEq, Repr

namespace GlobalOptions

/-! ## The known sets -/

def none : GlobalOptions := ⟨0⟩

def indexingInBackground : GlobalOptions := ⟨1⟩

def editingInBackground : GlobalOptions := ⟨2⟩

def allInBackground : GlobalOptions := ⟨3⟩

/-! ## As sets -/

def union (a b : GlobalOptions) : GlobalOptions := ⟨a.bits ||| b.bits⟩

/-- Whether every bit of `b` is in `a`. -/
def contains (a b : GlobalOptions) : Bool := a.bits &&& b.bits == b.bits

def ofOption : GlobalOption → GlobalOptions
  | .backgroundIndexing => indexingInBackground
  | .backgroundEditing => editingInBackground

def ofOptions (options : List GlobalOption) : GlobalOptions :=
  options.foldl (fun set option => set.union (ofOption option)) none

/-! ## Shown -/

def shown (options : GlobalOptions) : String :=
  "GlobalOptions(0x" ++ Text.hexLower options.bits.toNat ++ ")"

end GlobalOptions

end SourceIndex
