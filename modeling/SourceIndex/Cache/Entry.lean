import SourceIndex.Analyzer.Ownership
import SourceIndex.File.Time

/-!
# Cached units

What the cache remembers about a file: its unit, and what the unit was made from. Other arguments
make another unit, another time only makes the unit out of date.
-/

namespace SourceIndex

/-! ## Entries -/

structure Entry (υ : Type) where
  path : Path
  args : List String
  time : FileTime
  unit : Owned υ
  deriving DecidableEq

namespace Entry

variable {υ : Type}

/-- Whether the unit can be served as it is. -/
def isCurrent (entry : Entry υ) (args : List String) (time : FileTime) : Bool :=
  entry.args == args && entry.time == time

end Entry

/-! ## Lent units -/

/-- A unit that is lent out, for its file as the cache spells it. It sees the editor's buffers as
they are at the time of a query. -/
structure LentUnit (ω υ : Type) where
  path : Path
  unit : Handle υ
  overlay : ω → List Buffer

namespace LentUnit

variable {ω υ α : Type}

def buffers (lent : LentUnit ω υ) (world : ω) : List Buffer := lent.overlay world

/-- Asks the unit something, with the buffers at hand. -/
def ask (lent : LentUnit ω υ) (world : ω) (query : υ → List Buffer → α) : α :=
  query lent.unit.value (lent.overlay world)

def shown (lent : LentUnit ω υ) : String :=
  "TranslationUnit \x7b path: " ++ lent.path.quoted ++ ", .. \x7d"

end LentUnit

end SourceIndex
