import SourceIndex.Config.Basic
import SourceIndex.Proofs.Tables

/-!
# Tables with texts for keys

Two texts are one key only if they are one text.
-/

namespace SourceIndex

theorem Text.sameKey_iff {a b : String} : SameKey Text.Before a b ↔ a = b := by
  constructor
  · intro same
    exact String.le_antisymm (String.not_lt.1 same.2) (String.not_lt.1 same.1)
  · rintro rfl
    exact .refl a

namespace SortedTable

variable {α : Type}

theorem find?_erase_of_ne (table : Dictionary α) {key other : String} (ne : other ≠ key) :
    (table.erase key).find? other = table.find? other :=
  find?_erase_of_not_same table fun same => ne (Text.sameKey_iff.1 same).symm

end SortedTable

end SourceIndex
