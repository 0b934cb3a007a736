import SourceIndex.Path.Basic
import SourceIndex.SortedTable

/-!
# Tables with paths for keys

Two spellings of one path are one key, since the order of paths looks at components only.
-/

namespace SourceIndex

instance Path.keyOrder : KeyOrder Path.Before where
  irrefl p := List.lt_irrefl p.rank
  trans h h' := List.lt_trans h h'
  split {p _} q h :=
    (Decidable.em (p.rank < q.rank)).imp id fun not_less =>
      List.lt_of_le_of_lt (List.not_lt.1 not_less) h

theorem Component.eq_of_rank_eq {a b : Component} (h : a.rank = b.rank) : a = b := by
  have bytes_eq : ∀ {x y : List UInt8}, x.map UInt8.toNat = y.map UInt8.toNat → x = y :=
    fun same => List.map_inj_right (fun _ _ => UInt8.toNat_inj.1) |>.1 same
  cases a <;> cases b <;> simp_all [Component.rank]
  exact bytes_eq h

theorem Path.sameKey_iff_same {p q : Path} : SameKey Path.Before p q ↔ p.Same q := by
  constructor
  · intro same
    have rank_eq : p.rank = q.rank := List.le_antisymm (List.not_lt.1 same.2) (List.not_lt.1 same.1)
    exact List.map_inj_right (fun _ _ => Component.eq_of_rank_eq) |>.1 rank_eq
  · intro same
    have rank_eq : p.rank = q.rank := congrArg (List.map Component.rank) same
    change ¬ p.rank < q.rank ∧ ¬ q.rank < p.rank
    rw [rank_eq]
    exact ⟨List.lt_irrefl _, List.lt_irrefl _⟩

abbrev PathTable (α : Type) := SortedTable Path.Before α

end SourceIndex
