import SourceIndex.Native.Library
import SourceIndex.Proofs.Cache.Accounts
import Mathlib.Data.List.Induction

/-!
# A ledger of what the library made

Each unit and each index that the library made is held by somebody until it is disposed, and only
what is held is handed to the library. A library may use a number again once its owner is gone. As
long as it never gives the number of one that is live, nothing is used that was disposed since it
was made.
-/

namespace SourceIndex.Native

/-! ## Kinds -/

/-- One kind of thing that a library makes: what a call makes, disposes and is about. -/
structure Kind (ρ : Type) where
  made? : Call → Option ρ
  disposed? : Call → Option ρ
  used? : Call → Option ρ
  used_of_disposed : ∀ {call ref}, disposed? call = some ref → used? call = some ref
  /-- Nothing is made and disposed at once. -/
  not_made_of_disposed : ∀ {call ref}, disposed? call = some ref → made? call = none

def Kind.units : Kind UnitRef where
  made?
    | .parse _ made => made
    | _ => none
  disposed?
    | .disposeUnit unit => some unit
    | _ => none
  used?
    | .defaultReparseOptions unit => some unit
    | .reparse request _ => some request.unit
    | .disposeUnit unit => some unit
    | _ => none
  used_of_disposed := by
    intro call ref disposed
    cases call with
    | disposeUnit => exact disposed
    | _ => cases disposed
  not_made_of_disposed := by
    intro call ref disposed
    cases call with
    | disposeUnit => rfl
    | _ => cases disposed

def Kind.indexes : Kind IndexRef where
  made?
    | .createIndex _ _ made => made
    | _ => none
  disposed?
    | .disposeIndex index => some index
    | _ => none
  used?
    | .parse request _ => some request.index
    | .getGlobalOptions index | .setGlobalOptions index _ | .disposeIndex index => some index
    | _ => none
  used_of_disposed := by
    intro call ref disposed
    cases call with
    | disposeIndex => exact disposed
    | _ => cases disposed
  not_made_of_disposed := by
    intro call ref disposed
    cases call with
    | disposeIndex => rfl
    | _ => cases disposed

namespace Kind

variable {ρ : Type} (kind : Kind ρ) {calls : List Call} {call : Call} {held held' : List ρ}
  {ref : ρ}

def made (calls : List Call) : List ρ := calls.filterMap kind.made?

def disposed (calls : List Call) : List ρ := calls.filterMap kind.disposed?

@[simp] theorem made_concat (calls : List Call) (call : Call) :
    kind.made (calls ++ [call]) = kind.made calls ++ (kind.made? call).toList :=
  filterMap_concat ..

@[simp] theorem disposed_concat (calls : List Call) (call : Call) :
    kind.disposed (calls ++ [call]) = kind.disposed calls ++ (kind.disposed? call).toList :=
  filterMap_concat ..

/-! ## Live references -/

/-- It was made, and it was not disposed since. -/
def Live (calls : List Call) (ref : ρ) : Prop :=
  ∃ before call after, calls = before ++ call :: after ∧ kind.made? call = some ref ∧
    ∀ later ∈ after, kind.disposed? later ≠ some ref

/-- No call makes anything that is live already. -/
def Fresh (calls : List Call) : Prop :=
  ∀ before call after, calls = before ++ call :: after →
    ∀ ref, kind.made? call = some ref → ¬ kind.Live before ref

variable {kind}

theorem live_concat_iff :
    kind.Live (calls ++ [call]) ref ↔
      kind.made? call = some ref ∨ kind.Live calls ref ∧ kind.disposed? call ≠ some ref := by
  constructor
  · rintro ⟨before, maker, after, split, made, spared⟩
    rcases List.eq_nil_or_concat after with rfl | ⟨after, last, rfl⟩
    · obtain ⟨-, same⟩ := List.append_inj' split rfl
      obtain rfl : call = maker := by simpa using same
      exact .inl made
    · rw [List.concat_eq_append, ← List.cons_append, ← List.append_assoc] at split
      obtain ⟨rfl, same⟩ := List.append_inj' split rfl
      obtain rfl : call = last := by simpa using same
      refine .inr ⟨⟨before, maker, after, rfl, made, fun later mem => ?_⟩, ?_⟩
      · exact spared later (by simp [mem])
      · exact spared call (by simp)
  · rintro (made | ⟨⟨before, maker, after, rfl, made, spared⟩, other⟩)
    · exact ⟨calls, call, [], rfl, made, by simp⟩
    · refine ⟨before, maker, after ++ [call], by simp, made, fun later mem => ?_⟩
      rcases List.mem_append.1 mem with mem | mem
      · exact spared later mem
      · obtain rfl : later = call := by simpa using mem
        exact other

theorem Live.mem_made (live : kind.Live calls ref) : ref ∈ kind.made calls := by
  obtain ⟨before, call, after, rfl, made, -⟩ := live
  exact List.mem_filterMap.2 ⟨call, by simp, made⟩

theorem fresh_of_nodup (nodup : (kind.made calls).Nodup) : kind.Fresh calls := by
  rintro before call after rfl ref made live
  rw [Kind.made, List.filterMap_append, List.filterMap_cons_some made] at nodup
  exact (List.nodup_append.1 nodup).2.2 ref live.mem_made ref List.mem_cons_self rfl

/-! ## The ledger -/

variable [DecidableEq ρ]

variable (kind) in
/-- Each call is about something that was made more often than it was disposed. -/
def Sparing (calls : List Call) : Prop :=
  ∀ before call after, calls = before ++ call :: after → ∀ ref, kind.used? call = some ref →
    (kind.disposed before).count ref < (kind.made before).count ref

theorem count_toList (shown : Option ρ) (ref : ρ) :
    shown.toList.count ref = if shown = some ref then 1 else 0 := by
  cases shown <;> simp [List.count_singleton]

theorem count_made (sparing : kind.Sparing calls) (fresh : kind.Fresh calls) (ref : ρ) :
    kind.Live calls ref ∧ (kind.made calls).count ref = (kind.disposed calls).count ref + 1 ∨
      ¬ kind.Live calls ref ∧ (kind.made calls).count ref = (kind.disposed calls).count ref := by
  induction calls using List.reverseRecOn with
  | nil =>
    refine .inr ⟨?_, rfl⟩
    rintro ⟨before, call, after, split, -⟩
    simp at split
  | append_singleton calls call ih =>
    obtain ⟨sparing, used⟩ := forall_split_concat_iff.1 sparing
    obtain ⟨fresh, new⟩ := forall_split_concat_iff.1 fresh
    have counted := ih sparing fresh
    rw [live_concat_iff, made_concat, disposed_concat, List.count_append, List.count_append,
      count_toList, count_toList]
    by_cases disposes : kind.disposed? call = some ref
    · have not_made := kind.not_made_of_disposed disposes
      have more := used ref (kind.used_of_disposed disposes)
      refine .inr ⟨by simp [not_made, disposes], ?_⟩
      rw [not_made, if_neg nofun, if_pos disposes]
      omega
    · by_cases makes : kind.made? call = some ref
      · have not_live := new ref makes
        refine .inl ⟨.inl makes, ?_⟩
        rw [if_pos makes, if_neg disposes]
        have := counted.resolve_left fun live => not_live live.1
        omega
      · rw [if_neg makes, if_neg disposes]
        simpa [makes, disposes] using counted

/-- A library that never makes what is live already is never handed what is not live. -/
theorem Sparing.live (sparing : kind.Sparing calls) (fresh : kind.Fresh calls) :
    ∀ before call after, calls = before ++ call :: after →
      ∀ ref, kind.used? call = some ref → kind.Live before ref := by
  rintro before call after rfl ref about
  have more := sparing before call after rfl ref about
  rcases count_made (forall_split_of_append sparing) (forall_split_of_append fresh) ref with
    ⟨live, -⟩ | ⟨-, same⟩
  · exact live
  · omega

/-- All that was made is held or was disposed, and nothing was used that was not held. -/
structure Tended (kind : Kind ρ) (calls : List Call) (held : List ρ) : Prop where
  ledger : (kind.made calls).Perm (kind.disposed calls ++ held)
  sparing : kind.Sparing calls

namespace Tended

theorem nil : kind.Tended [] [] := ⟨.nil, by simp [Sparing]⟩

theorem perm (tended : kind.Tended calls held) (same : held.Perm held') :
    kind.Tended calls held' :=
  ⟨tended.ledger.trans (same.append_left _), tended.sparing⟩

theorem concat (tended : kind.Tended calls held)
    (used : ∀ ref, kind.used? call = some ref → ref ∈ held)
    (moved : (held ++ (kind.made? call).toList).Perm ((kind.disposed? call).toList ++ held')) :
    kind.Tended (calls ++ [call]) held' where
  ledger := by
    rw [made_concat, disposed_concat, List.append_assoc]
    refine (tended.ledger.append_right _).trans ?_
    rw [List.append_assoc]
    exact moved.append_left _
  sparing := by
    refine forall_split_concat_iff.2 ⟨tended.sparing, fun ref about => ?_⟩
    have held := List.count_pos_iff.2 (used ref about)
    rw [tended.ledger.count_eq, List.count_append]
    omega

end Tended

end Kind

end SourceIndex.Native
