import SourceIndex.Effect
import Mathlib.Data.List.Perm.Basic
import Mathlib.Data.List.Nodup

/-!
# Accounts of calls

A log of calls tells which units were made and which of them were disposed since. Accounts say
that this agrees with what someone holds, and that each call of the log was about something that
was there.
-/

namespace SourceIndex

variable {κ υ : Type}

/-! ## What a call tells -/

namespace Call

/-- The unit that a call has made, with the path it was made for. -/
def made? : Call κ υ → Option (Nat × Path)
  | parse _ path _ _ (.value unit) => some (unit.serial, path)
  | _ => none

def created? : Call κ υ → Option Nat
  | createContext _ (.value context) => some context.serial
  | _ => none

def disposedUnit? : Call κ υ → Option Nat
  | disposeUnit unit _ _ => some unit.serial
  | _ => none

def disposedContext? : Call κ υ → Option Nat
  | disposeContext context _ _ => some context.serial
  | _ => none

/-- The unit that is handed to the analyzer. -/
def unit? : Call κ υ → Option Nat
  | reparse unit _ _ _ | disposeUnit unit _ _ => some unit.serial
  | _ => none

def context? : Call κ υ → Option Nat
  | parse context _ _ _ _ | disposeContext context _ _ => some context.serial
  | globalOptions context _ | setGlobalOptions context _ => some context.serial
  | _ => none

end Call

/-! ## What a log tells -/

def madeUnits (log : List (Call κ υ)) : List (Nat × Path) := log.filterMap Call.made?

def disposedUnits (log : List (Call κ υ)) : List Nat := log.filterMap Call.disposedUnit?

/-- The units that were made and not disposed yet, whatever came of disposing the others. -/
def liveUnits (log : List (Call κ υ)) : List (Nat × Path) :=
  (madeUnits log).filter fun unit => unit.1 ∉ disposedUnits log

def createdContexts (log : List (Call κ υ)) : List Nat := log.filterMap Call.created?

def disposedContexts (log : List (Call κ υ)) : List Nat := log.filterMap Call.disposedContext?

def liveContexts (log : List (Call κ υ)) : List Nat :=
  (createdContexts log).filter fun context => context ∉ disposedContexts log

theorem filterMap_concat {α β : Type} (view : α → Option β) (list : List α) (a : α) :
    (list ++ [a]).filterMap view = list.filterMap view ++ (view a).toList := by
  rw [List.filterMap_append]
  cases shown : view a <;> simp [shown]

section

variable {α : Type} {P : List α → α → Prop} {list rest : List α} {last : α}

theorem forall_split_of_append
    (all : ∀ before a after, list ++ rest = before ++ a :: after → P before a) :
    ∀ before a after, list = before ++ a :: after → P before a :=
  fun before a after split => all before a (after ++ rest) (by simp [split])

theorem forall_split_concat_iff :
    (∀ before a after, list ++ [last] = before ++ a :: after → P before a) ↔
      (∀ before a after, list = before ++ a :: after → P before a) ∧ P list last := by
  constructor
  · exact fun all => ⟨forall_split_of_append all, all list last [] rfl⟩
  · rintro ⟨all, next⟩ before a after split
    rcases List.eq_nil_or_concat after with rfl | ⟨after', last', rfl⟩
    · obtain ⟨rfl, same⟩ := List.append_inj' split rfl
      obtain rfl : last = a := by simpa using same
      exact next
    · rw [List.concat_eq_append, ← List.cons_append, ← List.append_assoc] at split
      exact all before a after' (List.append_inj' split rfl).1

end

@[simp] theorem madeUnits_concat (log : List (Call κ υ)) (call : Call κ υ) :
    madeUnits (log ++ [call]) = madeUnits log ++ call.made?.toList := filterMap_concat ..

@[simp] theorem disposedUnits_concat (log : List (Call κ υ)) (call : Call κ υ) :
    disposedUnits (log ++ [call]) = disposedUnits log ++ call.disposedUnit?.toList :=
  filterMap_concat ..

@[simp] theorem createdContexts_concat (log : List (Call κ υ)) (call : Call κ υ) :
    createdContexts (log ++ [call]) = createdContexts log ++ call.created?.toList :=
  filterMap_concat ..

@[simp] theorem disposedContexts_concat (log : List (Call κ υ)) (call : Call κ υ) :
    disposedContexts (log ++ [call]) = disposedContexts log ++ call.disposedContext?.toList :=
  filterMap_concat ..

/-- Two units belong to different files. -/
def Apart (a b : Nat × Path) : Prop := ¬ Path.Same a.2 b.2

theorem Apart.symm {a b : Nat × Path} (h : Apart a b) : Apart b a :=
  fun same => h (Path.Same.symm same)

/-- A call that may follow a log: the live units belong to different files, and what the call is
about is live. -/
structure Admissible (log : List (Call κ υ)) (call : Call κ υ) : Prop where
  apart : (liveUnits log).Pairwise Apart
  unit_live : ∀ serial, call.unit? = some serial → serial ∈ (liveUnits log).map (·.1)
  context_live : ∀ serial, call.context? = some serial → serial ∈ liveContexts log

/-! ## Accounts -/

/-- The log of a cache whose context is at hand. -/
def Open (log : List (Call κ υ)) (context : Nat) : Prop :=
  createdContexts log = [context] ∧ disposedContexts log = []

/-- The last call disposed the context, when no unit was live any longer. -/
def Closed (log : List (Call κ υ)) : Prop :=
  ∃ before context answer, log = before ++ [.disposeContext context .explicit answer] ∧
    Open before context.serial ∧ liveUnits before = []

/-- The log agrees with what is held: these units, and this context unless the log is closed. All
units that were made have numbers below `units`. -/
structure Accounts (log : List (Call κ υ)) (held : List (Nat × Path)) (context : Option Nat)
    (units : Nat) : Prop where
  live : (liveUnits log).Perm held
  apart : held.Pairwise Apart
  below : ∀ unit ∈ madeUnits log, unit.1 < units
  made_once : ((madeUnits log).map (·.1)).Nodup
  disposed_once : (disposedUnits log).Nodup
  disposed_made : ∀ serial ∈ disposedUnits log, serial ∈ (madeUnits log).map (·.1)
  is_open : ∀ serial, context = some serial → Open log serial
  closed : context = none → Closed log
  admissible : ∀ before call after, log = before ++ call :: after → Admissible before call

theorem Closed.live_eq_nil {log : List (Call κ υ)} (closed : Closed log) : liveUnits log = [] := by
  obtain ⟨before, context, answer, rfl, -, none_live⟩ := closed
  simpa [liveUnits, Call.made?, Call.disposedUnit?] using none_live

namespace Accounts

variable {log : List (Call κ υ)} {held held' : List (Nat × Path)} {context : Option Nat}
  {units : Nat} {call : Call κ υ}

theorem perm (accounts : Accounts log held context units) (same : held.Perm held') :
    Accounts log held' context units :=
  { accounts with
    live := accounts.live.trans same
    apart := (same.pairwise_iff Apart.symm).1 accounts.apart }

theorem live_apart (accounts : Accounts log held context units) :
    (liveUnits log).Pairwise Apart :=
  (accounts.live.pairwise_iff Apart.symm).2 accounts.apart

theorem live_once (accounts : Accounts log held context units) :
    ((liveUnits log).map (·.1)).Nodup :=
  (List.filter_sublist.map _).nodup accounts.made_once

theorem mem_live {unit : Nat × Path} (accounts : Accounts log held context units)
    (mem : unit ∈ held) : unit.1 ∈ (liveUnits log).map (·.1) :=
  List.mem_map_of_mem (accounts.live.mem_iff.2 mem)

/-! ### The first call -/

theorem first (options : ContextOptions) (context : Handle κ) (units : Nat) :
    Accounts ([.createContext options (.value context)] : List (Call κ υ)) []
      (some context.serial) units where
  live := .nil
  apart := .nil
  below := by simp [madeUnits, Call.made?]
  made_once := .nil
  disposed_once := .nil
  disposed_made := by simp [disposedUnits, Call.disposedUnit?]
  is_open := by simp [Open, createdContexts, Call.created?, disposedContexts,
    Call.disposedContext?]
  closed := by simp
  admissible := by
    intro before call after split
    obtain ⟨rfl, rfl, rfl⟩ : before = [] ∧ call = .createContext options (.value context) ∧
        after = [] := by
      cases before <;> simp_all
    exact ⟨.nil, by simp [Call.unit?], by simp [Call.context?]⟩

/-! ### One more call -/

theorem fresh (accounts : Accounts log held context units) :
    units ∉ (madeUnits log).map (·.1) ∧ units ∉ disposedUnits log := by
  have not_made : units ∉ (madeUnits log).map (·.1) := by
    intro made
    obtain ⟨unit, mem, same⟩ := List.mem_map.1 made
    have := accounts.below unit mem
    omega
  exact ⟨not_made, fun disposed => not_made (accounts.disposed_made units disposed)⟩

theorem admissible_of_live {serial : Nat} (accounts : Accounts log held (some serial) units)
    (unit_held : ∀ unit, call.unit? = some unit → unit ∈ held.map (·.1))
    (context_held : ∀ context, call.context? = some context → context = serial) :
    Admissible log call where
  apart := accounts.live_apart
  unit_live := by
    intro unit about
    obtain ⟨h, mem, rfl⟩ := List.mem_map.1 (unit_held unit about)
    exact accounts.mem_live mem
  context_live := by
    intro context about
    obtain ⟨created, none_disposed⟩ := accounts.is_open serial rfl
    simp [liveContexts, created, none_disposed, context_held context about]

theorem concat_neutral {serial : Nat} (accounts : Accounts log held (some serial) units)
    (next : Admissible log call) (made : call.made? = none) (created : call.created? = none)
    (no_unit : call.disposedUnit? = none) (no_context : call.disposedContext? = none) :
    Accounts (log ++ [call]) held (some serial) units where
  live := by simpa [liveUnits, made, no_unit] using accounts.live
  apart := accounts.apart
  below := by simpa [made] using accounts.below
  made_once := by simpa [made] using accounts.made_once
  disposed_once := by simpa [no_unit] using accounts.disposed_once
  disposed_made := by simpa [made, no_unit] using accounts.disposed_made
  is_open := by simpa [Open, created, no_context] using accounts.is_open
  closed := by simp
  admissible := forall_split_concat_iff.2 ⟨accounts.admissible, next⟩

theorem concat_parse {context : Handle κ} (path : Path) (args : List String)
    (buffers : List Buffer) (value : υ)
    (accounts : Accounts log held (some context.serial) units)
    (unknown : ∀ unit ∈ held, ¬ Path.Same unit.2 path) :
    Accounts (log ++ [.parse context path args buffers (.value ⟨units, value⟩)])
      ((units, path) :: held) (some context.serial) (units + 1) := by
  obtain ⟨not_made, not_disposed⟩ := accounts.fresh
  have next : Admissible log (.parse context path args buffers (.value ⟨units, value⟩)) :=
    accounts.admissible_of_live (by simp [Call.unit?]) (by simp [Call.context?])
  generalize called : Call.parse context path args buffers (.value ⟨units, value⟩) = call at next
  have made : call.made? = some (units, path) := by simp [← called, Call.made?]
  have no_unit : call.disposedUnit? = none := by simp [← called, Call.disposedUnit?]
  have created : call.created? = none := by simp [← called, Call.created?]
  have no_context : call.disposedContext? = none := by simp [← called, Call.disposedContext?]
  refine ⟨?_, ?_, ?_, ?_, ?_, ?_, ?_, by simp,
    forall_split_concat_iff.2 ⟨accounts.admissible, next⟩⟩
  · have live : liveUnits (log ++ [call]) = liveUnits log ++ [(units, path)] := by
      simp [liveUnits, made, no_unit, not_disposed]
    rw [live]
    exact (accounts.live.append_right _).trans List.perm_append_comm
  · exact List.pairwise_cons.2 ⟨fun unit mem same => unknown unit mem same.symm, accounts.apart⟩
  · intro unit mem
    simp only [madeUnits_concat, made, Option.toList_some, List.mem_append,
      List.mem_singleton] at mem
    rcases mem with mem | rfl
    · have := accounts.below unit mem
      omega
    · exact Nat.lt_succ_self units
  · simp only [madeUnits_concat, made, Option.toList_some, List.map_append, List.nodup_append]
    refine ⟨accounts.made_once, by simp, ?_⟩
    rintro serial mem _ (_ | ⟨_, ⟨⟩⟩) rfl
    exact not_made mem
  · simpa [no_unit] using accounts.disposed_once
  · intro serial mem
    simp only [disposedUnits_concat, no_unit, Option.toList_none, List.append_nil] at mem
    simp only [madeUnits_concat, List.map_append]
    exact List.mem_append_left _ (accounts.disposed_made serial mem)
  · simpa [Open, created, no_context] using accounts.is_open

theorem concat_disposeUnit {serial : Nat} {unit : Handle υ} {path : Path} (release : Release)
    (answer : Answer Unit)
    (accounts : Accounts log ((unit.serial, path) :: held) (some serial) units) :
    Accounts (log ++ [.disposeUnit unit release answer]) held (some serial) units := by
  have live := accounts.live
  have once := (accounts.live.map (·.1)).nodup_iff.1 accounts.live_once
  have next : Admissible log (.disposeUnit unit release answer) :=
    accounts.admissible_of_live (by simp [Call.unit?]) (by simp [Call.context?])
  generalize called : Call.disposeUnit unit release answer = call at next
  have made : call.made? = none := by simp [← called, Call.made?]
  have gone : call.disposedUnit? = some unit.serial := by simp [← called, Call.disposedUnit?]
  have created : call.created? = none := by simp [← called, Call.created?]
  have no_context : call.disposedContext? = none := by simp [← called, Call.disposedContext?]
  obtain ⟨not_held, held_once⟩ := List.nodup_cons.1 once
  have was_live : (unit.serial, path) ∈ liveUnits log := live.mem_iff.2 List.mem_cons_self
  obtain ⟨was_made, not_disposed⟩ := List.mem_filter.1 was_live
  refine ⟨?_, ?_, ?_, ?_, ?_, ?_, ?_, by simp,
    forall_split_concat_iff.2 ⟨accounts.admissible, next⟩⟩
  -- No other unit has the same number, so the filter takes just this one away.
  · have live_eq : liveUnits (log ++ [call]) =
        (liveUnits log).filter fun other => other.1 ≠ unit.serial := by
      simp [liveUnits, made, gone, List.filter_filter, and_comm]
    have others : held.filter (fun other => other.1 ≠ unit.serial) = held := by
      apply List.filter_eq_self.2
      intro other mem
      have other_serial : other.1 ≠ unit.serial := by
        intro same
        exact not_held (List.mem_map.2 ⟨other, mem, same⟩)
      simpa using other_serial
    rw [live_eq]
    refine (live.filter _).trans ?_
    rw [List.filter_cons_of_neg (by simp), others]
  · exact accounts.apart.of_cons
  · simpa [made] using accounts.below
  · simpa [made] using accounts.made_once
  · simp only [disposedUnits_concat, gone, Option.toList_some, List.nodup_append]
    refine ⟨accounts.disposed_once, by simp, ?_⟩
    rintro disposed mem _ (_ | ⟨_, ⟨⟩⟩) rfl
    simp [mem] at not_disposed
  · intro disposed mem
    simp only [disposedUnits_concat, gone, Option.toList_some, List.mem_append,
      List.mem_singleton] at mem
    simp only [madeUnits_concat, made, Option.toList_none, List.append_nil]
    rcases mem with mem | rfl
    · exact accounts.disposed_made disposed mem
    · exact List.mem_map_of_mem was_made
  · simpa [Open, created, no_context] using accounts.is_open

theorem concat_disposeContext {context : Handle κ} (answer : Answer Unit)
    (accounts : Accounts log [] (some context.serial) units) :
    Accounts (log ++ [.disposeContext context .explicit answer]) [] none units := by
  have next : Admissible log (.disposeContext context .explicit answer) :=
    accounts.admissible_of_live (by simp [Call.unit?]) (by simp [Call.context?])
  have none_live : liveUnits log = [] := accounts.live.eq_nil
  have closed : Closed (log ++ [.disposeContext context .explicit answer]) :=
    ⟨log, context, answer, rfl, accounts.is_open _ rfl, none_live⟩
  generalize called : Call.disposeContext context .explicit answer = call at next closed
  have made : call.made? = none := by simp [← called, Call.made?]
  have no_unit : call.disposedUnit? = none := by simp [← called, Call.disposedUnit?]
  refine ⟨?_, .nil, ?_, ?_, ?_, ?_, by simp, fun _ => closed,
    forall_split_concat_iff.2 ⟨accounts.admissible, next⟩⟩
  · simpa [liveUnits, made, no_unit] using accounts.live
  · simpa [made] using accounts.below
  · simpa [made] using accounts.made_once
  · simpa [no_unit] using accounts.disposed_once
  · simpa [made, no_unit] using accounts.disposed_made

end Accounts

end SourceIndex
