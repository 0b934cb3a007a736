import SourceIndex.Proofs.Cache.Ownership

/-!
# What a failure leaves behind

A request that ends without a unit either keeps all entries as they are or removes the entry of
its file, and how it ended tells which.
-/

namespace SourceIndex

variable {ω σ κ υ : Type}

/-! ## How a request ended -/

namespace Call

def failsToReparse : Call κ υ → Bool
  | .reparse _ _ _ answer => !answer.isValue
  | _ => false

def failsToParse : Call κ υ → Bool
  | .parse _ _ _ _ answer => !answer.isValue
  | _ => false

end Call

/-- All of an entry but what the analyzer keeps in its unit. -/
structure Outline where
  key : Path
  path : Path
  args : List String
  time : FileTime
  serial : Option Nat

def outline (cached : Path × Entry υ) : Outline where
  key := cached.1
  path := cached.2.path
  args := cached.2.args
  time := cached.2.time
  serial := cached.2.unit.held.map (·.serial)

def outlines (table : PathTable (Entry υ)) : List Outline := table.entries.map outline

section

variable (setup : Setup ω σ κ υ) (moment : Moment ω) (path : Path) (s : CacheState σ κ υ)
  (calls : List (Call κ υ))

/-- The request found out that it could not even look for a unit, or could not refresh the one
that it found. -/
def EndedBefore : Prop :=
  setup.argsFor? moment.world path = none ∨ (∃ fault, moment.fileTime path = .error fault) ∨
    ∃ call ∈ calls, call.failsToReparse

/-- The request got as far as parsing, or would have, had the cache not been destroyed. -/
def EndedParsing : Prop :=
  (∃ call ∈ calls, call.failsToParse) ∨
    s.context = none ∧ setup.argsFor? moment.world path ≠ none ∧
      ∃ time, moment.fileTime path = .ok time

end

/-- What is left in the table by a request for a file. -/
structure Aftermath (setup : Setup ω σ κ υ) (moment : Moment ω) (path : Path)
    (s : CacheState σ κ υ)
    (ran : Ran (CacheState σ κ υ) (Effect κ υ) (Option (LentUnit ω υ))) : Prop where
  kept : EndedBefore setup moment path (callsOf ran.effects) →
    outlines ran.state.table = outlines s.table
  removed : EndedParsing setup moment path s (callsOf ran.effects) →
    ran.state.table = ((setup.remove moment.world path).run s).state.table
  /-- There is no other way to end without a unit. -/
  unserved : (∀ lent, ran.result ≠ .ok (some lent)) →
    EndedBefore setup moment path (callsOf ran.effects) ∨
      EndedParsing setup moment path s (callsOf ran.effects)

/-! ## Every request -/

variable {setup : Setup ω σ κ υ} {s : CacheState σ κ υ} {moment : Moment ω} {path : Path}

theorem outlines_refresh {table : PathTable (Entry υ)} {entry : Entry υ} {unit : Handle υ}
    (found : table.find? path = some entry) (held : entry.unit = .hold unit) (after : υ) :
    outlines (table.insert path { entry with unit := .hold ⟨unit.serial, after⟩ }) =
      outlines table := by
  apply SortedTable.map_insert_of_found found
  intro key
  simp [outline, held]

section

variable {args : List String} {time : FileTime}
  {ran : Ran (CacheState σ κ υ) (Effect κ υ) (Option (LentUnit ω υ))}

theorem endedBefore_iff (indexable : setup.argsFor? moment.world path = some args)
    (readable : moment.fileTime path = .ok time) {calls : List (Call κ υ)} :
    EndedBefore setup moment path calls ↔ ∃ call ∈ calls, call.failsToReparse := by
  simp [EndedBefore, indexable, readable]

theorem endedParsing_iff (indexable : setup.argsFor? moment.world path = some args)
    (readable : moment.fileTime path = .ok time) {calls : List (Call κ υ)} :
    EndedParsing setup moment path s calls ↔
      (∃ call ∈ calls, call.failsToParse) ∨ s.context = none := by
  simp [EndedParsing, indexable, readable]

theorem Aftermath.announced (aftermath : Aftermath setup moment path s ran) (message : String) :
    Aftermath setup moment path s
      ⟨ran.result, setup.announced path message ++ ran.effects, ran.state⟩ := by
  obtain ⟨kept, removed, unserved⟩ := aftermath
  refine ⟨?_, ?_, ?_⟩
  · simpa using kept
  · simpa using removed
  · simpa using unserved

end

namespace Setup

theorem remove_table (sound : Sound s) (setup : Setup ω σ κ υ) (world : ω) (path : Path) :
    ((setup.remove world path).run s).state.table = s.table.erase path := by
  obtain ⟨inner, left⟩ := (setup.removes_remove sound world path).state_eq
  rw [left]

theorem Removes.calls_succeed {world : ω} {ran : Ran (CacheState σ κ υ) (Effect κ υ) Unit}
    (removes : setup.Removes world path s ran) {call : Call κ υ}
    (mem : call ∈ callsOf ran.effects) :
    call.failsToReparse = false ∧ call.failsToParse = false := by
  cases removes with
  | absent => simp at mem
  | present =>
    obtain rfl : call = _ := by simpa using mem
    exact ⟨rfl, rfl⟩

theorem Refreshes.aftermath {time : FileTime} {reason : String} {entry : Entry υ}
    {unit : Handle υ} {ran : Ran (CacheState σ κ υ) (Effect κ υ) (Option (LentUnit ω υ))}
    (refreshes : setup.Refreshes moment.world path time reason s entry unit ran)
    (indexable : setup.argsFor? moment.world path = some entry.args)
    (readable : moment.fileTime path = .ok time)
    (found : s.table.find? path = some entry) (held : entry.unit = .hold unit)
    (alive : s.context ≠ none) : Aftermath setup moment path s ran := by
  have no_parsing (after : υ) (answer : Answer Unit) : ¬ EndedParsing setup moment path s
      [.reparse unit (setup.overlay moment.world) after answer] := by
    rw [endedParsing_iff indexable readable]
    simp [Call.failsToParse, alive]
  have before (after : υ) {answer : Answer Unit} (fails : answer.isValue = false) :
      EndedBefore setup moment path [.reparse unit (setup.overlay moment.world) after answer] :=
    .inr (.inr ⟨_, List.mem_cons_self, by simp [Call.failsToReparse, fails]⟩)
  cases refreshes with
  | reparsed =>
    refine ⟨?_, ?_, fun unserved => absurd rfl (unserved _)⟩
    · rw [endedBefore_iff indexable readable]
      simp [Call.failsToReparse, Answer.isValue]
    · intro parsing
      exact absurd (by simpa using parsing) (no_parsing _ _)
  | failed | panicked =>
    refine ⟨fun _ => outlines_refresh found held _, ?_, fun _ => .inl ?_⟩
    · intro parsing
      exact absurd (by simpa using parsing) (no_parsing _ _)
    · simpa using before _ rfl

theorem Parses.aftermath {args : List String} {time : FileTime}
    {ran : Ran (CacheState σ κ υ) (Effect κ υ) (Option (LentUnit ω υ))} (sound : Sound s)
    (parses : setup.Parses moment.world path args time s ran)
    (indexable : setup.argsFor? moment.world path = some args)
    (readable : moment.fileTime path = .ok time) : Aftermath setup moment path s ran := by
  have erased := setup.remove_table sound moment.world path
  have no_reparse {removed : Ran (CacheState σ κ υ) (Effect κ υ) Unit}
      (removes : setup.Removes moment.world path s removed) (context : Handle κ)
      (answer : Answer (Handle υ)) : ¬ EndedBefore setup moment path (callsOf removed.effects ++
        [.parse context path (setup.parseArgs args) (setup.overlay moment.world) answer]) := by
    rw [endedBefore_iff indexable readable]
    rintro ⟨call, mem, fails⟩
    rcases List.mem_append.1 mem with mem | mem
    · simp [(removes.calls_succeed mem).1] at fails
    · obtain rfl : call = _ := by simpa using mem
      simp [Call.failsToReparse] at fails
  cases parses with
  | destroyed removes gone =>
    refine ⟨?_, ?_, fun _ => .inr ?_⟩
    · rw [endedBefore_iff indexable readable]
      rintro ⟨call, mem, fails⟩
      simp [(removes.calls_succeed (by simpa using mem)).1] at fails
    · obtain ⟨inner, left⟩ := removes.state_eq
      rw [erased, left]
      exact fun _ => rfl
    · exact (endedParsing_iff indexable readable).2 (.inr gone)
  | @parsed removed context value inner removes alive answered =>
    refine ⟨?_, ?_, fun unserved => absurd rfl (unserved _)⟩
    · intro before
      exact absurd (by simpa using before) (no_reparse removes context _)
    · rw [endedParsing_iff indexable readable]
      rintro (⟨call, mem, fails⟩ | gone)
      · simp only [callsOf_append, callsOf_announced, List.append_nil, callsOf_call,
          callsOf_concluded, callsOf_nil] at mem
        rcases List.mem_append.1 mem with mem | mem
        · simp [(removes.calls_succeed mem).2] at fails
        · obtain rfl : call = _ := by simpa using mem
          simp [Call.failsToParse, Answer.isValue] at fails
      · simp [alive] at gone
  | @failed removed context _ inner removes alive answered
  | @panicked removed context _ inner removes alive answered =>
    refine ⟨?_, fun _ => erased.symm, fun _ => .inr ?_⟩
    · intro before
      exact absurd (by simpa using before) (no_reparse removes context _)
    · refine (endedParsing_iff indexable readable).2 (.inl ?_)
      simp [Call.failsToParse, Answer.isValue]

theorem Serves.aftermath {log : List (Call κ υ)} (books : Books log s) (sound : Sound s)
    {force : Bool} {ran : Ran (CacheState σ κ υ) (Effect κ υ) (Option (LentUnit ω υ))}
    (serves : setup.Serves moment path force s ran) : Aftermath setup moment path s ran := by
  cases serves with
  | unindexable no_args =>
    refine ⟨fun _ => rfl, ?_, fun _ => .inl (.inl no_args)⟩
    simp [EndedParsing, no_args]
  | @unreadable args fault indexable unreadable =>
    refine ⟨fun _ => rfl, ?_, fun _ => .inl (.inr (.inl ⟨fault, unreadable⟩))⟩
    simp [EndedParsing, unreadable]
  | hit indexable readable found held =>
    obtain ⟨context, alive⟩ := books.alive_of_found sound found
    refine ⟨fun _ => rfl, ?_, fun unserved => absurd rfl (unserved _)⟩
    simp [EndedParsing, alive]
  | refreshed indexable readable found held stale refreshes =>
    obtain ⟨context, alive⟩ := books.alive_of_found sound found
    exact (refreshes.aftermath indexable readable found held (by simp [alive])).announced _
  | rebuilt indexable readable outdated parses =>
    exact (parses.aftermath sound indexable readable).announced _

end Setup

end SourceIndex
