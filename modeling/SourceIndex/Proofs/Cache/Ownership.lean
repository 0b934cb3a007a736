import SourceIndex.Proofs.Cache.Accounts
import SourceIndex.Proofs.Cache.Steps

/-!
# Ownership over whole runs

The calls of a run agree with what the cache holds: each unit that was made is held by one entry
until it is disposed, once, and the context is disposed last.
-/

namespace SourceIndex

variable {ω σ κ υ : Type}

/-! ## What a table holds -/

def Entry.holding? (entry : Entry υ) : Option (Nat × Path) :=
  entry.unit.held.map fun unit => (unit.serial, entry.path)

def holdings (table : PathTable (Entry υ)) : List (Nat × Path) :=
  table.values.filterMap Entry.holding?

theorem Entry.holding?_of_held {entry : Entry υ} {unit : Handle υ}
    (held : entry.unit = .hold unit) : entry.holding? = some (unit.serial, entry.path) := by
  simp [holding?, held, Owned.hold]

variable {table : PathTable (Entry υ)} {path : Path} {entry : Entry υ} {unit : Handle υ}

theorem holdings_perm_erase (found : table.find? path = some entry)
    (held : entry.unit = .hold unit) :
    (holdings table).Perm ((unit.serial, entry.path) :: holdings (table.erase path)) :=
  SortedTable.filterMap_values_perm_erase found (Entry.holding?_of_held held)

theorem holdings_insert_perm (unknown : table.find? path = none)
    (held : entry.unit = .hold unit) :
    (holdings (table.insert path entry)).Perm ((unit.serial, entry.path) :: holdings table) :=
  SortedTable.filterMap_values_insert_perm unknown (Entry.holding?_of_held held)

theorem mem_holdings {held : Nat × Path} :
    held ∈ holdings table ↔ ∃ cached ∈ table.entries, cached.2.holding? = some held := by
  simp [holdings, SortedTable.values]

theorem apart_of_mem_holdings_erase {s : CacheState σ κ υ} (sound : Sound s) {path : Path}
    {unit : Nat × Path} (mem : unit ∈ holdings (s.table.erase path)) :
    ¬ Path.Same unit.2 path := by
  obtain ⟨cached, left, held⟩ := mem_holdings.1 mem
  obtain ⟨known, other⟩ := SortedTable.mem_erase_iff.1 left
  obtain ⟨handle, -, rfl⟩ := Option.map_eq_some_iff.1 held
  intro same
  simp only [sound.own_path cached known] at same
  exact other (Path.sameKey_iff_same.2 same)

theorem holdings_refresh (found : table.find? path = some entry) (held : entry.unit = .hold unit)
    (time : FileTime) (after : υ) :
    holdings (table.insert path { entry with time, unit := .hold ⟨unit.serial, after⟩ }) =
      holdings table :=
  SortedTable.filterMap_values_insert_of_found found (by simp [Entry.holding?, held])

theorem length_holdings {s : CacheState σ κ υ} (sound : Sound s) :
    (holdings s.table).length = s.table.length := by
  have all_held : ∀ entry ∈ s.table.values, entry.holding?.isSome := by
    intro entry mem
    obtain ⟨cached, known, rfl⟩ := List.mem_map.1 mem
    obtain ⟨unit, held⟩ := sound.unit_held cached known
    simp [Entry.holding?_of_held held]
  rw [holdings, List.filterMap_length_eq_length.2 all_held]
  exact List.length_map ..

/-! ## The books of a cache -/

def heldContext (context : Option (Owned κ)) : Option Nat :=
  context.bind fun owned => owned.held.map (·.serial)

/-- The log agrees with the state of a cache. -/
def Books (log : List (Call κ υ)) (s : CacheState σ κ υ) : Prop :=
  Accounts log (holdings s.table) (heldContext s.context) s.analyzer.units

theorem heldContext_of_alive {owned : Option (Owned κ)} {context : Handle κ}
    (alive : owned = some (.hold context)) : heldContext owned = some context.serial := by
  simp [heldContext, alive, Owned.hold]

namespace Books

variable {log : List (Call κ υ)} {setup : Setup ω σ κ υ} {s : CacheState σ κ υ}

theorem once (books : Books log s) : ((holdings s.table).map (·.1)).Nodup :=
  ((Accounts.live books).map (·.1)).nodup_iff.1 (Accounts.live_once books)

theorem entries_of_gone (books : Books log s) (sound : Sound s) (gone : s.context = none) :
    s.table.entries = [] := by
  have none_live := (Accounts.closed books (by simp [heldContext, gone])).live_eq_nil
  have none_held := Accounts.live books
  rw [none_live] at none_held
  have none_listed : s.table.length = 0 := by rw [← length_holdings sound, ← none_held.nil_eq]; rfl
  exact List.eq_nil_of_length_eq_zero none_listed

theorem find?_of_gone (books : Books log s) (sound : Sound s) (gone : s.context = none)
    (path : Path) : s.table.find? path = none := by
  apply SortedTable.find?_eq_none_iff.2
  simp [books.entries_of_gone sound gone]

theorem alive_of_found (books : Books log s) (sound : Sound s)
    (found : s.table.find? path = some entry) : ∃ context, s.context = some (.hold context) := by
  cases context_eq : s.context with
  | none =>
    rw [books.find?_of_gone sound context_eq] at found
    contradiction
  | some owned =>
    obtain ⟨context, rfl⟩ := sound.context_held owned context_eq
    exact ⟨context, rfl⟩

theorem removes (books : Books log s) (sound : Sound s) {world : ω}
    {ran : Ran (CacheState σ κ υ) (Effect κ υ) Unit}
    (removes : setup.Removes world path s ran) :
    Books (log ++ callsOf ran.effects) ran.state := by
  cases removes with
  | absent => simpa using books
  | @present entry unit answer inner found held answered =>
    obtain ⟨context, alive⟩ := books.alive_of_found sound found
    have accounts := Accounts.perm books (holdings_perm_erase found held)
    rw [heldContext_of_alive alive] at accounts
    simp only [Books, heldContext_of_alive alive, callsOf_append, Setup.callsOf_announced,
      callsOf_call, Setup.callsOf_disposalNoted, List.nil_append]
    exact accounts.concat_disposeUnit .explicit answer

theorem refreshes (books : Books log s) (sound : Sound s) {world : ω} {time : FileTime}
    {reason : String} {ran : Ran (CacheState σ κ υ) (Effect κ υ) (Option (LentUnit ω υ))}
    (found : s.table.find? path = some entry) (held : entry.unit = .hold unit)
    (refreshes : setup.Refreshes world path time reason s entry unit ran) :
    Books (log ++ callsOf ran.effects) ran.state := by
  obtain ⟨context, alive⟩ := books.alive_of_found sound found
  have listed : (unit.serial, entry.path) ∈ holdings s.table :=
    (holdings_perm_erase found held).mem_iff.2 List.mem_cons_self
  have accounts : Accounts log (holdings s.table) (some context.serial) s.analyzer.units := by
    rw [← heldContext_of_alive alive]
    exact books
  have called (after : υ) (answer : Answer Unit) :
      Accounts (log ++ [.reparse unit (setup.overlay world) after answer]) (holdings s.table)
        (some context.serial) s.analyzer.units := by
    apply accounts.concat_neutral _ rfl rfl rfl rfl
    apply accounts.admissible_of_live
    · rintro serial ⟨⟩
      exact List.mem_map_of_mem listed
    · rintro serial ⟨⟩
  cases refreshes with
  | reparsed answered | failed answered | panicked answered =>
    simp only [Books, heldContext_of_alive alive, callsOf_append, Setup.callsOf_announced,
      callsOf_call, Setup.callsOf_concluded, Setup.callsOf_told, callsOf_nil, List.nil_append]
    rw [holdings_refresh found held]
    exact called _ _

theorem cleared (books : Books log s) (sound : Sound s) {world : ω} {context : Handle κ}
    {removed : Ran (CacheState σ κ υ) (Effect κ υ) Unit}
    (removes : setup.Removes world path s removed) (alive : s.context = some (.hold context)) :
    Accounts (log ++ callsOf removed.effects) (holdings (s.table.erase path))
      (some context.serial) s.analyzer.units := by
  have books := books.removes sound removes
  obtain ⟨inner, left⟩ := removes.state_eq
  rw [left] at books
  rw [← heldContext_of_alive alive]
  exact books

theorem parses (books : Books log s) (sound : Sound s) {world : ω} {args : List String}
    {time : FileTime} {ran : Ran (CacheState σ κ υ) (Effect κ υ) (Option (LentUnit ω υ))}
    (parses : setup.Parses world path args time s ran) :
    Books (log ++ callsOf ran.effects) ran.state := by
  cases parses with
  | destroyed removes gone => simpa using books.removes sound removes
  | @parsed removed context value inner removes alive answered =>
    have accounts := (books.cleared sound removes alive).concat_parse path
      (setup.parseArgs args) (setup.overlay world) value
      (fun unit => apart_of_mem_holdings_erase sound)
    have stored : (holdings ((s.table.erase path).insert path
        ⟨path, args, time, .hold ⟨s.analyzer.units, value⟩⟩)).Perm _ :=
      holdings_insert_perm (s.table.find?_erase_of_same (SameKey.refl path)) rfl
    simp only [Books, heldContext_of_alive alive, callsOf_append, Setup.callsOf_announced,
      callsOf_call, Setup.callsOf_concluded, callsOf_nil, List.append_nil]
    rw [← List.append_assoc]
    exact accounts.perm stored.symm
  | failed removes alive answered | panicked removes alive answered =>
    have accounts := books.cleared sound removes alive
    simp only [Books, heldContext_of_alive alive, callsOf_append, Setup.callsOf_announced,
      callsOf_call, Setup.callsOf_told, callsOf_nil, List.append_nil]
    rw [← List.append_assoc]
    refine accounts.concat_neutral (accounts.admissible_of_live ?_ ?_) rfl rfl rfl rfl
    · rintro serial ⟨⟩
    · rintro serial ⟨⟩
      rfl

theorem serves (books : Books log s) (sound : Sound s) {moment : Moment ω} {force : Bool}
    {ran : Ran (CacheState σ κ υ) (Effect κ υ) (Option (LentUnit ω υ))}
    (serves : setup.Serves moment path force s ran) :
    Books (log ++ callsOf ran.effects) ran.state := by
  cases serves with
  | unindexable | unreadable | hit => simpa using books
  | refreshed indexable readable found held stale refreshes =>
    simpa using books.refreshes sound found held refreshes
  | rebuilt indexable readable outdated parses =>
    simpa using books.parses sound parses

theorem disposals {serial units : Nat} {list : List (Path × Entry υ)} {calls : List (Call κ υ)}
    (disposes : List.Forall₂ Disposes list calls)
    (accounts : Accounts log ((list.map (·.2)).filterMap Entry.holding?) (some serial) units) :
    Accounts (log ++ calls) [] (some serial) units := by
  induction disposes generalizing log with
  | nil => simpa using accounts
  | @cons cached call rest others first _ ih =>
    obtain ⟨unit, answer, held, rfl⟩ := first
    rw [List.map_cons, List.filterMap_cons_some (Entry.holding?_of_held held)] at accounts
    rw [List.append_cons]
    exact ih (accounts.concat_disposeUnit .explicit answer)

theorem clears (books : Books log s) {context : Handle κ}
    (alive : s.context = some (.hold context)) {walk : Walk (Path × Entry υ)}
    {calls : List (Call κ υ)}
    (disposes : List.Forall₂ Disposes (walk.arrange s.table.entries) calls) :
    Accounts (log ++ calls) [] (some context.serial) s.analyzer.units := by
  rw [← heldContext_of_alive alive]
  have all := ((walk.perm s.table.entries).symm.map (·.2)).filterMap Entry.holding?
  have accounts := Accounts.perm books all
  rw [heldContext_of_alive alive] at accounts ⊢
  exact disposals disposes accounts

theorem does (books : Books log s) (sound : Sound s) {occasion : Occasion ω υ}
    {effects : List (Effect κ υ)} {s' : CacheState σ κ υ}
    (does : Does setup occasion s effects s') : Books (log ++ callsOf effects) s' := by
  cases does with
  | nothing => simpa using books
  | served asks serves => exact books.serves sound serves
  | removed removes => exact books.removes sound removes
  | @cleared walk pieces inner disposals =>
    have disposes := Setup.disposes_of_disposals disposals
    cases gone : s.context with
    -- Without a context there was nothing to dispose.
    | none =>
      have empty := books.entries_of_gone sound gone
      have arranged := walk.perm s.table.entries
      rw [empty] at arranged disposes
      rw [arranged.eq_nil] at disposes
      cases calls : callsOf pieces.flatten with
      | cons => simp [calls] at disposes
      | nil =>
        have nothing_held : holdings s.table = [] := by
          simp [holdings, SortedTable.values, empty]
        have accounts := books
        rw [Books, nothing_held] at accounts
        rw [List.append_nil, ← gone]
        exact accounts
    | some owned =>
      obtain ⟨context, rfl⟩ := sound.context_held owned gone
      rw [← gone]
      have accounts := books.clears gone disposes
      rw [← heldContext_of_alive gone] at accounts
      exact accounts
  | @closed walk pieces inner context answer alive disposals =>
    have disposes := Setup.disposes_of_disposals disposals
    have accounts := (books.clears alive disposes).concat_disposeContext answer
    simp only [callsOf_append, callsOf_call, Setup.callsOf_disposalNoted]
    rw [← List.append_assoc]
    exact accounts
  | read alive | set alive =>
    have accounts : Accounts log (holdings s.table) _ s.analyzer.units := books
    rw [heldContext_of_alive alive] at accounts
    simp only [Books, heldContext_of_alive alive, callsOf_call, callsOf_nil]
    refine accounts.concat_neutral (accounts.admissible_of_live ?_ ?_) rfl rfl rfl rfl
    · rintro serial ⟨⟩
    · rintro serial ⟨⟩
      rfl

theorem opened {built : List (Call κ υ)} (opened : Opened setup built s) : Books built s := by
  obtain ⟨context, options, set, alive, table_eq, rfl, only_set⟩ := opened.spec
  clear opened
  have accounts := Accounts.first (υ := υ) options context s.analyzer.units
  have nothing_held : holdings (.empty : PathTable (Entry υ)) = [] := rfl
  rw [Books, heldContext_of_alive alive, table_eq, nothing_held, ← List.singleton_append]
  -- All that may follow the first call is that options are set.
  generalize [Call.createContext options (.value context)] = log at accounts
  induction set generalizing log with
  | nil => simpa using accounts
  | cons call rest ih =>
    obtain ⟨set, rfl⟩ := only_set call List.mem_cons_self
    rw [List.append_cons]
    refine ih (fun other mem => only_set other (.tail _ mem)) _ ?_
    refine accounts.concat_neutral (accounts.admissible_of_live ?_ ?_) rfl rfl rfl rfl
    · rintro serial ⟨⟩
    · rintro serial ⟨⟩
      rfl

theorem after {built : List (Call κ υ)} (books : Books built s) (sound : Sound s)
    (occasions : List (Occasion ω υ)) :
    Books (built ++ callLog (setup.history s occasions)) (setup.after s occasions) ∧
      Sound (setup.after s occasions) := by
  induction occasions generalizing built s with
  | nil => exact ⟨by simpa [callLog, Setup.history, Setup.after] using books, sound⟩
  | cons occasion rest ih =>
    have does := Does.step setup sound occasion
    have next := ih (books.does sound does) (does.sound sound)
    simpa [callLog, Setup.history, Setup.after, Step.calls] using next

end Books

theorem Reachable.books {setup : Setup ω σ κ υ} {s : CacheState σ κ υ}
    (reachable : Reachable setup s) : ∃ log, Books log s := by
  obtain ⟨built, start, occasions, opened, rfl⟩ := reachable
  exact ⟨_, ((Books.opened opened).after opened.sound occasions).1⟩

/-! ## Closed caches -/

namespace Setup

variable {setup : Setup ω σ κ υ} {s : CacheState σ κ υ}

theorem context_of_isLast (setup : Setup ω σ κ υ) (sound : Sound s) {occasion : Occasion ω υ}
    (last : occasion.request.isLast) : (setup.step s occasion).state.context = none := by
  have destroyed (world : ω) (walk : Walk (Path × Entry υ)) :
      ((setup.destroy world walk).run s).state.context = none := by
    obtain ⟨pieces, last, inner, ran, -⟩ := setup.run_destroy world walk sound
    rw [ran]
  obtain ⟨moment, request⟩ := occasion
  unfold step
  cases request with
  | destroy walk => simpa only [Request.act, Act.run_map] using destroyed moment.world walk
  | drop walk =>
    simp only [Request.act, Act.run_map, setup.run_letGo moment.world walk sound]
    exact destroyed moment.world walk
  | _ => contradiction

theorem context_of_gone (setup : Setup ω σ κ υ) (sound : Sound s) (gone : s.context = none)
    (occasion : Occasion ω υ) : (setup.step s occasion).state.context = none := by
  have does := Does.step setup sound occasion
  generalize setup.step s occasion = ran at does
  obtain ⟨result, effects, left⟩ := ran
  cases does with
  | nothing | cleared => exact gone
  | closed => rfl
  | served asks serves => rw [serves.context_eq, gone]
  | removed removes =>
    obtain ⟨inner, left⟩ := removes.state_eq
    rw [left, gone]
  | read alive | set alive =>
    rw [gone] at alive
    contradiction

theorem after_of_gone (setup : Setup ω σ κ υ) (sound : Sound s) (gone : s.context = none)
    (occasions : List (Occasion ω υ)) : (setup.after s occasions).context = none := by
  induction occasions generalizing s with
  | nil => exact gone
  | cons occasion rest ih =>
    exact ih ((Does.step setup sound occasion).sound sound)
      (setup.context_of_gone sound gone occasion)

theorem after_of_isLast (setup : Setup ω σ κ υ) (sound : Sound s)
    {occasions : List (Occasion ω υ)} (last : ∃ occasion ∈ occasions, occasion.request.isLast) :
    (setup.after s occasions).context = none := by
  obtain ⟨occasion, mem, last⟩ := last
  induction mem generalizing s with
  | head rest =>
    exact setup.after_of_gone ((Does.step setup sound occasion).sound sound)
      (setup.context_of_isLast sound last) rest
  | tail other _ ih => exact ih ((Does.step setup sound other).sound sound)

end Setup

/-! ## What is lent -/

theorem lent_eq {setup : Setup ω σ κ υ} {entries : List (Entry υ)} {lent : List (LentUnit ω υ)}
    (lends : List.Forall₂ (Setup.Lends setup) entries lent) :
    lent.map (fun unit => (unit.unit.serial, unit.path)) =
      entries.filterMap Entry.holding? := by
  induction lends with
  | nil => rfl
  | cons first _ ih =>
    obtain ⟨held, same_path, -⟩ := first
    rw [List.map_cons, ih, List.filterMap_cons_some (Entry.holding?_of_held held), same_path]

theorem Setup.lendAll_perm (setup : Setup ω σ κ υ) {s : CacheState σ κ υ} (sound : Sound s)
    (walk : Walk (Entry υ)) :
    ∃ lent, (setup.lendAll walk).run s = ⟨.ok lent, [], s⟩ ∧
      (lent.map fun unit => (unit.unit.serial, unit.path)).Perm (holdings s.table) := by
  obtain ⟨lent, ran, lends⟩ := setup.run_lendAll walk sound
  refine ⟨lent, ran, ?_⟩
  rw [lent_eq lends]
  exact (walk.perm _).filterMap _

/-! ## Ownership -/

/-- Every unit of the log was disposed once, and then, last of all, its only context. -/
def AllDisposed (log : List (Call κ υ)) : Prop :=
  ∃ before context answer, log = before ++ [.disposeContext context .explicit answer] ∧
    createdContexts log = [context.serial] ∧ disposedContexts log = [context.serial] ∧
    (disposedUnits before).Perm ((madeUnits log).map (·.1)) ∧ (disposedUnits before).Nodup

/-- The calls of a run that leaves `s` agree with what is owned in `s`. -/
structure OwnedOnce (setup : Setup ω σ κ υ) (log : List (Call κ υ)) (s : CacheState σ κ υ) :
    Prop where
  /-- The units that are live are those of the entries, one for each. -/
  held : (liveUnits log).Perm (holdings s.table)
  entries : (holdings s.table).length = s.table.length
  once : ((liveUnits log).map (·.1)).Nodup
  lent : ∀ walk, ∃ lent, (setup.lendAll walk).run s = ⟨.ok lent, [], s⟩ ∧
    (lent.map fun unit => (unit.unit.serial, unit.path)).Perm (liveUnits log) ∧
      lent.length = s.table.length
  /-- At every call the live units belong to different files, and nothing is handed to the analyzer
  that is not live. -/
  admissible : ∀ before call after, log = before ++ call :: after → Admissible before call

theorem Accounts.allDisposed {log : List (Call κ υ)} {units : Nat}
    (accounts : Accounts log [] none units) : AllDisposed log := by
  obtain ⟨before, context, answer, rfl, ⟨created, none_disposed⟩, none_live⟩ :=
    accounts.closed rfl
  have made : madeUnits (before ++ [.disposeContext context .explicit answer]) =
      madeUnits before := by
    simp [Call.made?]
  have disposed : disposedUnits (before ++ [.disposeContext context .explicit answer]) =
      disposedUnits before := by
    simp [Call.disposedUnit?]
  have once := accounts.disposed_once
  have made_once := accounts.made_once
  have disposed_made := accounts.disposed_made
  rw [disposed] at once disposed_made
  refine ⟨before, context, answer, rfl, by simp [created, Call.created?],
    by simp [none_disposed, Call.disposedContext?], ?_, once⟩
  refine (List.perm_ext_iff_of_nodup once made_once).2 fun serial => ⟨disposed_made serial, ?_⟩
  rw [made]
  intro was_made
  obtain ⟨unit, mem, rfl⟩ := List.mem_map.1 was_made
  have not_live := List.filter_eq_nil_iff.1 none_live unit mem
  simpa using not_live

/-- Over every run each unit is owned once, and a cache that was destroyed or dropped has disposed
everything. -/
theorem owned_once {setup : Setup ω σ κ υ} {built : List (Call κ υ)} {start : CacheState σ κ υ}
    (opened : Opened setup built start) (occasions : List (Occasion ω υ)) :
    OwnedOnce setup (built ++ callLog (setup.history start occasions))
        (setup.after start occasions) ∧
      ((∃ occasion ∈ occasions, occasion.request.isLast) →
        (setup.after start occasions).context = none ∧
          AllDisposed (built ++ callLog (setup.history start occasions))) := by
  obtain ⟨books, sound⟩ := (Books.opened opened).after opened.sound occasions
  have accounts := books
  rw [Books] at accounts
  constructor
  · refine ⟨accounts.live, length_holdings sound, accounts.live_once, ?_, accounts.admissible⟩
    intro walk
    obtain ⟨lent, ran, perm⟩ := setup.lendAll_perm sound walk
    refine ⟨lent, ran, perm.trans accounts.live.symm, ?_⟩
    rw [← length_holdings sound, ← perm.length_eq, List.length_map]
  · intro last
    have gone := setup.after_of_isLast opened.sound last
    have nothing_held : holdings (setup.after start occasions).table = [] := by
      simp [holdings, SortedTable.values, books.entries_of_gone sound gone]
    rw [nothing_held, gone] at accounts
    exact ⟨gone, accounts.allDisposed⟩

/-- One unit is made for a file that is served twice, and it goes before the context. -/
theorem owned_once_of_served_twice :
    let time : FileTime := ⟨0, by decide, by decide⟩
    let occasions := [Scripted.occasion time .empty (.serve (.ofText "a") false),
      Scripted.occasion time .empty (.serve (.ofText "a/") true),
      Scripted.occasion time .empty (.destroy .inOrder)]
    let log := Scripted.built ++ callLog (Scripted.setup.history Scripted.start occasions)
    madeUnits log = [(0, .ofText "a")] ∧
      OwnedOnce Scripted.setup log (Scripted.setup.after Scripted.start occasions) ∧
      AllDisposed log :=
  ⟨rfl, (owned_once Scripted.opened _).1,
    ((owned_once Scripted.opened _).2 ⟨_, .tail _ (.tail _ (.head _)), rfl⟩).2⟩

end SourceIndex
