import SourceIndex.Proofs.Cache.Ownership
import SourceIndex.Proofs.Native.Handover
import SourceIndex.Proofs.Native.Ledger
import SourceIndex.Simulation.Stub

/-!
# Lifetimes of what the library made

A cache over a native library hands it only units and indexes that the library made for it and that
it has not disposed since. What the library did not make is an error and never a unit.
-/

namespace SourceIndex

variable {ω τ κ υ α : Type}

/-! ## What a cache holds -/

/-- The unit of an entry as the analyzer knows it. -/
def Entry.value? (entry : Entry υ) : Option υ := entry.unit.held.map (·.value)

theorem Entry.value?_of_held {entry : Entry υ} {unit : Handle υ} (held : entry.unit = .hold unit) :
    entry.value? = some unit.value := by
  simp [value?, held, Owned.hold]

/-- The units of a table as the analyzer knows them. -/
def unitValues (table : PathTable (Entry υ)) : List υ := table.values.filterMap Entry.value?

section

variable {table : PathTable (Entry υ)} {path : Path} {entry : Entry υ} {unit : Handle υ}

theorem unitValues_perm_erase (found : table.find? path = some entry)
    (held : entry.unit = .hold unit) :
    (unitValues table).Perm (unit.value :: unitValues (table.erase path)) :=
  SortedTable.filterMap_values_perm_erase found (Entry.value?_of_held held)

theorem unitValues_insert_perm (unknown : table.find? path = none)
    (held : entry.unit = .hold unit) :
    (unitValues (table.insert path entry)).Perm (unit.value :: unitValues table) :=
  SortedTable.filterMap_values_insert_perm unknown (Entry.value?_of_held held)

theorem unitValues_refresh (found : table.find? path = some entry)
    (held : entry.unit = .hold unit) (time : FileTime) :
    unitValues (table.insert path { entry with time, unit := .hold unit }) = unitValues table :=
  SortedTable.filterMap_values_insert_of_found found (by simp [Entry.value?, held])

end

/-- The context of a cache as the analyzer knows it. -/
def contextValues (context : Option (Owned κ)) : List κ :=
  (context.bind fun owned => owned.held.map (·.value)).toList

theorem mem_contextValues {context : Handle κ} :
    context.value ∈ contextValues (some (.hold context)) := by
  simp [contextValues, Owned.hold]

/-- What an answer gives. -/
def Answer.value? : Answer α → Option α
  | value a => some a
  | fault _ | panic _ => none

namespace Native

/-! ## Calls of the library -/

/-- The calls since `old` agree with what somebody holds. -/
def Holds (old calls : List Call) (units : List UnitRef) (indexes : List IndexRef) : Prop :=
  ∃ new, calls = old ++ new ∧ Kind.units.Tended new units ∧ Kind.indexes.Tended new indexes

namespace Holds

variable {old calls : List Call} {call : Call} {units units' : List UnitRef}
  {indexes indexes' : List IndexRef} {unit : UnitRef} {index : IndexRef}

theorem start (calls : List Call) : Holds calls calls [] [] :=
  ⟨[], (List.append_nil calls).symm, .nil, .nil⟩

theorem perm (holds : Holds old calls units indexes) (same : units.Perm units') :
    Holds old calls units' indexes := by
  obtain ⟨new, calls_eq, units_tended, indexes_tended⟩ := holds
  exact ⟨new, calls_eq, units_tended.perm same, indexes_tended⟩

theorem concat (holds : Holds old calls units indexes)
    (unit_held : ∀ unit, Kind.units.used? call = some unit → unit ∈ units)
    (index_held : ∀ index, Kind.indexes.used? call = some index → index ∈ indexes)
    (units_moved : (units ++ (Kind.units.made? call).toList).Perm
      ((Kind.units.disposed? call).toList ++ units'))
    (indexes_moved : (indexes ++ (Kind.indexes.made? call).toList).Perm
      ((Kind.indexes.disposed? call).toList ++ indexes')) :
    Holds old (calls ++ [call]) units' indexes' := by
  obtain ⟨new, rfl, units_tended, indexes_tended⟩ := holds
  exact ⟨new ++ [call], List.append_assoc .., units_tended.concat unit_held units_moved,
    indexes_tended.concat index_held indexes_moved⟩

theorem concat_neutral (holds : Holds old calls units indexes)
    (unit_held : ∀ unit, Kind.units.used? call = some unit → unit ∈ units)
    (index_held : ∀ index, Kind.indexes.used? call = some index → index ∈ indexes)
    (nothing : Kind.units.made? call = none ∧ Kind.units.disposed? call = none ∧
      Kind.indexes.made? call = none ∧ Kind.indexes.disposed? call = none) :
    Holds old (calls ++ [call]) units indexes := by
  obtain ⟨made, disposed, created, closed⟩ := nothing
  exact holds.concat unit_held index_held (by simp [made, disposed]) (by simp [created, closed])

theorem concat_createIndex (holds : Holds old calls units indexes) (exclude display : Int32)
    (made : Option IndexRef) :
    Holds old (calls ++ [.createIndex exclude display made]) units (made.toList ++ indexes) :=
  holds.concat nofun nofun (by simp [Kind.units])
    (by simpa [Kind.indexes] using List.perm_append_comm)

theorem concat_parse (holds : Holds old calls units indexes) {request : ParseRequest}
    (mem : request.index ∈ indexes) (made : Option UnitRef) :
    Holds old (calls ++ [.parse request made]) (made.toList ++ units) indexes := by
  refine holds.concat nofun ?_ (by simpa [Kind.units] using List.perm_append_comm)
    (by simp [Kind.indexes])
  rintro index ⟨⟩
  exact mem

theorem concat_disposeUnit (holds : Holds old calls (unit :: units) indexes) :
    Holds old (calls ++ [.disposeUnit unit]) units indexes := by
  refine holds.concat ?_ nofun (by simp [Kind.units]) (by simp [Kind.indexes])
  rintro unit ⟨⟩
  exact List.mem_cons_self

theorem concat_disposeIndex (holds : Holds old calls units (index :: indexes)) :
    Holds old (calls ++ [.disposeIndex index]) units indexes := by
  refine holds.concat nofun ?_ (by simp [Kind.units]) (by simp [Kind.indexes])
  rintro unit ⟨⟩
  exact List.mem_cons_self

end Holds

/-! ## The analyzer -/

namespace Holds

variable {old : List Call} {state state' : State τ} {units : List UnitRef}
  {indexes : List IndexRef} {unit after : UnitRef} {index : IndexRef} {library : Library ω τ}
  {world : ω} {buffers : List Buffer}

theorem createContext (holds : Holds old state.calls units indexes) {options : ContextOptions}
    {answer : Answer IndexRef}
    (answered : library.createContext world options state = (answer, state')) :
    Holds old state'.calls units (answer.value?.toList ++ indexes) := by
  obtain ⟨rfl, rfl⟩ := Prod.mk.inj answered
  have created := holds.concat_createIndex (flag options.excludeDeclarationsFromPch)
    (flag options.displayDiagnostics)
    (library.createIndex world (flag options.excludeDeclarationsFromPch)
      (flag options.displayDiagnostics) state.library).1
  dsimp only
  revert created
  cases (library.createIndex world _ _ state.library).1 <;> exact id

theorem parseUnit (holds : Holds old state.calls units indexes) (mem : index ∈ indexes)
    {path : Path} {args : List String} {answer : Answer UnitRef}
    (answered : library.parseUnit world index path args buffers state = (answer, state')) :
    Holds old state'.calls (answer.value?.toList ++ units) indexes := by
  have parses := library.parses_parseUnit world index path args buffers state
  rw [answered] at parses
  cases parses with
  | refused first => exact holds
  | @handed request made after fit shows _ =>
    have asked : Holds old (state.calls ++ [.defaultEditingOptions]) units indexes :=
      holds.concat_neutral nofun nofun ⟨rfl, rfl, rfl, rfl⟩
    have parsed := asked.concat_parse (shows.index_eq ▸ mem) made
    rw [List.append_assoc] at parsed
    cases made <;> exact parsed

theorem reparseUnit (holds : Holds old state.calls units indexes) (mem : unit ∈ units)
    {answer : Answer Unit}
    (answered : library.reparseUnit world unit buffers state = (answer, after, state')) :
    after = unit ∧ Holds old state'.calls units indexes := by
  have reparses := library.reparses_reparseUnit world unit buffers state
  rw [answered] at reparses
  cases reparses with
  | refused first => exact ⟨rfl, holds⟩
  | @handed request code after fit shows _ =>
    have asked : Holds old (state.calls ++ [.defaultReparseOptions unit]) units indexes := by
      refine holds.concat_neutral ?_ nofun ⟨rfl, rfl, rfl, rfl⟩
      rintro unit ⟨⟩
      exact mem
    have reparsed : Holds old (state.calls ++ [.defaultReparseOptions unit] ++
        [.reparse request code]) units indexes := by
      refine asked.concat_neutral ?_ nofun ⟨rfl, rfl, rfl, rfl⟩
      rintro unit ⟨⟩
      exact shows.unit_eq ▸ mem
    rw [List.append_assoc] at reparsed
    exact ⟨rfl, reparsed⟩

theorem disposeOne (holds : Holds old state.calls (unit :: units) indexes) {answer : Answer Unit}
    (answered : library.disposeOne world unit state = (answer, state')) :
    Holds old state'.calls units indexes := by
  obtain ⟨-, rfl⟩ := Prod.mk.inj answered
  exact holds.concat_disposeUnit

theorem disposeContext (holds : Holds old state.calls units (index :: indexes))
    {answer : Answer Unit}
    (answered : library.disposeContext world index state = (answer, state')) :
    Holds old state'.calls units indexes := by
  obtain ⟨-, rfl⟩ := Prod.mk.inj answered
  exact holds.concat_disposeIndex

theorem globalOptions (holds : Holds old state.calls units indexes) (mem : index ∈ indexes)
    {options : GlobalOptions}
    (answered : library.globalOptions world index state = (options, state')) :
    Holds old state'.calls units indexes := by
  obtain ⟨-, rfl⟩ := Prod.mk.inj answered
  refine holds.concat_neutral nofun ?_ ⟨rfl, rfl, rfl, rfl⟩
  rintro index ⟨⟩
  exact mem

theorem setOptions (holds : Holds old state.calls units indexes) (mem : index ∈ indexes)
    (options : GlobalOptions) :
    Holds old (library.setOptions world index options state).calls units indexes := by
  refine holds.concat_neutral nofun ?_ ⟨rfl, rfl, rfl, rfl⟩
  rintro index ⟨⟩
  exact mem

end Holds

/-! ## The cache -/

/-- A cache over a library, and the library at work. -/
abbrev NativeState (τ : Type) := CacheState (State τ) IndexRef UnitRef

abbrev NativeRan (τ α : Type) := Ran (NativeState τ) (Effect IndexRef UnitRef) α

/-- The calls since `old` agree with what the cache holds. -/
def Tends (old : List Call) (s : NativeState τ) : Prop :=
  Holds old s.analyzer.inner.calls (unitValues s.table) (contextValues s.context)

namespace Tends

variable {library : Library ω τ} {setup : Setup ω (State τ) IndexRef UnitRef}
  {s : NativeState τ} {old : List Call} {world : ω} {path : Path}

section

variable (native : setup.analyzer = library.analyzer) (tends : Tends old s)
include native tends

theorem removes {ran : NativeRan τ Unit} (removes : setup.Removes world path s ran) :
    Tends old ran.state := by
  cases removes with
  | absent => exact tends
  | present found held answered =>
    rw [native] at answered
    exact (Holds.perm tends (unitValues_perm_erase found held)).disposeOne answered

theorem refreshes {time : FileTime} {reason : String} {entry : Entry UnitRef}
    {unit : Handle UnitRef} {ran : NativeRan τ (Option (LentUnit ω UnitRef))}
    (found : s.table.find? path = some entry) (held : entry.unit = .hold unit)
    (refreshes : setup.Refreshes world path time reason s entry unit ran) :
    Tends old ran.state := by
  have mem : unit.value ∈ unitValues s.table :=
    (unitValues_perm_erase found held).mem_iff.2 List.mem_cons_self
  cases refreshes with
  | reparsed answered | failed answered | panicked answered =>
    rw [native] at answered
    obtain ⟨rfl, holds⟩ := Holds.reparseUnit tends mem answered
    unfold Tends
    rw [unitValues_refresh found held]
    exact holds

theorem cleared {removed : NativeRan τ Unit} (removes : setup.Removes world path s removed) :
    Holds old removed.state.analyzer.inner.calls (unitValues (s.table.erase path))
      (contextValues s.context) := by
  have left := tends.removes native removes
  obtain ⟨inner, state_eq⟩ := removes.state_eq
  rw [state_eq] at left ⊢
  exact left

theorem parses {args : List String} {time : FileTime}
    {ran : NativeRan τ (Option (LentUnit ω UnitRef))}
    (parses : setup.Parses world path args time s ran) : Tends old ran.state := by
  cases parses with
  | destroyed removes gone => exact tends.removes native removes
  | @parsed removed context value inner removes alive answered =>
    rw [native] at answered
    have parsed := (tends.cleared native removes).parseUnit (alive ▸ mem_contextValues) answered
    have stored : (unitValues ((s.table.erase path).insert path
        ⟨path, args, time, .hold ⟨s.analyzer.units, value⟩⟩)).Perm _ :=
      unitValues_insert_perm (s.table.find?_erase_of_same (SameKey.refl path)) rfl
    exact parsed.perm stored.symm
  | failed removes alive answered | panicked removes alive answered =>
    rw [native] at answered
    exact (tends.cleared native removes).parseUnit (alive ▸ mem_contextValues) answered

theorem serves {moment : Moment ω} {force : Bool}
    {ran : NativeRan τ (Option (LentUnit ω UnitRef))}
    (serves : setup.Serves moment path force s ran) : Tends old ran.state := by
  cases serves with
  | unindexable | unreadable | hit => exact tends
  | refreshed _ _ found held _ refreshes =>
    have left := tends.refreshes native found held refreshes
    exact left
  | rebuilt _ _ _ parses =>
    have left := tends.parses native parses
    exact left

end

/-! ### Disposing everything -/

theorem disposesAll (native : setup.analyzer = library.analyzer)
    {list : List (Path × Entry UnitRef)} {inner last : State τ} {indexes : List IndexRef}
    (disposed : setup.DisposesAll world list inner last)
    (holds : Holds old inner.calls ((list.map (·.2)).filterMap Entry.value?) indexes) :
    Holds old last.calls [] indexes := by
  induction disposed with
  | nil => exact holds
  | cons held answered _ ih =>
    rw [List.map_cons, List.filterMap_cons_some (Entry.value?_of_held held)] at holds
    rw [native] at answered
    exact ih (holds.disposeOne answered)

theorem run_removeAll (native : setup.analyzer = library.analyzer) (tends : Tends old s)
    (sound : Sound s) (world : ω) (walk : Walk (Path × Entry UnitRef)) :
    ∃ effects inner, (setup.removeAll world walk).run s =
        ⟨.ok (), effects, ⟨{ s.analyzer with inner }, s.context, .empty⟩⟩ ∧
      Holds old inner.calls [] (contextValues s.context) := by
  obtain ⟨pieces, inner, ran, -, disposed⟩ := setup.run_removeAll world walk sound
  have arranged := ((walk.perm s.table.entries).symm.map (·.2)).filterMap Entry.value?
  exact ⟨_, inner, ran, disposesAll native disposed (Holds.perm tends arranged)⟩

theorem destroy (native : setup.analyzer = library.analyzer) (tends : Tends old s)
    (sound : Sound s) (world : ω) (walk : Walk (Path × Entry UnitRef)) :
    Tends old ((setup.destroy world walk).run s).state := by
  obtain ⟨effects, inner, ran, none_left⟩ := run_removeAll native tends sound world walk
  cases alive : s.context with
  | none =>
    rw [Setup.run_destroy_of_gone ran alive]
    rw [alive] at none_left
    exact none_left
  | some owned =>
    obtain ⟨context, rfl⟩ := sound.context_held owned alive
    rw [Setup.run_destroy_of_alive ran alive rfl, native]
    rw [alive] at none_left
    exact Holds.disposeContext none_left rfl

/-! ### Every request -/

theorem performs (native : setup.analyzer = library.analyzer) (tends : Tends old s)
    (sound : Sound s) {occasion : Occasion ω UnitRef} {effects : List (Effect IndexRef UnitRef)}
    {s' : NativeState τ} (performs : setup.Performs occasion s effects s') : Tends old s' := by
  cases performs with
  | nothing => exact tends
  | serve asks => exact tends.serves native (setup.serves_serve sound _ _ _)
  | remove path => exact tends.removes native (setup.removes_remove sound _ path)
  | removeAll walk =>
    obtain ⟨effects, inner, ran, none_left⟩ :=
      run_removeAll native tends sound occasion.moment.world walk
    rw [ran]
    exact none_left
  | destroy walk => exact tends.destroy native sound _ walk
  | globalOptions alive answered =>
    rw [native] at answered
    exact Holds.globalOptions tends (alive ▸ mem_contextValues) answered
  | setGlobalOptions alive options =>
    rw [native]
    exact Holds.setOptions tends (alive ▸ mem_contextValues) options

theorem after (native : setup.analyzer = library.analyzer) (tends : Tends old s) (sound : Sound s)
    (occasions : List (Occasion ω UnitRef)) : Tends old (setup.after s occasions) := by
  induction occasions generalizing s with
  | nil => exact tends
  | cons occasion rest ih =>
    have performs := setup.performs_step sound occasion
    exact ih (tends.performs native sound performs) ((Does.of_performs sound performs).sound sound)

/-! ### Opening -/

theorem opened {plan : Blueprint ω} {start left : AnalyzerState (State τ)}
    {cache : Cache ω (State τ) IndexRef UnitRef} {effects : List (Effect IndexRef UnitRef)}
    (built : (plan.build library.analyzer world).run start = ⟨.ok (.ok cache), effects, left⟩) :
    Tends start.inner.calls ⟨left, cache.context, cache.table⟩ := by
  obtain ⟨value, inner, answered⟩ := Blueprint.answered_of_build built
  rw [Blueprint.run_build_of_value answered] at built
  obtain ⟨same_cache, -, rfl⟩ := Ran.mk.inj built
  obtain rfl := Except.ok.inj (Except.ok.inj same_cache)
  have created : Holds start.inner.calls inner.calls [] [value] :=
    (Holds.start start.inner.calls).createContext answered
  cases plan.globalOptions with
  | none => exact created
  | some options => exact created.setOptions List.mem_cons_self options

end Tends

/-! ## Whole runs -/

/-- Nothing is used that the library did not make, or that was disposed since. -/
structure UsesLive (calls : List Call) : Prop where
  /-- A number may come again, but it is never disposed more often than it was given. -/
  units_sparing : Kind.units.Sparing calls
  indexes_sparing : Kind.indexes.Sparing calls
  /-- Unless the library gives the number of a live unit again. -/
  units_live : Kind.units.Fresh calls → ∀ before call after, calls = before ++ call :: after →
    ∀ unit, Kind.units.used? call = some unit → Kind.units.Live before unit
  indexes_live : Kind.indexes.Fresh calls → ∀ before call after,
    calls = before ++ call :: after →
      ∀ index, Kind.indexes.used? call = some index → Kind.indexes.Live before index

theorem Holds.usesLive {old calls : List Call} {units : List UnitRef} {indexes : List IndexRef}
    (holds : Holds old calls units indexes) : ∃ new, calls = old ++ new ∧ UsesLive new := by
  obtain ⟨new, calls_eq, units_tended, indexes_tended⟩ := holds
  exact ⟨new, calls_eq, units_tended.sparing, indexes_tended.sparing,
    units_tended.sparing.live, indexes_tended.sparing.live⟩

/-- How a library is used. -/
structure Library.Faithful (library : Library ω τ) : Prop where
  parses : ∀ world index path args buffers s,
    library.Parses world index path args buffers s
      (library.parseUnit world index path args buffers s)
  parses_iff : ∀ world index path args buffers s,
    (∃ request made, (library.parseUnit world index path args buffers s).2.calls =
        s.calls ++ [.defaultEditingOptions, .parse request made]) ↔
      ∀ item ∈ parseItems path args buffers, item.Fits
  reparses : ∀ world unit buffers s,
    library.Reparses world unit buffers s (library.reparseUnit world unit buffers s)
  reparses_iff : ∀ world unit buffers s,
    (∃ request code, (library.reparseUnit world unit buffers s).2.2.calls =
        s.calls ++ [.defaultReparseOptions unit, .reparse request code]) ↔
      ∀ item ∈ reparseItems buffers, item.Fits
  creates : ∀ world options s,
    let exclude : Int32 := if options.excludeDeclarationsFromPch then 1 else 0
    let display : Int32 := if options.displayDiagnostics then 1 else 0
    ∀ made after, library.createIndex world exclude display s.library = (made, after) →
      library.createContext world options s = (madeOr "clang_createIndex returned null" made,
        ⟨after, s.calls ++ [.createIndex exclude display made]⟩)
  /-- Over every run of a cache. -/
  live : ∀ (plan : Blueprint ω) world start cache effects left,
    (plan.build library.analyzer world).run start = ⟨.ok (.ok cache), effects, left⟩ →
      ∀ occasions, ∃ new,
        (cache.setup.after ⟨left, cache.context, cache.table⟩ occasions).analyzer.inner.calls =
          start.inner.calls ++ new ∧ UsesLive new

theorem library_is_used_faithfully (library : Library ω τ) : library.Faithful where
  parses := library.parses_parseUnit
  parses_iff world index path args buffers s :=
    (library.parses_parseUnit world index path args buffers s).called_iff
  reparses := library.reparses_reparseUnit
  reparses_iff world unit buffers s :=
    (library.reparses_reparseUnit world unit buffers s).called_iff
  creates := by
    intro world options s exclude display made after answered
    have answered : library.createIndex world (flag options.excludeDeclarationsFromPch)
        (flag options.displayDiagnostics) s.library = (made, after) := answered
    unfold Library.createContext
    simp only [answered]
    cases made <;> rfl
  live := by
    intro plan world start cache effects left built occasions
    have native : cache.setup.analyzer = library.analyzer := by
      obtain ⟨context, set, rfl, -⟩ := Blueprint.build_spec built
      rfl
    have sound := (Blueprint.opened_of_build built).sound
    exact ((Tends.opened built).after native sound occasions).usesLive

/-- A buffer with a zero byte in it is handed over twice, and the unit and the index are gone after
that. A parse and a reparse that cannot hand over everything call nothing and tell of the first
offender. -/
theorem library_is_used_faithfully_of_stub :
    let library : Library Unit Simulation.StubState := Simulation.stub fun _ => .start
    let plan : Blueprint Unit := .ofClauses
      [.overlay fun _ => [⟨.ofText "b.h", "x\x00y"⟩], .provider fun _ _ => ["-w"]]
    let setup := plan.setup library.analyzer
    let opened : NativeState Simulation.StubState :=
      ⟨⟨⟨⟨1, 0, []⟩, [.createIndex 0 0 (some ⟨1⟩)]⟩, 0, 1⟩, some (.hold ⟨0, ⟨1⟩⟩), .empty⟩
    let moment : Moment Unit := ⟨fun _ => .ok ⟨0, by decide, by decide⟩, ()⟩
    let occasions : List (Occasion Unit UnitRef) := [⟨moment, .serve (.ofText "a.c") false⟩,
      ⟨moment, .serve (.ofText "a.c") true⟩, ⟨moment, .destroy .inOrder⟩]
    let calls := (setup.after opened occasions).analyzer.inner.calls
    let views : List View := [⟨⟨[0x62, 0x2e, 0x68, 0]⟩, [0x78, 0, 0x79], 3⟩]
    let log : List Call := [.createIndex 0 0 (some ⟨1⟩), .defaultEditingOptions,
      .parse ⟨⟨1⟩, ⟨[0x61, 0x2e, 0x63, 0]⟩, [⟨[0x2d, 0x77, 0]⟩], 1, some views, 1, 13⟩ (some ⟨1⟩),
      .defaultReparseOptions ⟨1⟩, .reparse ⟨⟨1⟩, 1, some views, 0⟩ 0, .disposeUnit ⟨1⟩,
      .disposeIndex ⟨1⟩]
    let idle := opened.analyzer.inner
    let args := ["-w", "-D\x00", "\x00"]
    let buffers : List Buffer := [⟨.ofText "b.h", ""⟩, ⟨⟨[0xFF]⟩, "y"⟩, ⟨.ofText "\x00", ""⟩]
    let parsed := library.parseUnit () ⟨1⟩ (.ofText "a.c") args buffers idle
    let reparsed := library.reparseUnit () ⟨1⟩ buffers idle
    (calls = log ∧ ∀ before call after, calls = before ++ call :: after →
      ∀ unit, Kind.units.used? call = some unit → Kind.units.Live before unit) ∧
    (parsed = (.fault "argument contains NUL: -D\x00", idle) ∧
      library.Parses () ⟨1⟩ (.ofText "a.c") args buffers idle parsed) ∧
    reparsed = (.fault "path is not UTF-8: \uFFFD", ⟨1⟩, idle) ∧
      library.Reparses () ⟨1⟩ buffers idle reparsed := by
  intro library plan setup opened moment occasions calls views log idle args buffers parsed reparsed
  have built : (plan.build library.analyzer ()).run (.start ⟨.start, []⟩) =
      ⟨.ok (.ok ⟨setup, opened.context, opened.table⟩), _, opened.analyzer⟩ := rfl
  have faithful := library_is_used_faithfully library
  obtain ⟨new, calls_eq, uses_live⟩ := faithful.live _ _ _ _ _ _ built occasions
  obtain rfl : calls = new := calls_eq
  have shown : calls = log := by decide +kernel +zetaReduce
  have fresh : Kind.units.Fresh calls := Kind.fresh_of_nodup (by rw [shown]; decide)
  exact ⟨⟨shown, uses_live.units_live fresh⟩,
    ⟨by decide +kernel +zetaReduce, faithful.parses () ⟨1⟩ (.ofText "a.c") args buffers idle⟩,
    by decide +kernel +zetaReduce, faithful.reparses () ⟨1⟩ buffers idle⟩

end Native

end SourceIndex
