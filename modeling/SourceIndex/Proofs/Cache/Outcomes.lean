import SourceIndex.Proofs.Cache.Runs
import SourceIndex.Proofs.Tables

/-!
# What requests do

All that can come of a request to a cache that holds its units and its context: how it ends, what
it leaves behind, and every effect on the way.
-/

namespace SourceIndex

variable {ω σ κ υ α : Type}

/-! ## Sound states -/

/-- Nothing that the cache owns was handed back, and every entry lies under its own path. -/
structure Sound (s : CacheState σ κ υ) : Prop where
  unit_held : ∀ cached ∈ s.table.entries, ∃ unit, cached.2.unit = .hold unit
  context_held : ∀ context, s.context = some context → ∃ handle, context = .hold handle
  own_path : ∀ cached ∈ s.table.entries, cached.2.path = cached.1

namespace Sound

variable {s : CacheState σ κ υ} {path : Path} {entry : Entry υ}

theorem found (sound : Sound s) (h : s.table.find? path = some entry) :
    (∃ unit, entry.unit = .hold unit) ∧ entry.path.Same path := by
  obtain ⟨cached, mem, same, rfl⟩ := SortedTable.find?_eq_some_iff.1 h
  refine ⟨sound.unit_held cached mem, ?_⟩
  rw [sound.own_path cached mem]
  exact Path.sameKey_iff_same.1 same

theorem erase (sound : Sound s) (analyzer : AnalyzerState σ) (path : Path) :
    Sound ⟨analyzer, s.context, s.table.erase path⟩ where
  unit_held cached mem := sound.unit_held cached (SortedTable.mem_erase_iff.1 mem).1
  context_held := sound.context_held
  own_path cached mem := sound.own_path cached (SortedTable.mem_erase_iff.1 mem).1

theorem refresh (sound : Sound s) (analyzer : AnalyzerState σ)
    (found : s.table.find? path = some entry) (time : FileTime) (unit : Handle υ) :
    Sound ⟨analyzer, s.context, s.table.insert path { entry with time, unit := .hold unit }⟩ where
  unit_held := by
    intro cached mem
    rcases (SortedTable.mem_insert_of_found found).1 mem with ⟨mem, -⟩ | ⟨-, -, eq⟩
    · exact sound.unit_held cached mem
    · rw [eq]
      exact ⟨unit, rfl⟩
  context_held := sound.context_held
  own_path := by
    intro cached mem
    rcases (SortedTable.mem_insert_of_found found).1 mem with ⟨mem, -⟩ | ⟨mem, -, eq⟩
    · exact sound.own_path cached mem
    · rw [eq]
      exact sound.own_path _ mem

theorem store (sound : Sound s) (analyzer : AnalyzerState σ) (path : Path) (args : List String)
    (time : FileTime) (unit : Handle υ) :
    Sound ⟨analyzer, s.context,
      (s.table.erase path).insert path ⟨path, args, time, .hold unit⟩⟩ where
  unit_held := by
    intro cached mem
    have unknown := s.table.find?_erase_of_same (SameKey.refl path)
    rcases (SortedTable.mem_insert_of_not_found unknown).1 mem with rfl | mem
    · exact ⟨unit, rfl⟩
    · exact (sound.erase analyzer path).unit_held cached mem
  context_held := sound.context_held
  own_path := by
    intro cached mem
    have unknown := s.table.find?_erase_of_same (SameKey.refl path)
    rcases (SortedTable.mem_insert_of_not_found unknown).1 mem with rfl | mem
    · rfl
    · exact (sound.erase analyzer path).own_path cached mem

end Sound

/-! ## Answers with numbers -/

namespace Answer

@[simp] theorem count_value (made : Nat) (a : α) : count made (.value a) = made + 1 := rfl

@[simp] theorem count_fault (made : Nat) (message : String) :
    count made (.fault message : Answer α) = made := rfl

@[simp] theorem count_panic (made : Nat) (payload : Payload) :
    count made (.panic payload : Answer α) = made := rfl

end Answer

namespace Setup

variable (setup : Setup ω σ κ υ)

/-! ## Logging and reporting -/

def announced (path : Path) (message : String) : List (Effect κ υ) :=
  if setup.isVerbose then [.event (.about path .info message)] else []

/-- How a request ended. How long it took is left out. -/
def concluded (path : Path) (outcome : String) : Effect κ υ :=
  .event (.about path (if setup.isVerbose then .info else .trace) outcome)

def told (level : Level) (failure : Failure) : List (Effect κ υ) :=
  .event ⟨level, failure.message, []⟩ ::
    match setup.inbox with
    | some inbox => [.diagnostic inbox failure.diagnostic]
    | none => []

/-- What is reported about a disposal that was answered so. -/
def disposalNoted (what : String) (answer : Answer Unit) : List (Effect κ υ) :=
  match disposalFault? answer.outcome with
  | none => []
  | some reason => setup.told .warn (.disposeFailed what reason)

@[simp] theorem run_announce (path : Path) (message : String) (s : CacheState σ κ υ) :
    (setup.announce path message).run s = ⟨.ok (), setup.announced path message, s⟩ := by
  unfold announce announced
  split <;> rfl

@[simp] theorem run_conclude (path : Path) (outcome : String) (s : CacheState σ κ υ) :
    (setup.conclude path outcome).run s = ⟨.ok (), [setup.concluded path outcome], s⟩ := rfl

@[simp] theorem run_tell (level : Level) (failure : Failure) (s : CacheState σ κ υ) :
    (setup.tell level failure).run s = ⟨.ok (), setup.told level failure, s⟩ := by
  unfold tell told
  cases setup.inbox <;> rfl

@[simp] theorem run_fail (failure : Failure) (s : CacheState σ κ υ) :
    (setup.fail failure).run s = ⟨.ok none, setup.told .error failure, s⟩ := by
  rw [fail, Act.run_bind_of_ok (setup.run_tell .error failure s), Act.run_pure, List.append_nil]

@[simp] theorem run_noteDisposal (what : String) (answer : Answer Unit) (s : CacheState σ κ υ) :
    (setup.noteDisposal what answer.outcome).run s =
      ⟨.ok (), setup.disposalNoted what answer, s⟩ := by
  unfold noteDisposal disposalNoted
  cases disposalFault? answer.outcome with
  | none => rfl
  | some reason => exact run_tell ..

@[simp] theorem callsOf_announced (path : Path) (message : String) :
    callsOf (setup.announced path message) = [] := by
  unfold announced
  split <;> rfl

@[simp] theorem callsOf_concluded (path : Path) (outcome : String) (rest : List (Effect κ υ)) :
    callsOf (setup.concluded path outcome :: rest) = callsOf rest := rfl

@[simp] theorem callsOf_told (level : Level) (failure : Failure) :
    callsOf (setup.told level failure) = [] := by
  unfold told
  split <;> rfl

@[simp] theorem callsOf_disposalNoted (what : String) (answer : Answer Unit) :
    callsOf (setup.disposalNoted what answer) = [] := by
  unfold disposalNoted
  split <;> simp

/-! ## Lending -/

variable {setup} {s : CacheState σ κ υ} {path : Path} {entry : Entry υ} {unit : Handle υ}

theorem run_lendEntry (held : entry.unit = .hold unit) :
    (setup.lendEntry entry).run s = ⟨.ok ⟨entry.path, unit, setup.overlay⟩, [], s⟩ := by
  unfold lendEntry
  rw [held]
  rfl

theorem run_lend (found : s.table.find? path = some entry) (held : entry.unit = .hold unit) :
    (setup.lend path).run s = ⟨.ok (some ⟨entry.path, unit, setup.overlay⟩), [], s⟩ := by
  rw [lend, Act.run_bind_of_ok (Act.run_state s)]
  simp only [found, Act.run_map, run_lendEntry held]
  rfl

theorem run_lend_insert (analyzer : AnalyzerState σ) (context : Option (Owned κ))
    (table : PathTable (Entry υ)) (path own : Path) (args : List String) (time : FileTime)
    (unit : Handle υ) :
    (setup.lend path).run ⟨analyzer, context, table.insert path ⟨own, args, time, .hold unit⟩⟩ =
      ⟨.ok (some ⟨own, unit, setup.overlay⟩), [],
        ⟨analyzer, context, table.insert path ⟨own, args, time, .hold unit⟩⟩⟩ := by
  have found := table.find?_insert_of_same ⟨own, args, time, .hold unit⟩ (SameKey.refl path)
  exact run_lend (s := ⟨analyzer, context, _⟩) found rfl

/-! ## Removing -/

theorem run_callDisposeUnit {analyzer : Analyzer ω σ κ υ} {world : ω} {answer : Answer Unit}
    {inner : σ} (release : Release)
    (answered : analyzer.disposeUnit world unit.value s.analyzer.inner = (answer, inner)) :
    (CacheAct.call (analyzer.callDisposeUnit world unit release)).run s =
      ⟨answer.outcome, [.call (.disposeUnit unit release answer)],
        { s with analyzer := { s.analyzer with inner } }⟩ := by
  simp [CacheAct.call, Analyzer.callDisposeUnit, answered]

theorem run_disposeEntry {world : ω} {answer : Answer Unit} {inner : σ}
    (held : entry.unit = .hold unit)
    (answered : setup.analyzer.disposeUnit world unit.value s.analyzer.inner = (answer, inner)) :
    (setup.disposeEntry world entry).run s =
      ⟨.ok (), .call (.disposeUnit unit .explicit answer) ::
        setup.disposalNoted ("translation unit " ++ entry.path.shown) answer,
        { s with analyzer := { s.analyzer with inner } }⟩ := by
  have disposed : (Act.attempt (CacheAct.call (entry.unit.disposeUnit setup.analyzer world))).run
      s = ⟨.ok answer.outcome, [.call (.disposeUnit unit .explicit answer)],
        { s with analyzer := { s.analyzer with inner } }⟩ := by
    rw [held]
    simp [Owned.disposeUnit, Owned.hold, run_callDisposeUnit .explicit answered]
  rw [disposeEntry, Act.run_bind_of_ok disposed, run_noteDisposal]
  rfl

/-- What can come of removing the unit of a file. -/
inductive Removes (setup : Setup ω σ κ υ) (world : ω) (path : Path) (s : CacheState σ κ υ) :
    Ran (CacheState σ κ υ) (Effect κ υ) Unit → Prop
  | absent (unknown : s.table.find? path = none) : Removes setup world path s ⟨.ok (), [], s⟩
  | present {entry unit answer inner} (found : s.table.find? path = some entry)
      (held : entry.unit = .hold unit)
      (answered : setup.analyzer.disposeUnit world unit.value s.analyzer.inner =
        (answer, inner)) :
      Removes setup world path s
        ⟨.ok (), setup.announced path "removing index" ++
          .call (.disposeUnit unit .explicit answer) ::
            setup.disposalNoted ("translation unit " ++ entry.path.shown) answer,
          ⟨{ s.analyzer with inner }, s.context, s.table.erase path⟩⟩

theorem removes_remove (setup : Setup ω σ κ υ) (sound : Sound s) (world : ω) (path : Path) :
    Removes setup world path s ((setup.remove world path).run s) := by
  rw [remove, Act.run_bind_of_ok (Act.run_state s)]
  cases found : s.table.find? path with
  | none => exact .absent found
  | some entry =>
    obtain ⟨unit, held⟩ := (sound.found found).1
    obtain ⟨answer, inner, answered⟩ : ∃ answer inner, setup.analyzer.disposeUnit world unit.value
        s.analyzer.inner = (answer, inner) := ⟨_, _, rfl⟩
    have disposed := run_disposeEntry (s := { s with table := s.table.erase path }) held answered
    simp only [CacheAct.setTable, Act.run_bind, Act.run_modify, run_announce, disposed,
      Act.andThen_ok, List.nil_append]
    exact .present found held answered

/-! ## Reparsing -/

/-- What can come of reparsing the unit of an entry. -/
inductive Refreshes (setup : Setup ω σ κ υ) (world : ω) (path : Path) (time : FileTime)
    (reason : String) (s : CacheState σ κ υ) (entry : Entry υ) (unit : Handle υ) :
    Ran (CacheState σ κ υ) (Effect κ υ) (Option (LentUnit ω υ)) → Prop
  | reparsed {after inner}
      (answered : setup.analyzer.reparse world unit.value (setup.overlay world)
        s.analyzer.inner = (.value (), after, inner)) :
      Refreshes setup world path time reason s entry unit
        ⟨.ok (some ⟨entry.path, ⟨unit.serial, after⟩, setup.overlay⟩),
          setup.announced path reason ++
            [.call (.reparse unit (setup.overlay world) after (.value ())),
              setup.concluded path "reparsed"],
          ⟨{ s.analyzer with inner }, s.context,
            s.table.insert path { entry with time, unit := .hold ⟨unit.serial, after⟩ }⟩⟩
  | failed {message after inner}
      (answered : setup.analyzer.reparse world unit.value (setup.overlay world)
        s.analyzer.inner = (.fault message, after, inner)) :
      Refreshes setup world path time reason s entry unit
        ⟨.ok none,
          setup.announced path reason ++
            .call (.reparse unit (setup.overlay world) after (.fault message)) ::
              setup.told .error (.reparseFailed path message),
          ⟨{ s.analyzer with inner }, s.context,
            s.table.insert path { entry with unit := .hold ⟨unit.serial, after⟩ }⟩⟩
  | panicked {payload after inner}
      (answered : setup.analyzer.reparse world unit.value (setup.overlay world)
        s.analyzer.inner = (.panic payload, after, inner)) :
      Refreshes setup world path time reason s entry unit
        ⟨.error payload,
          setup.announced path reason ++
            [.call (.reparse unit (setup.overlay world) after (.panic payload))],
          ⟨{ s.analyzer with inner }, s.context,
            s.table.insert path { entry with unit := .hold ⟨unit.serial, after⟩ }⟩⟩

theorem run_callReparse {analyzer : Analyzer ω σ κ υ} {world : ω} {buffers : List Buffer}
    {answer : Answer Unit} {after : υ} {inner : σ}
    (answered : analyzer.reparse world unit.value buffers s.analyzer.inner =
      (answer, after, inner)) :
    (CacheAct.call (analyzer.callReparse world unit buffers)).run s =
      ⟨.ok (⟨unit.serial, after⟩, answer), [.call (.reparse unit buffers after answer)],
        { s with analyzer := { s.analyzer with inner } }⟩ := by
  simp [CacheAct.call, Analyzer.callReparse, answered]

theorem refreshes_refresh (setup : Setup ω σ κ υ) (found : s.table.find? path = some entry)
    (held : entry.unit = .hold unit) (world : ω) (time : FileTime) (reason : String) :
    Refreshes setup world path time reason s entry unit
      ((setup.refresh world path time reason).run s) := by
  rw [refresh, Act.run_bind_of_ok (setup.run_announce path reason s)]
  simp only [Act.run_bind_of_ok (Act.run_state s), found, held, Owned.get_hold, pure_bind]
  obtain ⟨answer, after, inner, answered⟩ : ∃ answer after inner, setup.analyzer.reparse world
      unit.value (setup.overlay world) s.analyzer.inner = (answer, after, inner) := ⟨_, _, _, rfl⟩
  simp only [Act.run_bind_of_ok (run_callReparse answered)]
  cases answer with
  | value _ =>
    simp only [CacheAct.setTable, Act.run_bind, Act.run_modify, run_conclude, Act.andThen_ok,
      run_lend_insert, List.nil_append, List.append_nil, List.singleton_append]
    exact .reparsed answered
  | fault message =>
    simp only [CacheAct.setTable, Act.run_bind, Act.run_modify, run_fail, Act.andThen_ok,
      List.nil_append, List.singleton_append]
    exact .failed answered
  | panic payload =>
    simp only [CacheAct.setTable, Act.run_bind, Act.run_modify, Act.run_raise, Act.andThen_ok,
      List.nil_append, List.append_nil]
    exact .panicked answered

/-! ## Parsing anew -/

/-- What can come of parsing a file from scratch. -/
inductive Parses (setup : Setup ω σ κ υ) (world : ω) (path : Path) (args : List String)
    (time : FileTime) (s : CacheState σ κ υ) :
    Ran (CacheState σ κ υ) (Effect κ υ) (Option (LentUnit ω υ)) → Prop
  | destroyed {removed} (removes : Removes setup world path s removed)
      (gone : s.context = none) :
      Parses setup world path args time s
        ⟨.ok none, removed.effects ++ setup.told .error (.destroyed path), removed.state⟩
  | parsed {removed context value inner} (removes : Removes setup world path s removed)
      (alive : s.context = some (.hold context))
      (answered : setup.analyzer.parse world context.value path (setup.parseArgs args)
        (setup.overlay world) removed.state.analyzer.inner = (.value value, inner)) :
      Parses setup world path args time s
        ⟨.ok (some ⟨path, ⟨s.analyzer.units, value⟩, setup.overlay⟩),
          removed.effects ++ setup.announced path "creating new index" ++
            [.call (.parse context path (setup.parseArgs args) (setup.overlay world)
              (.value ⟨s.analyzer.units, value⟩)), setup.concluded path "parsed"],
          ⟨⟨inner, s.analyzer.units + 1, s.analyzer.contexts⟩, s.context,
            (s.table.erase path).insert path
              ⟨path, args, time, .hold ⟨s.analyzer.units, value⟩⟩⟩⟩
  | failed {removed context message inner} (removes : Removes setup world path s removed)
      (alive : s.context = some (.hold context))
      (answered : setup.analyzer.parse world context.value path (setup.parseArgs args)
        (setup.overlay world) removed.state.analyzer.inner = (.fault message, inner)) :
      Parses setup world path args time s
        ⟨.ok none,
          removed.effects ++ setup.announced path "creating new index" ++
            .call (.parse context path (setup.parseArgs args) (setup.overlay world)
              (.fault message)) :: setup.told .error (.parseFailed path message),
          ⟨{ s.analyzer with inner }, s.context, s.table.erase path⟩⟩
  | panicked {removed context payload inner} (removes : Removes setup world path s removed)
      (alive : s.context = some (.hold context))
      (answered : setup.analyzer.parse world context.value path (setup.parseArgs args)
        (setup.overlay world) removed.state.analyzer.inner = (.panic payload, inner)) :
      Parses setup world path args time s
        ⟨.error payload,
          removed.effects ++ setup.announced path "creating new index" ++
            [.call (.parse context path (setup.parseArgs args) (setup.overlay world)
              (.panic payload))],
          ⟨{ s.analyzer with inner }, s.context, s.table.erase path⟩⟩

theorem run_callParse {analyzer : Analyzer ω σ κ υ} {world : ω} {context : Handle κ}
    {path : Path} {args : List String} {buffers : List Buffer} {answer : Answer υ}
    {inner inner' : σ} (units contexts : Nat) (owned : Option (Owned κ))
    (table : PathTable (Entry υ))
    (answered : analyzer.parse world context.value path args buffers inner =
      (answer, inner')) :
    (CacheAct.call (analyzer.callParse world context path args buffers)).run
        ⟨⟨inner, units, contexts⟩, owned, table⟩ =
      ⟨(answer.numbered units).outcome,
        [.call (.parse context path args buffers (answer.numbered units))],
        ⟨⟨inner', answer.count units, contexts⟩, owned, table⟩⟩ := by
  simp [CacheAct.call, Analyzer.callParse, answered]

theorem run_store_erase (world : ω) (path : Path) (entry : Entry υ) (analyzer : AnalyzerState σ)
    (context : Option (Owned κ)) (table : PathTable (Entry υ)) :
    (setup.store world path entry).run ⟨analyzer, context, table.erase path⟩ =
      ⟨.ok (), [], ⟨analyzer, context, (table.erase path).insert path entry⟩⟩ := by
  have unknown := table.find?_erase_of_same (SameKey.refl path)
  rw [store, Act.run_bind_of_ok (Act.run_state _)]
  simp only [unknown]
  rfl

theorem Removes.result_eq {world : ω} {removed : Ran (CacheState σ κ υ) (Effect κ υ) Unit}
    (removes : Removes setup world path s removed) : removed.result = .ok () := by
  cases removes <;> rfl

theorem Removes.state_eq {world : ω} {removed : Ran (CacheState σ κ υ) (Effect κ υ) Unit}
    (removes : Removes setup world path s removed) :
    ∃ inner, removed.state =
      ⟨⟨inner, s.analyzer.units, s.analyzer.contexts⟩, s.context, s.table.erase path⟩ := by
  cases removes with
  | absent unknown => exact ⟨_, by rw [SortedTable.erase_of_find?_eq_none unknown]⟩
  | present => exact ⟨_, rfl⟩

theorem parses_parseAnew (setup : Setup ω σ κ υ) (sound : Sound s) (world : ω) (path : Path)
    (args : List String) (time : FileTime) :
    Parses setup world path args time s ((setup.parseAnew world path args time).run s) := by
  have removes := removes_remove setup sound world path
  generalize removing : (setup.remove world path).run s = removed at removes
  obtain ⟨result, effects, left⟩ := removed
  obtain rfl : result = .ok () := removes.result_eq
  obtain ⟨inner, rfl⟩ : ∃ inner, left =
    ⟨⟨inner, s.analyzer.units, s.analyzer.contexts⟩, s.context, s.table.erase path⟩ :=
    removes.state_eq
  rw [parseAnew, Act.run_bind_of_ok removing, Act.run_bind_of_ok (Act.run_state _)]
  cases gone : s.context with
  | none =>
    simp only [run_fail, List.nil_append]
    rw [gone] at removes
    exact .destroyed removes gone
  | some owned =>
    obtain ⟨context, rfl⟩ := sound.context_held owned gone
    simp only [Owned.get_hold, pure_bind]
    obtain ⟨answer, inner', answered⟩ : ∃ answer inner', setup.analyzer.parse world context.value
        path (setup.parseArgs args) (setup.overlay world) inner = (answer, inner') :=
      ⟨_, _, rfl⟩
    have called := run_callParse s.analyzer.units s.analyzer.contexts s.context
      (s.table.erase path) answered
    rw [← gone]
    simp only [Act.run_bind, run_announce, called, Act.andThen_ok, List.nil_append]
    cases answer with
    | value value =>
      simp only [Answer.numbered, Answer.outcome, Act.andThen_ok, Act.run_bind, run_store_erase,
        run_conclude, run_lend_insert, Answer.count_value, List.nil_append, List.append_nil,
        List.singleton_append]
      simpa only [List.append_assoc] using Parses.parsed removes gone answered
    | fault message =>
      simp only [Answer.numbered, Answer.outcome, Act.andThen_ok, run_fail, Answer.count_fault,
        List.singleton_append]
      simpa only [List.append_assoc] using Parses.failed removes gone answered
    | panic payload =>
      simp only [Answer.numbered, Answer.outcome, Act.andThen_panic, Answer.count_panic]
      simpa only [List.append_assoc] using Parses.panicked removes gone answered

/-! ## Arguments -/

/-- The arguments of a file that is to be indexed: without a provider there are none, and a provider
has to give some. -/
inductive Provides (setup : Setup ω σ κ υ) (world : ω) (path : Path) : List String → Prop
  | unasked (no_provider : setup.provider = none) : Provides setup world path []
  | asked {provider args} (provided : setup.provider = some provider)
      (args_eq : provider world path = args) (some_args : args ≠ []) :
      Provides setup world path args

theorem argsFor?_eq_some_iff {world : ω} {args : List String} :
    setup.argsFor? world path = some args ↔ setup.Provides world path args := by
  unfold argsFor?
  constructor
  · intro indexable
    split at indexable
    next no_provider =>
      obtain rfl := Option.some.inj indexable
      exact .unasked no_provider
    next provided =>
      obtain ⟨some_args, same⟩ := Option.ite_none_left_eq_some.1 indexable
      obtain rfl := Option.some.inj same
      exact .asked provided rfl some_args
  · intro provides
    cases provides with
    | unasked no_provider => simp only [no_provider]
    | asked provided args_eq some_args => simp only [provided, args_eq, if_neg some_args]

theorem isSome_argsFor? (setup : Setup ω σ κ υ) (world : ω) (path : Path) :
    (setup.argsFor? world path).isSome =
      setup.provider.all fun provider => provider world path ≠ [] := by
  unfold argsFor?
  cases setup.provider with
  | none => rfl
  | some provider => by_cases none_given : provider world path = [] <;> simp [none_given]

theorem parseArgs_eq (setup : Setup ω σ κ υ) (args : List String) :
    setup.parseArgs args = args ++ if 2 ≤ setup.verbosity then ["-v"] else [] := by
  unfold parseArgs verboseCompiler
  split <;> simp

/-! ## Serving -/

/-- Why a unit is reparsed. -/
def reparseReason (force : Bool) : String :=
  if force then "forced reparse" else "file changed on disk, reparsing"

/-- All that can come of serving a file. -/
inductive Serves (setup : Setup ω σ κ υ) (moment : Moment ω) (path : Path) (force : Bool)
    (s : CacheState σ κ υ) :
    Ran (CacheState σ κ υ) (Effect κ υ) (Option (LentUnit ω υ)) → Prop
  | unindexable (no_args : setup.argsFor? moment.world path = none) :
      Serves setup moment path force s
        ⟨.ok none, setup.announced path "indexing" ++
          [.event (.about path .trace "not indexable")], s⟩
  | unreadable {args fault} (indexable : setup.argsFor? moment.world path = some args)
      (unreadable : moment.fileTime path = .error fault) :
      Serves setup moment path force s
        ⟨.ok none, setup.announced path "indexing" ++
          setup.told .error (.unreadable path fault), s⟩
  | hit {entry : Entry υ} {unit : Handle υ}
      (indexable : setup.argsFor? moment.world path = some entry.args)
      (readable : moment.fileTime path = .ok entry.time)
      (found : s.table.find? path = some entry) (held : entry.unit = .hold unit)
      (unforced : force = false) :
      Serves setup moment path force s
        ⟨.ok (some ⟨entry.path, unit, setup.overlay⟩), setup.announced path "indexing" ++
          [setup.concluded path "index already up to date"], s⟩
  | refreshed {entry : Entry υ} {unit : Handle υ} {time ran}
      (indexable : setup.argsFor? moment.world path = some entry.args)
      (readable : moment.fileTime path = .ok time)
      (found : s.table.find? path = some entry) (held : entry.unit = .hold unit)
      (stale : force = true ∨ entry.time ≠ time)
      (refreshes : Refreshes setup moment.world path time (reparseReason force) s entry unit ran) :
      Serves setup moment path force s
        ⟨ran.result, setup.announced path "indexing" ++ ran.effects, ran.state⟩
  | rebuilt {args time ran} (indexable : setup.argsFor? moment.world path = some args)
      (readable : moment.fileTime path = .ok time)
      (outdated : ∀ entry, s.table.find? path = some entry → entry.args ≠ args)
      (parses : Parses setup moment.world path args time s ran) :
      Serves setup moment path force s
        ⟨ran.result, setup.announced path "indexing" ++ ran.effects, ran.state⟩

theorem serves_serve (setup : Setup ω σ κ υ) (sound : Sound s) (moment : Moment ω) (path : Path)
    (force : Bool) :
    Serves setup moment path force s ((setup.serve moment path force).run s) := by
  rw [serve, Act.run_bind_of_ok (setup.run_announce path "indexing" s)]
  cases indexable : setup.argsFor? moment.world path with
  | none => exact .unindexable indexable
  | some args =>
    cases readable : moment.fileTime path with
    | error fault =>
      simp only [run_fail]
      exact .unreadable indexable readable
    | ok time =>
      simp only [Act.run_bind_of_ok (Act.run_state s), List.nil_append]
      -- The cases are those of `Action.needed`.
      cases found : s.table.find? path with
      | none =>
        refine .rebuilt indexable readable ?_
          (parses_parseAnew setup sound moment.world path args time)
        intro entry known
        rw [found] at known
        contradiction
      | some entry =>
        obtain ⟨unit, held⟩ := (sound.found found).1
        by_cases other : entry.args ≠ args
        · simp only [Action.needed, if_pos other]
          refine .rebuilt indexable readable ?_
            (parses_parseAnew setup sound moment.world path args time)
          intro entry' known
          rw [found] at known
          cases known
          exact other
        obtain rfl : entry.args = args := Decidable.of_not_not other
        have refreshes := refreshes_refresh setup found held moment.world time
          (reparseReason force)
        cases force with
        | true =>
          simp only [Action.needed, if_neg other, if_true]
          exact .refreshed indexable readable found held (.inl rfl) refreshes
        | false =>
          by_cases current : entry.time = time
          · subst current
            have current : entry.isCurrent entry.args entry.time = true := by
              simp [Entry.isCurrent]
            simp only [Action.needed, if_neg other, Bool.false_eq_true, if_false, if_pos current]
            rw [Act.run_bind_of_ok (setup.run_conclude path _ s)]
            simp only [run_lend found held, List.append_nil]
            exact .hit indexable readable found held rfl
          · have not_current : ¬ entry.isCurrent entry.args time = true := by
              simpa [Entry.isCurrent] using current
            simp only [Action.needed, if_neg other, Bool.false_eq_true, if_false,
              if_neg not_current]
            exact .refreshed indexable readable found held (.inr current) refreshes

/-! ## Soundness -/

variable {moment : Moment ω} {force : Bool}

theorem Serves.context_eq {ran : Ran (CacheState σ κ υ) (Effect κ υ) (Option (LentUnit ω υ))}
    (serves : Serves setup moment path force s ran) : ran.state.context = s.context := by
  cases serves with
  | unindexable | unreadable | hit => rfl
  | refreshed indexable readable found held stale refreshes => cases refreshes <;> rfl
  | rebuilt indexable readable outdated parses =>
    cases parses with
    | destroyed removes =>
      obtain ⟨inner, left⟩ := removes.state_eq
      rw [left]
    | parsed | failed | panicked => rfl

theorem Removes.sound {world : ω} {ran : Ran (CacheState σ κ υ) (Effect κ υ) Unit}
    (removes : Removes setup world path s ran) (sound : Sound s) : Sound ran.state := by
  cases removes with
  | absent => exact sound
  | present => exact sound.erase _ path

theorem Serves.sound {ran : Ran (CacheState σ κ υ) (Effect κ υ) (Option (LentUnit ω υ))}
    (serves : Serves setup moment path force s ran) (sound : Sound s) : Sound ran.state := by
  cases serves with
  | unindexable | unreadable | hit => exact sound
  | refreshed indexable readable found held stale refreshes =>
    cases refreshes with
    | reparsed => exact sound.refresh _ found _ _
    | failed | panicked => exact sound.refresh _ found _ _
  | rebuilt indexable readable outdated parses =>
    cases parses with
    | destroyed removes => exact removes.sound sound
    | parsed => exact sound.store _ path _ _ _
    | failed | panicked => exact sound.erase _ path

end Setup

end SourceIndex
