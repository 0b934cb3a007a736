import SourceIndex.Proofs.Cache.Steps

/-!
# The decision procedure

What serving a file means, without effects and tables: which calls to make, what to answer and
which records to keep. The cache follows it request by request.
-/

namespace SourceIndex

variable {ω σ κ υ : Type}

/-! ## Records -/

/-- What is known about a file that has a unit. -/
structure Record (υ : Type) where
  path : Path
  args : List String
  time : FileTime
  unit : Handle υ

/-- The records of all files. The spelling of a path does not matter. -/
@[ext] structure Records (υ : Type) where
  of : Path → Option (Record υ)
  same : ∀ {p q : Path}, p.Same q → of p = of q

namespace Records

def put (records : Records υ) (path : Path) (record : Record υ) : Records υ where
  of other := if other.Same path then some record else records.of other
  same := by
    intro p q same
    have iff : p.Same path ↔ q.Same path := ⟨same.symm.trans, same.trans⟩
    simp only [iff, records.same same]

def forget (records : Records υ) (path : Path) : Records υ where
  of other := if other.Same path then none else records.of other
  same := by
    intro p q same
    have iff : p.Same path ↔ q.Same path := ⟨same.symm.trans, same.trans⟩
    simp only [iff, records.same same]

end Records

/-! ## The procedure -/

/-- What a request finds in the cache, and what it leaves there. -/
structure Desk (σ κ υ : Type) where
  analyzer : AnalyzerState σ
  context : Option (Handle κ)
  records : Records υ

@[ext] structure Done (ω σ κ υ : Type) where
  calls : List (Call κ υ)
  result : Except Payload (Option (LentUnit ω υ))
  desk : Desk σ κ υ

namespace Procedure

variable (setup : Setup ω σ κ υ) (world : ω)

/-- What the compiler gets: it is asked to be verbose from verbosity two on. -/
def compilerArgs (args : List String) : List String :=
  args ++ if 2 ≤ setup.verbosity then ["-v"] else []

/-- The request ends without a unit and changes nothing. -/
def nothing (desk : Desk σ κ υ) : Done ω σ κ υ := ⟨[], .ok none, desk⟩

def hit (record : Record υ) (desk : Desk σ κ υ) : Done ω σ κ υ :=
  ⟨[], .ok (some ⟨record.path, record.unit, setup.overlay⟩), desk⟩

/-- Only a reparse that succeeds brings the record up to date. -/
def reparse (path : Path) (time : FileTime) (record : Record υ) (desk : Desk σ κ υ) :
    Done ω σ κ υ :=
  let buffers := setup.overlay world
  let (answer, after, inner) :=
    setup.analyzer.reparse world record.unit.value buffers desk.analyzer.inner
  let unit : Handle υ := ⟨record.unit.serial, after⟩
  let left (record : Record υ) : Desk σ κ υ :=
    { desk with
      analyzer := { desk.analyzer with inner }
      records := desk.records.put path { record with unit } }
  let calls := [Call.reparse record.unit buffers after answer]
  match answer with
  | .value () => ⟨calls, .ok (some ⟨record.path, unit, setup.overlay⟩), left { record with time }⟩
  | .fault _ => ⟨calls, .ok none, left record⟩
  | .panic payload => ⟨calls, .error payload, left record⟩

/-- However the disposal ends, there is no record afterwards. -/
def dispose (path : Path) (desk : Desk σ κ υ) : List (Call κ υ) × Desk σ κ υ :=
  match desk.records.of path with
  | none => ([], desk)
  | some record =>
    let (answer, inner) :=
      setup.analyzer.disposeUnit world record.unit.value desk.analyzer.inner
    ([.disposeUnit record.unit .explicit answer],
      { desk with
        analyzer := { desk.analyzer with inner }
        records := desk.records.forget path })

/-- The arguments are recorded as the provider gave them. -/
def parse (path : Path) (args : List String) (time : FileTime) (desk : Desk σ κ υ) :
    Done ω σ κ υ :=
  match desk.context with
  | none => nothing desk
  | some context =>
    let buffers := setup.overlay world
    let (answer, inner) := setup.analyzer.parse world context.value path
      (compilerArgs setup args) buffers desk.analyzer.inner
    let calls :=
      [Call.parse context path (compilerArgs setup args) buffers
        (answer.numbered desk.analyzer.units)]
    let units := answer.count desk.analyzer.units
    let left : Desk σ κ υ := { desk with analyzer := { desk.analyzer with inner, units } }
    match answer.numbered desk.analyzer.units with
    | .value unit =>
      ⟨calls, .ok (some ⟨path, unit, setup.overlay⟩),
        { left with records := left.records.put path ⟨path, args, time, unit⟩ }⟩
    | .fault _ => ⟨calls, .ok none, left⟩
    | .panic payload => ⟨calls, .error payload, left⟩

def rebuild (path : Path) (args : List String) (time : FileTime) (desk : Desk σ κ υ) :
    Done ω σ κ υ :=
  let (calls, cleared) := dispose setup world path desk
  let done := parse setup world path args time cleared
  { done with calls := calls ++ done.calls }

/-- What is done for a file that is to be indexed with these arguments. -/
def bring (path : Path) (args : List String) (time : FileTime) (force : Bool)
    (desk : Desk σ κ υ) : Done ω σ κ υ :=
  match desk.records.of path with
  | none => rebuild setup world path args time desk
  | some record =>
    if record.args = args then
      if record.time = time ∧ force = false then hit setup record desk
      else reparse setup world path time record desk
    else rebuild setup world path args time desk

/-- A provider without arguments for a file keeps the file from being indexed. Without a provider
all files are indexed without arguments. -/
def serve (moment : Moment ω) (path : Path) (force : Bool) (desk : Desk σ κ υ) : Done ω σ κ υ :=
  match setup.provider.map fun provider => provider moment.world path with
  | some [] => nothing desk
  | provided =>
    match moment.fileTime path with
    | .error _ => nothing desk
    | .ok time => bring setup moment.world path (provided.getD []) time force desk

end Procedure

/-! ## The desk of a cache -/

def Entry.record? (entry : Entry υ) : Option (Record υ) :=
  entry.unit.held.map fun unit => ⟨entry.path, entry.args, entry.time, unit⟩

def recordsOf (table : PathTable (Entry υ)) : Records υ where
  of path := (table.find? path).bind Entry.record?
  same same := by rw [table.find?_congr (Path.sameKey_iff_same.2 same)]

def CacheState.desk (s : CacheState σ κ υ) : Desk σ κ υ where
  analyzer := s.analyzer
  context := s.context.bind (·.held)
  records := recordsOf s.table

/-- What a run of the cache looks like from the desk. -/
def doneBy (ran : Ran (CacheState σ κ υ) (Effect κ υ) (Option (LentUnit ω υ))) : Done ω σ κ υ :=
  ⟨callsOf ran.effects, ran.result, ran.state.desk⟩

section

variable {table : PathTable (Entry υ)} {path : Path} {entry : Entry υ} {unit : Handle υ}

theorem recordsOf_of_found (found : table.find? path = some entry)
    (held : entry.unit = .hold unit) :
    (recordsOf table).of path = some ⟨entry.path, entry.args, entry.time, unit⟩ := by
  simp [recordsOf, found, Entry.record?, held]

theorem recordsOf_of_unknown (unknown : table.find? path = none) :
    (recordsOf table).of path = none := by
  simp [recordsOf, unknown]

theorem recordsOf_insert (table : PathTable (Entry υ)) (path own : Path) (args : List String)
    (time : FileTime) (unit : Handle υ) :
    recordsOf (table.insert path ⟨own, args, time, .hold unit⟩) =
      (recordsOf table).put path ⟨own, args, time, unit⟩ := by
  ext1
  funext other
  by_cases same : other.Same path
  · have found := table.find?_insert_of_same ⟨own, args, time, .hold unit⟩
      (Path.sameKey_iff_same.2 same.symm)
    simp [recordsOf, Records.put, same, found, Entry.record?]
  · have apart : ¬ SameKey Path.Before path other :=
      fun key => same (Path.sameKey_iff_same.1 key).symm
    simp [recordsOf, Records.put, same, SortedTable.find?_insert_of_not_same _ _ apart]

theorem recordsOf_erase (table : PathTable (Entry υ)) (path : Path) :
    recordsOf (table.erase path) = (recordsOf table).forget path := by
  ext1
  funext other
  by_cases same : other.Same path
  · have gone := table.find?_erase_of_same (Path.sameKey_iff_same.2 same.symm)
    simp [recordsOf, Records.forget, same, gone]
  · have apart : ¬ SameKey Path.Before path other :=
      fun key => same (Path.sameKey_iff_same.1 key).symm
    simp [recordsOf, Records.forget, same, SortedTable.find?_erase_of_not_same _ apart]

end

theorem desk_analyzer (s : CacheState σ κ υ) : s.desk.analyzer = s.analyzer := rfl

/-! ## The cache follows the procedure -/

namespace Procedure

variable {setup : Setup ω σ κ υ} {s : CacheState σ κ υ} {world : ω} {path : Path}

theorem removes_follows {ran : Ran (CacheState σ κ υ) (Effect κ υ) Unit}
    (removes : setup.Removes world path s ran) :
    (callsOf ran.effects, ran.state.desk) = dispose setup world path s.desk := by
  cases removes with
  | absent unknown =>
    have no_record : s.desk.records.of path = none := recordsOf_of_unknown unknown
    simp only [dispose, no_record, callsOf_nil]
  | present found held answered =>
    have known : s.desk.records.of path = some _ := recordsOf_of_found found held
    simp only [dispose, known, desk_analyzer, answered]
    simp [CacheState.desk, recordsOf_erase]

theorem refreshes_follows {time : FileTime} {reason : String} {entry : Entry υ}
    {unit : Handle υ} {ran : Ran (CacheState σ κ υ) (Effect κ υ) (Option (LentUnit ω υ))}
    (refreshes : setup.Refreshes world path time reason s entry unit ran) :
    doneBy ran =
      reparse setup world path time ⟨entry.path, entry.args, entry.time, unit⟩ s.desk := by
  cases refreshes with
  | reparsed answered | failed answered | panicked answered =>
    simp only [reparse, desk_analyzer, answered]
    simp [doneBy, CacheState.desk, recordsOf_insert]

theorem compilerArgs_eq (setup : Setup ω σ κ υ) (args : List String) :
    compilerArgs setup args = setup.parseArgs args := (setup.parseArgs_eq args).symm

theorem parses_follows {args : List String} {time : FileTime}
    {ran : Ran (CacheState σ κ υ) (Effect κ υ) (Option (LentUnit ω υ))}
    (parses : setup.Parses world path args time s ran) :
    doneBy ran = rebuild setup world path args time s.desk := by
  cases parses with
  | destroyed removes gone =>
    obtain ⟨inner, left⟩ := removes.state_eq
    simp only [rebuild, ← removes_follows removes, left]
    simp [parse, nothing, doneBy, CacheState.desk, gone]
  | parsed removes alive answered | failed removes alive answered
  | panicked removes alive answered =>
    obtain ⟨inner, left⟩ := removes.state_eq
    rw [left] at answered
    simp only [rebuild, ← removes_follows removes, left]
    simp only [parse, compilerArgs_eq, CacheState.desk, alive, Option.bind_some, Owned.held_hold,
      answered, Answer.numbered]
    simp [doneBy, CacheState.desk, recordsOf_insert]

variable {moment : Moment ω} {force : Bool}

theorem serve_of_unindexable (no_args : setup.argsFor? moment.world path = none)
    (desk : Desk σ κ υ) : serve setup moment path force desk = nothing desk := by
  unfold Setup.argsFor? at no_args
  unfold serve
  cases asked : setup.provider with
  | none => simp [asked] at no_args
  | some provider =>
    have provided : provider moment.world path = [] := by simpa [asked] using no_args
    simp [provided]

theorem serve_of_indexable {args : List String}
    (indexable : setup.argsFor? moment.world path = some args) (desk : Desk σ κ υ) :
    serve setup moment path force desk =
      match moment.fileTime path with
      | .error _ => nothing desk
      | .ok time => bring setup moment.world path args time force desk := by
  unfold serve
  cases Setup.argsFor?_eq_some_iff.1 indexable with
  | unasked no_provider =>
    rw [no_provider]
    rfl
  | asked provided args_eq some_args =>
    obtain ⟨first, rest, rfl⟩ := List.exists_cons_of_ne_nil some_args
    simp [provided, args_eq]

theorem serves_follows {ran : Ran (CacheState σ κ υ) (Effect κ υ) (Option (LentUnit ω υ))}
    (serves : setup.Serves moment path force s ran) :
    doneBy ran = serve setup moment path force s.desk := by
  cases serves with
  | unindexable no_args =>
    rw [serve_of_unindexable no_args]
    simp [nothing, doneBy]
  | unreadable indexable unreadable =>
    rw [serve_of_indexable indexable, unreadable]
    simp [nothing, doneBy]
  | @hit entry unit indexable readable found held unforced =>
    rw [serve_of_indexable indexable, readable]
    have known : s.desk.records.of path = some _ := recordsOf_of_found found held
    simp [bring, known, unforced, hit, doneBy]
  | @refreshed entry unit time ran indexable readable found held stale refreshes =>
    rw [serve_of_indexable indexable, readable]
    have known : s.desk.records.of path = some _ := recordsOf_of_found found held
    have not_current : ¬ (entry.time = time ∧ force = false) := by
      rintro ⟨same_time, unforced⟩
      rcases stale with forced | other_time
      · simp [forced] at unforced
      · exact other_time same_time
    simp only [bring, known, if_true, if_neg not_current, ← refreshes_follows refreshes]
    simp [doneBy]
  | @rebuilt args time ran indexable readable outdated parses =>
    rw [serve_of_indexable indexable, readable]
    have rebuilds : bring setup moment.world path args time force s.desk =
        rebuild setup moment.world path args time s.desk := by
      cases known : s.desk.records.of path with
      | none => simp only [bring, known]
      | some record =>
        obtain ⟨entry, found, recorded⟩ := Option.bind_eq_some_iff.1 known
        obtain ⟨unit, -, rfl⟩ := Option.map_eq_some_iff.1 recorded
        simp only [bring, known, if_neg (outdated entry found)]
    simp only [rebuilds, ← parses_follows parses]
    simp [doneBy]

/-- A cache serves every file as the procedure says. -/
theorem serve_follows_procedure (reachable : Reachable setup s) (moment : Moment ω) (path : Path)
    (force : Bool) :
    doneBy ((setup.serve moment path force).run s) = serve setup moment path force s.desk :=
  serves_follows (setup.serves_serve reachable.sound moment path force)

/-- Another spelling of a file that is cached is reparsed in place if that is forced. -/
theorem serve_follows_procedure_when_forced :
    let time : FileTime := ⟨0, by decide, by decide⟩
    let first := Scripted.occasion time .empty (.serve (.ofText "a") false)
    let s := Scripted.setup.after Scripted.start [first]
    let done := serve Scripted.setup first.moment (.ofText "a//") true s.desk
    Reachable Scripted.setup s ∧
      doneBy ((Scripted.setup.serve first.moment (.ofText "a//") true).run s) = done ∧
      done.calls = [.reparse ⟨0, ⟨0, 0⟩⟩ [] ⟨0, 1⟩ (.value ())] :=
  have reachable := ⟨_, _, _, Scripted.opened, rfl⟩
  ⟨reachable, serve_follows_procedure reachable _ _ _, rfl⟩

end Procedure

end SourceIndex
