import SourceIndex.Proofs.Cache.Ownership

/-!
# Where units come from

What an entry says about its unit is true: the arguments and the time are those that were found
by the request that last parsed or reparsed the unit with success.
-/

namespace SourceIndex

variable {ω σ κ υ : Type}

/-! ## What is said about a unit -/

/-- The unit that a call has parsed or reparsed with success. -/
def Call.refreshed? : Call κ υ → Option Nat
  | .parse _ _ _ _ (.value unit) => some unit.serial
  | .reparse unit _ _ (.value ()) => some unit.serial
  | _ => none

def refreshedUnits (log : List (Call κ υ)) : List Nat := log.filterMap Call.refreshed?

@[simp] theorem refreshedUnits_append (first last : List (Call κ υ)) :
    refreshedUnits (first ++ last) = refreshedUnits first ++ refreshedUnits last :=
  List.filterMap_append

/-- Whether the call has made the unit with this number. -/
def Call.makes (serial : Nat) (call : Call κ υ) : Bool := call.made?.any (·.1 == serial)

theorem Call.refreshed?_of_makes {call : Call κ υ} {serial : Nat} (made : call.makes serial) :
    call.refreshed? = some serial := by
  unfold makes made? at made
  split at made
  · simpa [refreshed?] using made
  · simp at made

theorem filter_makes_eq_nil {log : List (Call κ υ)} {serial : Nat}
    (other : serial ∉ refreshedUnits log) : log.filter (Call.makes serial) = [] := by
  apply List.filter_eq_nil_iff.2
  intro call mem makes
  exact other (List.mem_filterMap.2 ⟨call, mem, Call.refreshed?_of_makes makes⟩)

/-- The request was for the file of the entry, and found what the entry says. -/
def Step.Finds (setup : Setup ω σ κ υ) (step : Step ω σ κ υ) (entry : Entry υ) : Prop :=
  ∃ path, step.occasion.request.servedPath? = some path ∧ path.Same entry.path ∧
    setup.Provides step.occasion.moment.world path entry.args ∧
    step.occasion.moment.fileTime path = .ok entry.time

/-- One call has made the unit, for the path and with the arguments of the entry. From verbosity two
on the compiler was asked to be verbose as well. -/
def Parsed (setup : Setup ω σ κ υ) (log : List (Call κ υ)) (entry : Entry υ) (serial : Nat) :
    Prop :=
  ∃ context buffers value, log.filter (Call.makes serial) =
    [.parse context entry.path (entry.args ++ if 2 ≤ setup.verbosity then ["-v"] else []) buffers
      (.value ⟨serial, value⟩)]

structure Provenance (setup : Setup ω σ κ υ) (steps : List (Step ω σ κ υ)) (entry : Entry υ)
    (serial : Nat) : Prop where
  /-- The last step that refreshed the unit found what the entry says. -/
  found : ∃ before step after, steps = before ++ step :: after ∧ step.Finds setup entry ∧
    refreshedUnits step.calls = [serial] ∧
      ∀ later ∈ after, serial ∉ refreshedUnits later.calls
  parsed : Parsed setup (callLog steps) entry serial

/-- All entries of a state are as the steps left them. -/
def Proven (setup : Setup ω σ κ υ) (steps : List (Step ω σ κ υ)) (s : CacheState σ κ υ) : Prop :=
  ∀ cached ∈ s.table.entries, ∃ unit, cached.2.unit = .hold unit ∧
    Provenance setup steps cached.2 unit.serial

/-! ## One more step -/

theorem callLog_concat (steps : List (Step ω σ κ υ)) (step : Step ω σ κ υ) :
    callLog (steps ++ [step]) = callLog steps ++ step.calls := by
  simp [callLog]

variable {setup : Setup ω σ κ υ} {steps : List (Step ω σ κ υ)} {step : Step ω σ κ υ}
  {entry : Entry υ} {serial : Nat}

theorem Parsed.concat (parsed : Parsed setup (callLog steps) entry serial)
    (other : step.calls.filter (Call.makes serial) = []) :
    Parsed setup (callLog (steps ++ [step])) entry serial := by
  obtain ⟨context, buffers, value, one⟩ := parsed
  refine ⟨context, buffers, value, ?_⟩
  rw [callLog_concat, List.filter_append, one, other, List.append_nil]

namespace Provenance

theorem concat (known : Provenance setup steps entry serial)
    (other : serial ∉ refreshedUnits step.calls) :
    Provenance setup (steps ++ [step]) entry serial := by
  refine ⟨?_, known.parsed.concat (filter_makes_eq_nil other)⟩
  obtain ⟨before, found, after, rfl, finds, refreshed, later⟩ := known.found
  refine ⟨before, found, after ++ [step], by simp, finds, refreshed, ?_⟩
  intro next mem
  rcases List.mem_append.1 mem with mem | mem
  · exact later next mem
  · obtain rfl : next = step := by simpa using mem
    exact other

theorem of_last (finds : step.Finds setup entry) (refreshed : refreshedUnits step.calls = [serial])
    (parsed : Parsed setup (callLog (steps ++ [step])) entry serial) :
    Provenance setup (steps ++ [step]) entry serial :=
  ⟨⟨steps, step, [], rfl, finds, refreshed, by simp⟩, parsed⟩

end Provenance

/-! ## Numbers of units -/

namespace Books

variable {log : List (Call κ υ)} {s : CacheState σ κ υ} {cached other : Path × Entry υ}
  {unit unit' : Handle υ}

theorem serial_lt (books : Books log s) (mem : cached ∈ s.table.entries)
    (held : cached.2.unit = .hold unit) : unit.serial < s.analyzer.units := by
  have listed := mem_holdings.2 ⟨cached, mem, Entry.holding?_of_held held⟩
  have live := (Accounts.live books).mem_iff.2 listed
  exact Accounts.below books _ (List.mem_filter.1 live).1

theorem never_made {first last : List (Call κ υ)} (books : Books (first ++ last) s) :
    last.filter (Call.makes s.analyzer.units) = [] := by
  apply List.filter_eq_nil_iff.2
  intro call mem makes
  obtain ⟨unit, made, same⟩ : ∃ unit, call.made? = some unit ∧ unit.1 = s.analyzer.units := by
    simpa [Call.makes, Option.any_eq_true] using makes
  have listed : unit ∈ madeUnits (first ++ last) :=
    List.mem_filterMap.2 ⟨call, List.mem_append_right first mem, made⟩
  have := Accounts.below books unit listed
  omega

theorem eq_of_serial_eq (books : Books log s) (sound : Sound s) (mem : cached ∈ s.table.entries)
    (mem' : other ∈ s.table.entries) (held : cached.2.unit = .hold unit)
    (held' : other.2.unit = .hold unit') (same : unit.serial = unit'.serial) :
    cached.1 = other.1 := by
  have listed := mem_holdings.2 ⟨cached, mem, Entry.holding?_of_held held⟩
  have listed' := mem_holdings.2 ⟨other, mem', Entry.holding?_of_held held'⟩
  have eq := List.inj_on_of_nodup_map books.once listed listed' same
  rw [← sound.own_path cached mem, ← sound.own_path other mem']
  exact congrArg Prod.snd eq

end Books

/-! ## Every step -/

namespace Proven

variable {built : List (Call κ υ)} {s : CacheState σ κ υ}

theorem keep (proven : Proven setup steps s) {table : PathTable (Entry υ)}
    (kept : ∀ cached ∈ table.entries, cached ∈ s.table.entries)
    (none_refreshed : refreshedUnits step.calls = []) (analyzer : AnalyzerState σ)
    (context : Option (Owned κ)) : Proven setup (steps ++ [step]) ⟨analyzer, context, table⟩ := by
  intro cached mem
  obtain ⟨unit, held, known⟩ := proven cached (kept cached mem)
  exact ⟨unit, held, known.concat (by simp [none_refreshed])⟩

theorem refreshedUnits_removes {world : ω} {path : Path}
    {ran : Ran (CacheState σ κ υ) (Effect κ υ) Unit} (removes : setup.Removes world path s ran) :
    refreshedUnits (callsOf ran.effects) = [] := by
  cases removes with
  | absent => rfl
  | present => simp [refreshedUnits, Call.refreshed?]

theorem refreshes {log : List (Call κ υ)} {path : Path} {time : FileTime} {reason : String}
    {unit : Handle υ} {ran : Ran (CacheState σ κ υ) (Effect κ υ) (Option (LentUnit ω υ))}
    (proven : Proven setup steps s) (books : Books log s) (sound : Sound s)
    (found : s.table.find? path = some entry) (held : entry.unit = .hold unit)
    (refreshes : setup.Refreshes step.occasion.moment.world path time reason s entry unit ran)
    (wanted : step.occasion.request.servedPath? = some path)
    (indexable : setup.argsFor? step.occasion.moment.world path = some entry.args)
    (readable : step.occasion.moment.fileTime path = .ok time)
    (calls : step.calls = callsOf ran.effects) :
    Proven setup (steps ++ [step]) ran.state := by
  have own_path := (sound.found found).2
  obtain ⟨known, known_mem, same, rfl⟩ := SortedTable.find?_eq_some_iff.1 found
  obtain ⟨unit', held', came⟩ := proven known known_mem
  obtain rfl : unit' = unit := by simpa [held, Owned.hold] using held'.symm
  cases refreshes with
  | @reparsed after inner answered =>
    have refreshed : refreshedUnits step.calls = [unit'.serial] := by
      simp [calls, refreshedUnits, Call.refreshed?]
    intro cached mem
    -- Another entry holds another unit, so its provenance is the old one.
    rcases (SortedTable.mem_insert_of_found found).1 mem with ⟨mem, other⟩ | ⟨-, -, eq⟩
    · obtain ⟨unit, held_other, came_other⟩ := proven cached mem
      refine ⟨unit, held_other, came_other.concat ?_⟩
      rw [refreshed, List.mem_singleton]
      intro same_serial
      rw [books.eq_of_serial_eq sound mem known_mem held_other held same_serial] at other
      exact other same
    · rw [eq]
      refine ⟨⟨unit'.serial, after⟩, rfl, .of_last ?_ refreshed ?_⟩
      · exact ⟨path, wanted, own_path.symm, Setup.argsFor?_eq_some_iff.1 indexable, readable⟩
      · apply Parsed.concat came.parsed
        simp [calls, Call.makes, Call.made?]
  | @failed _ after inner answered | @panicked _ after inner answered =>
    have none_refreshed : refreshedUnits step.calls = [] := by
      simp [calls, refreshedUnits, Call.refreshed?]
    intro cached mem
    rcases (SortedTable.mem_insert_of_found found).1 mem with ⟨mem, -⟩ | ⟨-, -, eq⟩
    · obtain ⟨unit, held_other, came_other⟩ := proven cached mem
      exact ⟨unit, held_other, came_other.concat (by simp [none_refreshed])⟩
    · rw [eq]
      have still : Provenance setup (steps ++ [step]) known.2 unit'.serial :=
        came.concat (by simp [none_refreshed])
      exact ⟨⟨unit'.serial, after⟩, rfl, still.found, still.parsed⟩

theorem parses {path : Path} {args : List String} {time : FileTime}
    {ran : Ran (CacheState σ κ υ) (Effect κ υ) (Option (LentUnit ω υ))}
    (proven : Proven setup steps s) (books : Books (built ++ callLog steps) s)
    (parses : setup.Parses step.occasion.moment.world path args time s ran)
    (wanted : step.occasion.request.servedPath? = some path)
    (indexable : setup.argsFor? step.occasion.moment.world path = some args)
    (readable : step.occasion.moment.fileTime path = .ok time)
    (calls : step.calls = callsOf ran.effects) :
    Proven setup (steps ++ [step]) ran.state := by
  have left_over : ∀ cached ∈ (s.table.erase path).entries, cached ∈ s.table.entries :=
    fun cached mem => (SortedTable.mem_erase_iff.1 mem).1
  cases parses with
  | destroyed removes gone =>
    have none_refreshed := refreshedUnits_removes removes
    obtain ⟨inner, left⟩ := removes.state_eq
    rw [left]
    apply proven.keep left_over
    simp [calls, none_refreshed]
  | @parsed removed context value inner removes alive answered =>
    have none_removed := refreshedUnits_removes removes
    have refreshed : refreshedUnits step.calls = [s.analyzer.units] := by
      simp only [calls, callsOf_append, refreshedUnits_append, none_removed]
      simp [refreshedUnits, Call.refreshed?]
    have unknown := s.table.find?_erase_of_same (SameKey.refl path)
    -- The new unit has a number that no call before has given, so the old entries are not touched.
    intro cached mem
    rcases (SortedTable.mem_insert_of_not_found unknown).1 mem with rfl | mem
    · refine ⟨⟨s.analyzer.units, value⟩, rfl, .of_last ?_ refreshed ?_⟩
      · exact ⟨path, wanted, .refl path, Setup.argsFor?_eq_some_iff.1 indexable, readable⟩
      · refine ⟨context, setup.overlay step.occasion.moment.world, value, ?_⟩
        have not_removing : (callsOf removed.effects).filter (Call.makes s.analyzer.units) = [] :=
          filter_makes_eq_nil (by simp [none_removed])
        rw [callLog_concat, List.filter_append, books.never_made, calls, ← setup.parseArgs_eq]
        simp only [callsOf_append, List.filter_append, not_removing]
        simp [Call.makes, Call.made?]
    · obtain ⟨unit, held, came⟩ := proven cached (left_over cached mem)
      have lt := books.serial_lt (left_over cached mem) held
      refine ⟨unit, held, came.concat ?_⟩
      rw [refreshed, List.mem_singleton]
      omega
  | failed removes alive answered | panicked removes alive answered =>
    have none_removed := refreshedUnits_removes removes
    apply proven.keep left_over
    simp only [calls, callsOf_append, refreshedUnits_append, none_removed]
    simp [refreshedUnits, Call.refreshed?]

theorem serves {path : Path} {force : Bool}
    {ran : Ran (CacheState σ κ υ) (Effect κ υ) (Option (LentUnit ω υ))}
    (proven : Proven setup steps s) (books : Books (built ++ callLog steps) s) (sound : Sound s)
    (serves : setup.Serves step.occasion.moment path force s ran)
    (wanted : step.occasion.request.servedPath? = some path)
    (calls : step.calls = callsOf ran.effects) :
    Proven setup (steps ++ [step]) ran.state := by
  cases serves with
  | unindexable | unreadable | hit =>
    apply proven.keep fun _ mem => mem
    simp [calls, refreshedUnits]
  | refreshed indexable readable found held stale refreshes =>
    apply proven.refreshes books sound found held refreshes wanted indexable readable
    simpa using calls
  | rebuilt indexable readable outdated parses =>
    apply proven.parses books parses wanted indexable readable
    simpa using calls

theorem does (proven : Proven setup steps s) (books : Books (built ++ callLog steps) s)
    (sound : Sound s) (does : Does setup step.occasion s step.ran.effects step.ran.state) :
    Proven setup (steps ++ [step]) step.ran.state := by
  obtain ⟨occasion, ⟨result, effects, left⟩⟩ := step
  cases does with
  | nothing =>
    apply proven.keep fun _ mem => mem
    rfl
  | served asks serves =>
    exact proven.serves books sound serves (Request.servedPath?_of_asks? asks) rfl
  | removed removes =>
    have none_refreshed := refreshedUnits_removes removes
    obtain ⟨inner, left⟩ := removes.state_eq
    rw [left]
    apply proven.keep fun _ mem => (SortedTable.mem_erase_iff.1 mem).1
    exact none_refreshed
  | cleared | closed => simp [Proven, SortedTable.empty]
  | read | set =>
    apply proven.keep fun _ mem => mem
    simp [Step.calls, refreshedUnits, Call.refreshed?]

theorem after (proven : Proven setup steps s) (books : Books (built ++ callLog steps) s)
    (sound : Sound s) (occasions : List (Occasion ω υ)) :
    Proven setup (steps ++ setup.history s occasions) (setup.after s occasions) := by
  induction occasions generalizing steps s with
  | nil => simpa [Setup.history, Setup.after] using proven
  | cons occasion rest ih =>
    have does := Does.step setup sound occasion
    have proven' : Proven setup (steps ++ [⟨occasion, setup.step s occasion⟩])
        (setup.step s occasion).state := proven.does books sound does
    have books' := books.does sound does
    rw [Setup.history, List.append_cons]
    apply ih proven' _ (does.sound sound)
    rw [callLog_concat, ← List.append_assoc]
    exact books'

end Proven

/-! ## What is served -/

theorem Setup.Serves.lent {s : CacheState σ κ υ} {moment : Moment ω} {path : Path} {force : Bool}
    {ran : Ran (CacheState σ κ υ) (Effect κ υ) (Option (LentUnit ω υ))} {lent : LentUnit ω υ}
    (serves : setup.Serves moment path force s ran) (served : ran.result = .ok (some lent)) :
    ∃ entry, ran.state.table.find? path = some entry ∧ entry.unit = .hold lent.unit ∧
      entry.path = lent.path ∧ setup.Provides moment.world path entry.args ∧
      moment.fileTime path = .ok entry.time := by
  simp only [← argsFor?_eq_some_iff]
  cases serves with
  | unindexable | unreadable => simp at served
  | hit indexable readable found held =>
    simp only [Except.ok.injEq, Option.some.injEq] at served
    subst served
    exact ⟨_, found, held, rfl, indexable, readable⟩
  | @refreshed entry unit time _ indexable readable found held stale refreshes =>
    cases refreshes with
    | reparsed =>
      simp only [Except.ok.injEq, Option.some.injEq] at served
      subst served
      exact ⟨_, SortedTable.find?_insert_of_same _ _ (SameKey.refl path), rfl, rfl, indexable,
        readable⟩
    | failed | panicked => simp at served
  | rebuilt indexable readable outdated parses =>
    cases parses with
    | parsed =>
      simp only [Except.ok.injEq, Option.some.injEq] at served
      subst served
      exact ⟨_, SortedTable.find?_insert_of_same _ _ (SameKey.refl path), rfl, rfl, indexable,
        readable⟩
    | destroyed | failed | panicked => simp at served

/-- Every entry is true at any time, and the entry of a unit that is served says what the request
for it has found. -/
theorem served_is_never_stale {built : List (Call κ υ)} {start : CacheState σ κ υ}
    (opened : Opened setup built start) (occasions : List (Occasion ω υ)) :
    let s := setup.after start occasions
    Proven setup (setup.history start occasions) s ∧
      ∀ moment path force lent, ((setup.serve moment path force).run s).result = .ok (some lent) →
        ∃ entry, ((setup.serve moment path force).run s).state.table.find? path = some entry ∧
          entry.unit = .hold lent.unit ∧ entry.path = lent.path ∧
          setup.Provides moment.world path entry.args ∧
          moment.fileTime path = .ok entry.time := by
  obtain ⟨context, options, set, alive, table_eq, -⟩ := opened.spec
  have proven : Proven setup [] start := by simp [Proven, table_eq, SortedTable.empty]
  have books : Books (built ++ callLog ([] : List (Step ω σ κ υ))) start := by
    simpa [callLog] using Books.opened opened
  have sound : Sound (setup.after start occasions) :=
    Reachable.sound ⟨built, start, occasions, opened, rfl⟩
  refine ⟨proven.after books opened.sound occasions, ?_⟩
  intro moment path force lent served
  exact (setup.serves_serve sound moment path force).lent served

/-- A reparse that is refused does not bring its entry up to date, but the next one does. The entry
has the arguments as they were provided, and the compiler was asked to be verbose as well. -/
theorem served_is_never_stale_after_refusal :
    let plan : Blueprint Simulation.Script := .ofClauses [.verbosity 2, .provider fun _ _ => ["-w"]]
    let setup := plan.setup (Simulation.scripted id)
    let early : FileTime := ⟨0, by decide, by decide⟩
    let late : FileTime := ⟨1, by decide, by decide⟩
    let refusing := Simulation.Script.empty.set .reparse (some ⟨.refuse "busy", none⟩)
    let occasions := [Scripted.occasion early .empty (.serve (.ofText "a") false),
      Scripted.occasion late refusing (.serve (.ofText "a/") false)]
    let steps := setup.history Scripted.start occasions
    let s := setup.after Scripted.start occasions
    let moment : Moment Simulation.Script := ⟨fun _ => .ok late, .empty⟩
    let ran := (setup.serve moment (.ofText "a//") false).run s
    s.table.values.map (fun entry => (entry.args, entry.time)) = [(["-w"], early)] ∧
      callLog steps = [.parse ⟨0, ⟨0⟩⟩ (.ofText "a") ["-w", "-v"] [] (.value ⟨0, ⟨0, 0⟩⟩),
        .reparse ⟨0, ⟨0, 0⟩⟩ [] ⟨0, 0⟩ (.fault "busy")] ∧
      Proven setup steps s ∧ ∃ entry, ran.state.table.find? (.ofText "a//") = some entry ∧
        setup.Provides moment.world (.ofText "a//") entry.args ∧ entry.time = late := by
  intro plan setup early late refusing occasions steps s moment ran
  have opened : Opened setup [.createContext ⟨false, true⟩ (.value ⟨0, ⟨0⟩⟩)] Scripted.start :=
    ⟨plan, .empty, _, .start .start, _, rfl, rfl, rfl, rfl, rfl⟩
  obtain ⟨proven, never_stale⟩ := served_is_never_stale opened occasions
  have lends : ran.result.toOption.join.isSome := by decide +kernel +zetaReduce
  obtain ⟨lent, served⟩ : ∃ lent, ran.result = .ok (some lent) := by
    generalize ran.result = result at lends
    rcases result with payload | _ | lent
    · contradiction
    · contradiction
    · exact ⟨lent, rfl⟩
  obtain ⟨entry, found, -, -, provides, time⟩ :=
    never_stale moment (.ofText "a//") false lent served
  have same : ran = (setup.serve moment (.ofText "a//") false).run
      (setup.after Scripted.start occasions) := rfl
  exact ⟨by decide +kernel +zetaReduce, by decide +kernel +zetaReduce, proven, entry,
    by rw [same, found], provides, (Except.ok.inj time).symm⟩

end SourceIndex
