import SourceIndex.Proofs.Cache.Isolation

/-!
# Hits persist

A unit that was served once is served again, without asking the analyzer, as long as its file is
found as it was. Whatever happens to other files in between does not matter, and neither does a
reparse that was forced, even if it failed.
-/

namespace SourceIndex

variable {ω σ κ υ : Type}

/-! ## What spares a unit -/

/-- The other file, or another spelling of the same one, is found as `path` was at `moment`. -/
def Setup.FindsAgain (setup : Setup ω σ κ υ) (moment : Moment ω) (path : Path)
    (again : Moment ω) (other : Path) : Prop :=
  setup.argsFor? again.world other = setup.argsFor? moment.world path ∧
    again.fileTime other = moment.fileTime path

/-- The file is not to be indexed or cannot be read. -/
def Setup.GivesUp (setup : Setup ω σ κ υ) (moment : Moment ω) (path : Path) : Prop :=
  setup.argsFor? moment.world path = none ∨ ∃ fault, moment.fileTime path = .error fault

/-- The request, made `again`, leaves alone what was served for `path` at `moment`. A file that is
primed while it is cached is not even looked at. -/
def Request.Spares (setup : Setup ω σ κ υ) (moment : Moment ω) (path : Path)
    (again : Moment ω) : Request υ → Prop
  | serve other _ | reprime other =>
    other.Same path → setup.FindsAgain moment path again other ∨ setup.GivesUp again other
  | remove other => ¬ other.Same path
  | prime _ | lendAll _ | globalOptions | setGlobalOptions _ => True
  | removeAll _ | destroy _ | drop _ => False

/-- The unit that was lent is still there, up to date with what was found for `path` at `moment`.
What the analyzer has made of it since does not matter. -/
def Keeps (setup : Setup ω σ κ υ) (moment : Moment ω) (path : Path) (lent : LentUnit ω υ)
    (s : CacheState σ κ υ) : Prop :=
  ∃ args time value, setup.argsFor? moment.world path = some args ∧
    moment.fileTime path = .ok time ∧
    s.table.find? path = some ⟨lent.path, args, time, .hold ⟨lent.unit.serial, value⟩⟩

/-! ## Every request -/

section

variable {setup : Setup ω σ κ υ} {moment again : Moment ω} {path other : Path}
  {lent : LentUnit ω υ} {s : CacheState σ κ υ}

theorem Keeps.of_kept {s' : CacheState σ κ υ} (keeps : Keeps setup moment path lent s)
    (kept : s'.table.find? path = s.table.find? path) : Keeps setup moment path lent s' := by
  obtain ⟨args, time, value, indexable, readable, found⟩ := keeps
  exact ⟨args, time, value, indexable, readable, kept.trans found⟩

theorem Setup.Serves.keeps {force : Bool} {lent : LentUnit ω υ}
    {ran : Ran (CacheState σ κ υ) (Effect κ υ) (Option (LentUnit ω υ))}
    (serves : setup.Serves moment path force s ran) (served : ran.result = .ok (some lent)) :
    Keeps setup moment path lent ran.state := by
  obtain ⟨⟨own, args, time, unit⟩, found, rfl, rfl, provides, readable⟩ := serves.lent served
  exact ⟨args, time, lent.unit.value, argsFor?_eq_some_iff.2 provides, readable, found⟩

theorem Keeps.refreshes {entry : Entry υ} {unit : Handle υ} {time : FileTime} {reason : String}
    {ran : Ran (CacheState σ κ υ) (Effect κ υ) (Option (LentUnit ω υ))}
    (keeps : Keeps setup moment path lent s) (same : other.Same path)
    (found : s.table.find? other = some entry) (held : entry.unit = .hold unit)
    (readable : moment.fileTime path = .ok time)
    (refreshes : setup.Refreshes again.world other time reason s entry unit ran) :
    Keeps setup moment path lent ran.state := by
  have key := Path.sameKey_iff_same.2 same
  obtain ⟨args, time', value, indexable, readable', found'⟩ := keeps
  obtain rfl : time = time' := by simpa [readable] using readable'
  rw [s.table.find?_congr key, found'] at found
  cases found
  obtain rfl : ⟨lent.unit.serial, value⟩ = unit := by simpa [Owned.hold] using held
  cases refreshes with
  -- Only a reparse that succeeds sets the time, and it is the same time.
  | reparsed | failed | panicked =>
    exact ⟨args, time, _, indexable, readable, SortedTable.find?_insert_of_same _ _ key⟩

theorem Keeps.serves {force : Bool}
    {ran : Ran (CacheState σ κ υ) (Effect κ υ) (Option (LentUnit ω υ))}
    (keeps : Keeps setup moment path lent s) (serves : setup.Serves again other force s ran)
    (same : other.Same path)
    (spares : setup.FindsAgain moment path again other ∨ setup.GivesUp again other) :
    Keeps setup moment path lent ran.state := by
  cases serves with
  | unindexable | unreadable | hit => exact keeps
  | @refreshed _ _ _ refreshed indexable readable found held stale refreshes =>
    rcases spares with ⟨same_args, same_time⟩ | no_args | ⟨fault, unreadable⟩
    · have still : Keeps setup moment path lent refreshed.state :=
        keeps.refreshes same found held (same_time.symm.trans readable) refreshes
      exact still
    · simp [no_args] at indexable
    · simp [unreadable] at readable
  | rebuilt indexable readable outdated parses =>
    rcases spares with ⟨same_args, same_time⟩ | no_args | ⟨fault, unreadable⟩
    -- Only other arguments would have it parsed anew.
    · obtain ⟨args, time, value, indexable', readable', found⟩ := keeps
      rw [← s.table.find?_congr (Path.sameKey_iff_same.2 same)] at found
      rw [same_args, indexable'] at indexable
      exact absurd (Option.some.inj indexable) (outdated _ found)
    · simp [no_args] at indexable
    · simp [unreadable] at readable

theorem Keeps.contains (keeps : Keeps setup moment path lent s) (same : other.Same path) :
    s.table.contains other = true := by
  obtain ⟨args, time, value, -, -, found⟩ := keeps
  rw [SortedTable.contains_eq_isSome, s.table.find?_congr (Path.sameKey_iff_same.2 same), found]
  rfl

theorem Setup.table_of_looking (setup : Setup ω σ κ υ) (sound : Sound s) (moment : Moment ω)
    {request : Request υ}
    (looks : (∃ walk, request = .lendAll walk) ∨ request = .globalOptions ∨
      ∃ options, request = .setGlobalOptions options) :
    (setup.step s ⟨moment, request⟩).state.table = s.table := by
  unfold step
  rcases looks with ⟨walk, rfl⟩ | rfl | ⟨options, rfl⟩
  · obtain ⟨lent, ran, -⟩ := setup.run_lendAll walk sound
    simp only [Request.act, Act.run_map, ran]
  all_goals
    simp only [Request.act, Act.run_map, globalOptions, setGlobalOptions, Act.run_bind,
      Act.run_state, Act.andThen_ok]
    cases alive : s.context with
    | none => rfl
    | some owned =>
      obtain ⟨context, rfl⟩ := sound.context_held owned alive
      rfl

theorem Keeps.step (keeps : Keeps setup moment path lent s) (sound : Sound s)
    {occasion : Occasion ω υ} (spares : occasion.request.Spares setup moment path occasion.moment) :
    Keeps setup moment path lent (setup.step s occasion).state := by
  obtain ⟨again, request⟩ := occasion
  cases about : request.file? with
  | some other =>
    -- By the frame only requests for the file itself matter.
    by_cases same : other.Same path
    · have cached := keeps.contains same
      cases request with
      | serve =>
        obtain rfl := Option.some.inj about
        rw [(setup.step_of_asks again rfl).2]
        exact keeps.serves (setup.serves_serve sound again _ _) same (spares same)
      | prime =>
        obtain rfl := Option.some.inj about
        rw [setup.step_of_idle (.inl rfl) (by simp [Request.asks?, cached])]
        exact keeps
      | reprime =>
        obtain rfl := Option.some.inj about
        have asks : Request.asks? s.table (.reprime _) = some _ := if_pos cached
        rw [(setup.step_of_asks again asks).2]
        exact keeps.serves (setup.serves_serve sound again _ _) same (spares same)
      | remove =>
        obtain rfl := Option.some.inj about
        exact absurd same spares
      | _ => cases about
    · exact keeps.of_kept ((setup.onlyAbout_step sound again about).kept path
        fun h => same h.symm)
  | none =>
    cases request with
    | lendAll walk =>
      exact keeps.of_kept (by rw [setup.table_of_looking sound again (.inl ⟨walk, rfl⟩)])
    | globalOptions =>
      exact keeps.of_kept (by rw [setup.table_of_looking sound again (.inr (.inl rfl))])
    | setGlobalOptions options =>
      exact keeps.of_kept (by rw [setup.table_of_looking sound again (.inr (.inr ⟨_, rfl⟩))])
    | removeAll | destroy | drop => exact spares.elim
    | _ => cases about

theorem Keeps.after (keeps : Keeps setup moment path lent s) (sound : Sound s)
    {occasions : List (Occasion ω υ)} (spared : ∀ occasion ∈ occasions,
      occasion.request.Spares setup moment path occasion.moment) :
    Keeps setup moment path lent (setup.after s occasions) ∧ Sound (setup.after s occasions) := by
  induction occasions generalizing s with
  | nil => exact ⟨keeps, sound⟩
  | cons occasion rest ih =>
    exact ih (keeps.step sound (spared occasion List.mem_cons_self))
      ((Does.step setup sound occasion).sound sound) fun other mem => spared other (.tail _ mem)

theorem Keeps.hit (keeps : Keeps setup moment path lent s) (sound : Sound s)
    (same : other.Same path) (finds : setup.FindsAgain moment path again other) :
    ∃ value, (setup.serve again other false).run s =
      ⟨.ok (some ⟨lent.path, ⟨lent.unit.serial, value⟩, setup.overlay⟩),
        setup.announced other "indexing" ++
          [setup.concluded other "index already up to date"], s⟩ := by
  obtain ⟨args, time, value, indexable, readable, found⟩ := keeps
  rw [← s.table.find?_congr (Path.sameKey_iff_same.2 same)] at found
  have indexable := finds.1.trans indexable
  have readable := finds.2.trans readable
  have serves := setup.serves_serve sound again other false
  generalize (setup.serve again other false).run s = ran at serves ⊢
  cases serves with
  | unindexable no_args => simp [no_args] at indexable
  | unreadable _ unreadable => simp [unreadable] at readable
  | hit _ _ found' held =>
    cases found.symm.trans found'
    obtain rfl := by simpa [Owned.hold] using held
    exact ⟨value, rfl⟩
  | refreshed _ readable' found' _ stale =>
    cases found.symm.trans found'
    rcases stale with forced | other_time
    · cases forced
    · exact absurd (Except.ok.inj (readable.symm.trans readable')) other_time
  | rebuilt indexable' _ outdated =>
    exact absurd (Option.some.inj (indexable.symm.trans indexable')) (outdated _ found)

end

/-! ## Whole runs -/

/-- Once a unit was served, any run that spares it leaves it to be served again, as long as its
file is found as it was then. Nothing but the log notices. -/
theorem hits_persist {setup : Setup ω σ κ υ} {s : CacheState σ κ υ} (reachable : Reachable setup s)
    {moment : Moment ω} {path : Path} {force : Bool} {lent : LentUnit ω υ}
    (served : ((setup.serve moment path force).run s).result = .ok (some lent))
    {occasions : List (Occasion ω υ)}
    (spared : ∀ occasion ∈ occasions,
      occasion.request.Spares setup moment path occasion.moment)
    {again : Moment ω} {other : Path} (same : other.Same path)
    (finds : setup.FindsAgain moment path again other) :
    let s' := setup.after ((setup.serve moment path force).run s).state occasions
    ∃ lent' effects, (setup.serve again other false).run s' = ⟨.ok (some lent'), effects, s'⟩ ∧
      (lent'.path = lent.path ∧ lent'.unit.serial = lent.unit.serial) ∧
      ∀ effect ∈ effects, ∃ noted, effect = .event noted := by
  have sound := reachable.sound
  have serves := setup.serves_serve sound moment path force
  obtain ⟨keeps, sound⟩ := (serves.keeps served).after (serves.sound sound) spared
  obtain ⟨value, hit⟩ := keeps.hit sound same finds
  refine ⟨_, _, hit, ⟨rfl, rfl⟩, ?_⟩
  intro effect mem
  rcases List.mem_append.1 mem with mem | mem
  · unfold Setup.announced at mem
    split at mem
    · exact ⟨_, List.mem_singleton.1 mem⟩
    · cases mem
  · exact ⟨_, List.mem_singleton.1 mem⟩

/-- A forced reparse panics and another file comes and goes, and the unit is still served. -/
theorem hits_persist_over_panic :
    let time : FileTime := ⟨0, by decide, by decide⟩
    let panicking := Simulation.Script.empty.set .reparse (some ⟨.panic .unreadable, none⟩)
    let moment : Moment Simulation.Script := ⟨fun _ => .ok time, .empty⟩
    let occasions := [Scripted.occasion time panicking (.serve (.ofText "a/") true),
      Scripted.occasion time .empty (.prime (.ofText "b")),
      Scripted.occasion time .empty (.remove (.ofText "b"))]
    let first := (Scripted.setup.serve moment (.ofText "a") false).run Scripted.start
    let s := Scripted.setup.after first.state occasions
    ∃ lent effects, (Scripted.setup.serve moment (.ofText "a//") false).run s =
        ⟨.ok (some lent), effects, s⟩ ∧
      (lent.path = .ofText "a" ∧ lent.unit.serial = 0) ∧
      ∀ effect ∈ effects, ∃ noted, effect = .event noted := by
  intro time panicking moment occasions first s
  have served : first.result =
      .ok (some ⟨.ofText "a", ⟨0, ⟨0, 0⟩⟩, Scripted.setup.overlay⟩) := rfl
  have spared : ∀ occasion ∈ occasions,
      occasion.request.Spares Scripted.setup moment (.ofText "a") occasion.moment := by
    simp only [occasions, List.forall_mem_cons]
    refine ⟨fun _ => .inl ⟨rfl, rfl⟩, trivial, ?_, by simp⟩
    exact (by decide : ¬ Path.Same (.ofText "b") (.ofText "a"))
  exact hits_persist ⟨_, _, [], Scripted.opened, rfl⟩ served spared (by decide) ⟨rfl, rfl⟩

end SourceIndex
