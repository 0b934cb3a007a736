import SourceIndex.Proofs.Cache.Isolation

/-!
# Priming and repriming

Priming files only adds: whatever was in the table stays as it is, and all that the analyzer is
asked is to parse. Repriming never adds: it serves what is in the table, and disposes a unit only to
parse its file with other arguments.
-/

namespace SourceIndex

variable {ω σ κ υ : Type}

/-! ## Tables with fewer keys -/

theorem SortedTable.length_le_of_contains {κ α : Type} {before : κ → κ → Prop}
    [DecidableRel before] [KeyOrder before] {t t' : SortedTable before α}
    (known : ∀ key, t.contains key → t'.contains key) : t.length ≤ t'.length := by
  let partner := t.entries.filterMap fun entry => t'.entry? entry.1
  have all_known : ∀ entry ∈ t.entries, (t'.entry? entry.1).isSome := by
    intro entry mem
    apply known
    rw [contains, entry?_of_mem mem]
    rfl
  -- Two entries with the same partner would have the same key.
  have once : partner.Nodup := by
    refine List.Pairwise.filterMap _ ?_ t.sorted
    rintro a b less c found _ found' rfl
    have same := sameKey_of_entry? found
    have same' := sameKey_of_entry? found'
    exact (same.symm.trans same').1 less
  have theirs : partner ⊆ t'.entries := by
    intro entry mem
    obtain ⟨own, -, found⟩ := List.mem_filterMap.1 mem
    exact mem_of_entry? found
  calc
    t.length = partner.length := (List.filterMap_length_eq_length.2 all_known).symm
    _ ≤ t'.length := (List.subperm_of_subset once theirs).length_le

/-! ## Files that are not cached -/

/-- All calls parse files, and what was in the table is there as it was. -/
structure OnlyAdds (s : CacheState σ κ υ) (calls : List (Call κ υ)) (left : CacheState σ κ υ) :
    Prop where
  kept : ∀ cached ∈ s.table.entries, cached ∈ left.table.entries
  parses : ∀ call ∈ calls, ∃ context path args buffers answer,
    call = .parse context path args buffers answer

theorem OnlyAdds.refl (s : CacheState σ κ υ) : OnlyAdds s [] s where
  kept _ mem := mem
  parses := by simp

theorem OnlyAdds.trans {s s' s'' : CacheState σ κ υ} {calls calls' : List (Call κ υ)}
    (first : OnlyAdds s calls s') (last : OnlyAdds s' calls' s'') :
    OnlyAdds s (calls ++ calls') s'' where
  kept cached mem := last.kept cached (first.kept cached mem)
  parses call mem := (List.mem_append.1 mem).elim (first.parses call) (last.parses call)

namespace Setup

variable {setup : Setup ω σ κ υ} {s : CacheState σ κ υ} {moment : Moment ω} {path : Path}
  {force : Bool}

theorem Removes.eq_of_unknown {world : ω} {ran : Ran (CacheState σ κ υ) (Effect κ υ) Unit}
    (removes : setup.Removes world path s ran) (unknown : s.table.find? path = none) :
    ran = ⟨.ok (), [], s⟩ := by
  cases removes with
  | absent => rfl
  | present found =>
    rw [unknown] at found
    contradiction

theorem Parses.onlyAdds {world : ω} {args : List String} {time : FileTime}
    {ran : Ran (CacheState σ κ υ) (Effect κ υ) (Option (LentUnit ω υ))}
    (parses : setup.Parses world path args time s ran) (unknown : s.table.find? path = none) :
    OnlyAdds s (callsOf ran.effects) ran.state := by
  have nothing_erased := SortedTable.erase_of_find?_eq_none unknown
  cases parses with
  | destroyed removes =>
    obtain rfl := removes.eq_of_unknown unknown
    exact ⟨fun _ mem => mem, by simp⟩
  | parsed removes =>
    obtain rfl := removes.eq_of_unknown unknown
    refine ⟨fun cached mem => ?_, by simp⟩
    simp only [nothing_erased]
    exact (SortedTable.mem_insert_of_not_found unknown).2 (.inr mem)
  | failed removes | panicked removes =>
    obtain rfl := removes.eq_of_unknown unknown
    refine ⟨fun cached mem => ?_, by simp⟩
    simpa only [nothing_erased] using mem

theorem Serves.onlyAdds {ran : Ran (CacheState σ κ υ) (Effect κ υ) (Option (LentUnit ω υ))}
    (serves : setup.Serves moment path force s ran) (unknown : s.table.find? path = none) :
    OnlyAdds s (callsOf ran.effects) ran.state := by
  cases serves with
  | unindexable | unreadable => exact ⟨fun _ mem => mem, by simp⟩
  | hit _ _ found | refreshed _ _ found =>
    rw [unknown] at found
    contradiction
  | rebuilt _ _ _ parses =>
    have adds := parses.onlyAdds unknown
    exact ⟨adds.kept, by simpa using adds.parses⟩

theorem onlyAdds_prime (setup : Setup ω σ κ υ) (sound : Sound s) (moment : Moment ω)
    (path : Path) :
    OnlyAdds s (callsOf (setup.step s ⟨moment, .prime path⟩).effects)
      (setup.step s ⟨moment, .prime path⟩).state := by
  cases cached : s.table.contains path with
  | true =>
    rw [setup.step_of_idle (.inl rfl) (by simp [Request.asks?, cached])]
    exact .refl s
  | false =>
    have asks : (Request.prime path : Request υ).asks? s.table = some (path, false) := by
      simp [Request.asks?, cached]
    obtain ⟨effects_eq, state_eq⟩ := setup.step_of_asks moment asks
    have unknown : s.table.find? path = none := by
      simpa [SortedTable.contains_eq_isSome] using cached
    rw [effects_eq, state_eq]
    exact (setup.serves_serve sound moment path false).onlyAdds unknown

theorem onlyAdds_primes (setup : Setup ω σ κ υ) (sound : Sound s)
    {occasions : List (Occasion ω υ)}
    (primes : ∀ occasion ∈ occasions, ∃ path, occasion.request = .prime path) :
    OnlyAdds s (callLog (setup.history s occasions)) (setup.after s occasions) := by
  induction occasions generalizing s with
  | nil => exact .refl s
  | cons occasion rest ih =>
    obtain ⟨moment, request⟩ := occasion
    obtain ⟨⟨path, rfl⟩, others⟩ := List.forall_mem_cons.1 primes
    have sound' := (Does.step setup sound ⟨moment, .prime path⟩).sound sound
    exact (setup.onlyAdds_prime sound moment path).trans (ih sound' others)

/-! ## Files that are cached -/

theorem Serves.known_of_found
    {ran : Ran (CacheState σ κ υ) (Effect κ υ) (Option (LentUnit ω υ))}
    (serves : setup.Serves moment path force s ran) (cached : s.table.contains path)
    {other : Path} (left : ran.state.table.contains other) : s.table.contains other := by
  simp only [SortedTable.contains_eq_isSome] at cached left ⊢
  by_cases same : other.Same path
  · rwa [s.table.find?_congr (Path.sameKey_iff_same.2 same)]
  · rwa [serves.onlyAbout.kept other same] at left

/-- The unit of the file makes way for one with other arguments. -/
def Superseded (setup : Setup ω σ κ υ) (s : CacheState σ κ υ) (moment : Moment ω) (path : Path)
    (unit : Handle υ) : Prop :=
  ∃ entry args, s.table.find? path = some entry ∧ entry.unit = .hold unit ∧
    setup.argsFor? moment.world path = some args ∧ entry.args ≠ args

theorem Serves.superseded {ran : Ran (CacheState σ κ υ) (Effect κ υ) (Option (LentUnit ω υ))}
    (serves : setup.Serves moment path force s ran) {unit : Handle υ} {release : Release}
    {answer : Answer Unit} (disposed : .disposeUnit unit release answer ∈ callsOf ran.effects) :
    setup.Superseded s moment path unit := by
  cases serves with
  | unindexable | unreadable | hit => simp at disposed
  | refreshed _ _ _ _ _ refreshes => cases refreshes <;> simp at disposed
  | rebuilt indexable _ outdated parses =>
    -- The only disposal on the way is that of the old unit.
    have by_removal : ∀ {removed}, setup.Removes moment.world path s removed →
        .disposeUnit unit release answer ∈ callsOf removed.effects →
        setup.Superseded s moment path unit := by
      intro removed removes mem
      cases removes with
      | absent => simp at mem
      | present found held =>
        obtain ⟨rfl, -⟩ : unit = _ ∧ _ := by simpa using mem
        exact ⟨_, _, found, held, indexable, outdated _ found⟩
    cases parses with
    | destroyed removes | parsed removes | failed removes | panicked removes =>
      exact by_removal removes (by simpa using disposed)

/-- The calls for a file, which is served only if it is in the table. -/
def servedIfCached (setup : Setup ω σ κ υ) (s : CacheState σ κ υ) (moment : Moment ω)
    (path : Path) : List (Call κ υ) :=
  if s.table.contains path then callsOf ((setup.serve moment path false).run s).effects else []

theorem step_reprime_of_unknown (setup : Setup ω σ κ υ) (moment : Moment ω)
    (unknown : s.table.contains path = false) :
    setup.step s ⟨moment, .reprime path⟩ = ⟨.ok .done, [], s⟩ :=
  setup.step_of_idle (.inr rfl) (by simp [Request.asks?, unknown])

theorem step_reprime_of_cached (setup : Setup ω σ κ υ) (moment : Moment ω)
    (cached : s.table.contains path = true) :
    (setup.step s ⟨moment, .reprime path⟩).effects =
        ((setup.serve moment path false).run s).effects ∧
      (setup.step s ⟨moment, .reprime path⟩).state =
        ((setup.serve moment path false).run s).state :=
  setup.step_of_asks moment (by simp [Request.asks?, cached])

theorem known_of_reprime (setup : Setup ω σ κ υ) (sound : Sound s) (moment : Moment ω)
    (path : Path) {other : Path}
    (left : (setup.step s ⟨moment, .reprime path⟩).state.table.contains other) :
    s.table.contains other := by
  cases cached : s.table.contains path with
  | false => rwa [setup.step_reprime_of_unknown moment cached] at left
  | true =>
    rw [(setup.step_reprime_of_cached moment cached).2] at left
    exact (setup.serves_serve sound moment path false).known_of_found cached left

/-- The file is served only if it is cached, and a unit is disposed only if there will be one with
other arguments. -/
structure OnlyReplaces (setup : Setup ω σ κ υ) (s : CacheState σ κ υ) (occasion : Occasion ω υ)
    (path : Path) : Prop where
  shrinks : (setup.step s occasion).state.table.length ≤ s.table.length
  calls : callsOf (setup.step s occasion).effects = setup.servedIfCached s occasion.moment path
  superseded : ∀ unit release answer,
    .disposeUnit unit release answer ∈ callsOf (setup.step s occasion).effects →
      setup.Superseded s occasion.moment path unit

theorem onlyReplaces_reprime (setup : Setup ω σ κ υ) (sound : Sound s) (moment : Moment ω)
    (path : Path) : setup.OnlyReplaces s ⟨moment, .reprime path⟩ path := by
  have shrinks := SortedTable.length_le_of_contains fun _ left =>
    setup.known_of_reprime sound moment path left
  cases cached : s.table.contains path with
  | false =>
    have idle := setup.step_reprime_of_unknown moment cached
    refine ⟨shrinks, ?_, by simp [idle]⟩
    rw [idle, servedIfCached, cached]
    rfl
  | true =>
    obtain ⟨effects_eq, -⟩ := setup.step_reprime_of_cached moment cached
    refine ⟨shrinks, by rw [effects_eq, servedIfCached, if_pos cached], ?_⟩
    rw [effects_eq]
    intro unit release answer disposed
    exact (setup.serves_serve sound moment path false).superseded disposed

/-! ## Runs -/

theorem sound_visit (setup : Setup ω σ κ υ) (sound : Sound s) {occasions : List (Occasion ω υ)}
    {visit : CacheState σ κ υ × Occasion ω υ} (mem : visit ∈ setup.visits s occasions) :
    Sound visit.1 := by
  induction occasions generalizing s with
  | nil => cases mem
  | cons occasion rest ih =>
    rcases List.mem_cons.1 mem with rfl | mem
    · exact sound
    · exact ih ((Does.step setup sound occasion).sound sound) mem

theorem known_of_reprimes (setup : Setup ω σ κ υ) (sound : Sound s)
    {occasions : List (Occasion ω υ)}
    (reprimes : ∀ occasion ∈ occasions, ∃ path, occasion.request = .reprime path) {other : Path}
    (left : (setup.after s occasions).table.contains other) : s.table.contains other := by
  induction occasions generalizing s with
  | nil => exact left
  | cons occasion rest ih =>
    obtain ⟨moment, request⟩ := occasion
    obtain ⟨⟨path, rfl⟩, others⟩ := List.forall_mem_cons.1 reprimes
    have sound' := (Does.step setup sound ⟨moment, .reprime path⟩).sound sound
    exact setup.known_of_reprime sound moment path (ih sound' others left)

end Setup

/-- Priming leaves all entries as they are and only parses. Repriming makes no file known, and each
of its steps serves the file if it is in the table then. -/
theorem priming_adds_and_repriming_replaces {setup : Setup ω σ κ υ} {s : CacheState σ κ υ}
    (reachable : Reachable setup s) (occasions : List (Occasion ω υ)) :
    ((∀ occasion ∈ occasions, ∃ path, occasion.request = .prime path) →
      OnlyAdds s (callLog (setup.history s occasions)) (setup.after s occasions)) ∧
    ((∀ occasion ∈ occasions, ∃ path, occasion.request = .reprime path) →
      (∀ path, (setup.after s occasions).table.contains path → s.table.contains path) ∧
      ∀ visit ∈ setup.visits s occasions, ∀ path, visit.2.request = .reprime path →
        setup.OnlyReplaces visit.1 visit.2 path) := by
  have sound := reachable.sound
  refine ⟨setup.onlyAdds_primes sound, fun reprimes =>
    ⟨fun path => setup.known_of_reprimes sound reprimes, ?_⟩⟩
  rintro ⟨found, moment, request⟩ mem path rfl
  exact setup.onlyReplaces_reprime (setup.sound_visit sound mem) moment path

/-- The arguments go by the spelling. Priming a cached file by another one is to do nothing, and to
reprime it disposes the old unit, even if it then cannot be parsed. -/
theorem priming_adds_and_repriming_replaces_when_respelled :
    let time : FileTime := ⟨0, by decide, by decide⟩
    let plan := Blueprint.ofClauses [.provider fun _ path => [path.shown]]
    let setup := plan.setup (Simulation.scripted id)
    let s := setup.after Scripted.start [Scripted.occasion time .empty (.serve (.ofText "a") false)]
    let crashing := Simulation.Script.empty.set .parse (some ⟨.panic .unreadable, none⟩)
    let refusing := Simulation.Script.empty.set .parse (some ⟨.refuse "busy", none⟩)
    let primes := [Scripted.occasion time crashing (.prime (.ofText "b")),
      Scripted.occasion time crashing (.prime (.ofText "a/")),
      Scripted.occasion time .empty (.prime (.ofText "c"))]
    let reprimes := [Scripted.occasion time .empty (.reprime (.ofText "b")),
      Scripted.occasion time refusing (.reprime (.ofText "a/")),
      Scripted.occasion time .empty (.reprime (.ofText "a"))]
    (callLog (setup.history s primes) =
        [.parse ⟨0, ⟨0⟩⟩ (.ofText "b") ["b"] [] (.panic .unreadable),
          .parse ⟨0, ⟨0⟩⟩ (.ofText "c") ["c"] [] (.value ⟨1, ⟨1, 0⟩⟩)] ∧
      OnlyAdds s (callLog (setup.history s primes)) (setup.after s primes)) ∧
    callLog (setup.history s reprimes) =
        [.disposeUnit ⟨0, ⟨0, 0⟩⟩ .explicit (.value ()),
          .parse ⟨0, ⟨0⟩⟩ (.ofText "a/") ["a/"] [] (.fault "busy")] ∧
      ∀ visit ∈ setup.visits s reprimes, ∀ path, visit.2.request = .reprime path →
        setup.OnlyReplaces visit.1 visit.2 path := by
  intro time plan setup s crashing refusing primes reprimes
  have opened : Opened setup Scripted.built Scripted.start :=
    ⟨plan, .empty, _, .start .start, _, rfl, rfl, rfl, rfl, rfl⟩
  have reachable : Reachable setup s := ⟨_, _, _, opened, rfl⟩
  have all_prime : ∀ occasion ∈ primes, ∃ path, occasion.request = .prime path := by
    simp [primes, Scripted.occasion]
  have all_reprime : ∀ occasion ∈ reprimes, ∃ path, occasion.request = .reprime path := by
    simp [reprimes, Scripted.occasion]
  have adds := (priming_adds_and_repriming_replaces reachable primes).1 all_prime
  have replaces := (priming_adds_and_repriming_replaces reachable reprimes).2 all_reprime
  exact ⟨⟨by decide +kernel +zetaReduce, adds⟩, by decide +kernel +zetaReduce, replaces.2⟩

end SourceIndex
