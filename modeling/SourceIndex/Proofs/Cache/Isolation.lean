import SourceIndex.Proofs.Cache.Likeness
import SourceIndex.Proofs.Cache.Provenance

/-!
# Files apart from each other

A request for a file goes by what is kept for this file and by nothing else in the table. What is
kept for other files is neither changed nor handed to the analyzer.
-/

namespace SourceIndex

variable {ω σ κ υ : Type}

/-! ## Other files -/

/-- What was done leaves all other files as they are, and the only unit that was handed to the
analyzer, if any, is the one that was found for the file. -/
structure OnlyAbout (path : Path) (s : CacheState σ κ υ) (effects : List (Effect κ υ))
    (left : CacheState σ κ υ) : Prop where
  kept : ∀ other, ¬ other.Same path → left.table.find? other = s.table.find? other
  own : ∀ call ∈ callsOf effects, ∀ serial, call.unit? = some serial →
    ∃ entry unit, s.table.find? path = some entry ∧ entry.unit = .hold unit ∧
      unit.serial = serial

theorem find?_erase_of_other {table : PathTable (Entry υ)} {path other : Path}
    (apart : ¬ other.Same path) : (table.erase path).find? other = table.find? other :=
  table.find?_erase_of_not_same fun key => apart (Path.sameKey_iff_same.1 key).symm

theorem find?_insert_of_other {table : PathTable (Entry υ)} {path other : Path}
    (apart : ¬ other.Same path) (entry : Entry υ) :
    (table.insert path entry).find? other = table.find? other :=
  table.find?_insert_of_not_same entry fun key => apart (Path.sameKey_iff_same.1 key).symm

namespace Setup

variable {setup : Setup ω σ κ υ} {s : CacheState σ κ υ} {world : ω} {path : Path}

theorem Removes.onlyAbout {ran : Ran (CacheState σ κ υ) (Effect κ υ) Unit}
    (removes : setup.Removes world path s ran) : OnlyAbout path s ran.effects ran.state := by
  cases removes with
  | absent => exact ⟨fun _ _ => rfl, by simp⟩
  | present found held =>
    refine ⟨fun _ apart => find?_erase_of_other apart, ?_⟩
    simpa [Call.unit?] using ⟨_, found, _, held, rfl⟩

theorem Refreshes.onlyAbout {time : FileTime} {reason : String} {entry : Entry υ}
    {unit : Handle υ} {ran : Ran (CacheState σ κ υ) (Effect κ υ) (Option (LentUnit ω υ))}
    (refreshes : setup.Refreshes world path time reason s entry unit ran)
    (found : s.table.find? path = some entry) (held : entry.unit = .hold unit) :
    OnlyAbout path s ran.effects ran.state := by
  cases refreshes with
  | reparsed | failed | panicked =>
    refine ⟨fun _ apart => find?_insert_of_other apart _, ?_⟩
    simpa [Call.unit?] using ⟨_, found, _, held, rfl⟩

theorem Parses.onlyAbout {args : List String} {time : FileTime}
    {ran : Ran (CacheState σ κ υ) (Effect κ υ) (Option (LentUnit ω υ))}
    (parses : setup.Parses world path args time s ran) :
    OnlyAbout path s ran.effects ran.state := by
  cases parses with
  | destroyed removes => exact ⟨removes.onlyAbout.kept, by simpa using removes.onlyAbout.own⟩
  | parsed removes =>
    refine ⟨fun _ apart => ?_, ?_⟩
    · rw [find?_insert_of_other apart, find?_erase_of_other apart]
    · simpa [or_imp, forall_and, Call.unit?] using removes.onlyAbout.own
  | failed removes | panicked removes =>
    refine ⟨fun _ apart => find?_erase_of_other apart, ?_⟩
    simpa [or_imp, forall_and, Call.unit?] using removes.onlyAbout.own

theorem Serves.onlyAbout {moment : Moment ω} {force : Bool}
    {ran : Ran (CacheState σ κ υ) (Effect κ υ) (Option (LentUnit ω υ))}
    (serves : setup.Serves moment path force s ran) :
    OnlyAbout path s ran.effects ran.state := by
  cases serves with
  | unindexable | unreadable | hit => exact ⟨fun _ _ => rfl, by simp⟩
  | refreshed indexable readable found held stale refreshes =>
    exact ⟨(refreshes.onlyAbout found held).kept,
      by simpa using (refreshes.onlyAbout found held).own⟩
  | rebuilt indexable readable outdated parses =>
    exact ⟨parses.onlyAbout.kept, by simpa using parses.onlyAbout.own⟩

theorem onlyAbout_step (setup : Setup ω σ κ υ) (sound : Sound s) (moment : Moment ω)
    {request : Request υ} (about : request.file? = some path) :
    OnlyAbout path s (setup.step s ⟨moment, request⟩).effects
      (setup.step s ⟨moment, request⟩).state := by
  have nothing : OnlyAbout path s ([] : List (Effect κ υ)) s := ⟨fun _ _ => rfl, by simp⟩
  cases asks : request.asks? s.table with
  | some asked =>
    obtain ⟨effects_eq, state_eq⟩ := setup.step_of_asks moment asks
    obtain rfl : asked.1 = path := Option.some.inj ((Request.file?_of_asks? asks).symm.trans about)
    rw [effects_eq, state_eq]
    exact (setup.serves_serve sound moment _ _).onlyAbout
  | none =>
    cases request with
    | serve => cases asks
    | prime =>
      rw [setup.step_of_idle (.inl rfl) asks]
      exact nothing
    | reprime =>
      rw [setup.step_of_idle (.inr rfl) asks]
      exact nothing
    | remove =>
      obtain rfl := Option.some.inj about
      simp only [step, Request.act, Act.run_map]
      exact (setup.removes_remove sound moment.world _).onlyAbout
    | _ => cases about

end Setup

theorem Books.serial_ne {log : List (Call κ υ)} {s : CacheState σ κ υ} (books : Books log s)
    (sound : Sound s) {path other : Path} {entry entry' : Entry υ} {unit unit' : Handle υ}
    (found : s.table.find? path = some entry) (held : entry.unit = .hold unit)
    (found' : s.table.find? other = some entry') (held' : entry'.unit = .hold unit')
    (apart : ¬ other.Same path) : unit.serial ≠ unit'.serial := by
  obtain ⟨cached, mem, same, rfl⟩ := SortedTable.find?_eq_some_iff.1 found
  obtain ⟨cached', mem', same', rfl⟩ := SortedTable.find?_eq_some_iff.1 found'
  intro same_serial
  -- Each unit is held once, so both entries are the same one.
  rw [books.eq_of_serial_eq sound mem mem' held held' same_serial] at same
  exact apart (Path.sameKey_iff_same.1 (same'.symm.trans same))

/-! ## Isolation -/

/-- In states that are alike as far as a file goes a request for the file has the same outcome,
whatever else is in their tables, and it leaves all other files alone. -/
theorem files_are_isolated {setup : Setup ω σ κ υ} {occasion : Occasion ω υ} {path : Path}
    (about : occasion.request.file? = some path) :
    (∀ alike : Likeness σ κ, alike.RespectedBy setup.analyzer →
      ∀ s s', alike.States path s s' →
        (setup.step s occasion).Alike (alike.States path) alike.Effects alike.Responses
          (setup.step s' occasion)) ∧
    ∀ s, Reachable setup s → ∀ other, ¬ other.Same path →
      (setup.step s occasion).state.table.find? other = s.table.find? other ∧
        ∀ entry unit, s.table.find? other = some entry → entry.unit = .hold unit →
          ∀ call ∈ callsOf (setup.step s occasion).effects, call.unit? ≠ some unit.serial := by
  constructor
  · intro alike answers s s' states
    exact Likeness.acts_request answers occasion.moment about s s' states
  · intro s reachable other apart
    obtain ⟨log, books⟩ := reachable.books
    have only := setup.onlyAbout_step reachable.sound occasion.moment about
    refine ⟨only.kept other apart, ?_⟩
    intro entry unit found held call mem handed
    obtain ⟨own, own_unit, own_found, own_held, same_serial⟩ := only.own call mem _ handed
    exact books.serial_ne reachable.sound own_found own_held found held apart same_serial

/-- A reparse that is refused has the same outcome whether or not another file is there, and that
file stays as it is. -/
theorem files_are_isolated_when_refused :
    let time : FileTime := ⟨0, by decide, by decide⟩
    let refusing := Simulation.Script.empty.set .reparse (some ⟨.refuse "busy", none⟩)
    let both := [Scripted.occasion time .empty (.serve (.ofText "a") false),
      Scripted.occasion time .empty (.serve (.ofText "b") false)]
    let s := Scripted.setup.after Scripted.start
      (both ++ [Scripted.occasion time .empty (.remove (.ofText "b"))])
    let s' := Scripted.setup.after Scripted.start both
    let occasion := Scripted.occasion time refusing (.serve (.ofText "a/") true)
    let alike : Likeness Simulation.ScriptedState Simulation.ScriptedContext := .exact 2
    (s.table.length = 1 ∧ s'.table.length = 2) ∧
      callsOf (Scripted.setup.step s' occasion).effects =
        [.reparse ⟨0, ⟨0, 0⟩⟩ [] ⟨0, 0⟩ (.fault "busy")] ∧
      (Scripted.setup.step s occasion).Alike (alike.States (.ofText "a/")) alike.Effects
        alike.Responses (Scripted.setup.step s' occasion) ∧
      (Scripted.setup.step s' occasion).state.table.find? (.ofText "b") =
        s'.table.find? (.ofText "b") := by
  intro time refusing both s s' occasion alike
  obtain ⟨by_file_only, others_kept⟩ :=
    @files_are_isolated _ _ _ _ Scripted.setup occasion (.ofText "a/") rfl
  have entries : s.table.find? (.ofText "a/") = some ⟨.ofText "a", [], time, .hold ⟨0, ⟨0, 0⟩⟩⟩ ∧
      s'.table.find? (.ofText "a/") = some ⟨.ofText "a", [], time, .hold ⟨0, ⟨0, 0⟩⟩⟩ := by
    decide +kernel +zetaReduce
  have analyzers : s.analyzer = ⟨⟨1, 2, []⟩, 2, 1⟩ ∧ s'.analyzer = ⟨⟨1, 2, []⟩, 2, 1⟩ := by
    decide +kernel +zetaReduce
  have contexts : s.context = some (.hold ⟨0, ⟨0⟩⟩) ∧ s'.context = some (.hold ⟨0, ⟨0⟩⟩) := by
    decide +kernel +zetaReduce
  have states : alike.States (.ofText "a/") s s' := by
    constructor
    · rw [analyzers.1, analyzers.2]
      rfl
    · rw [analyzers.1, analyzers.2]
      exact ⟨0, rfl, rfl⟩
    · rw [contexts.1, contexts.2]
      exact .some (.some rfl)
    · rw [entries.1, entries.2]
      exact .some ⟨rfl, rfl, rfl, .some ⟨rfl, .inl rfl⟩⟩
  have reachable : Reachable Scripted.setup s' := ⟨_, _, both, Scripted.opened, rfl⟩
  refine ⟨by decide +kernel +zetaReduce, by decide +kernel +zetaReduce,
    by_file_only alike (Likeness.exact_respectedBy 2 _) s s' states, ?_⟩
  exact (others_kept s' reachable _ (by decide)).1

end SourceIndex
