import SourceIndex.Proofs.Cache.Calls
import SourceIndex.Proofs.File.Edits

/-!
# Current buffers

The editor's buffers change while a cache is at work. Every call that parses or reparses gets them
as they are at that moment, and a unit that was lent out sees them as they are when it is asked.
-/

namespace SourceIndex

/-! ## A cache beside an editor -/

/-- What a request finds: the editor's buffers, and everything else. -/
structure Surroundings (ω : Type) where
  outside : ω
  buffers : Buffers

/-- The overlay of a cache that sees the editor's buffers. -/
def Surroundings.overlay {ω : Type} (around : Surroundings ω) : List Buffer :=
  around.buffers.toList

inductive Happening (ω υ : Type) where
  | edit (change : Edit)
  | request (occasion : Occasion ω υ)

variable {ω σ κ υ : Type}

/-- The request finds these buffers. -/
def Occasion.beside (occasion : Occasion ω υ) (buffers : Buffers) :
    Occasion (Surroundings ω) υ :=
  ⟨⟨occasion.moment.fileTime, ⟨occasion.moment.world, buffers⟩⟩, occasion.request⟩

namespace Happening

/-- The requests, each with the buffers that it finds. -/
def occasions (buffers : Buffers) : List (Happening ω υ) → List (Occasion (Surroundings ω) υ)
  | [] => []
  | edit change :: rest => occasions (change.apply buffers) rest
  | request occasion :: rest => occasion.beside buffers :: occasions buffers rest

def edits : List (Happening ω υ) → List Edit
  | [] => []
  | edit change :: rest => change :: edits rest
  | request _ :: rest => edits rest

theorem occasions_append (log : List Edit) (before behind : List (Happening ω υ)) :
    occasions (.edited log) (before ++ behind) =
      occasions (.edited log) before ++ occasions (.edited (log ++ edits before)) behind := by
  induction before generalizing log with
  | nil => simp [occasions, edits]
  | cons event rest ih =>
    cases event with
    | edit change =>
      simp only [List.cons_append, occasions, edits, ← Buffers.edited_concat]
      rw [ih, List.append_assoc, List.singleton_append]
    | request occasion => simp only [List.cons_append, occasions, edits, ih]

end Happening

theorem Setup.history_split (setup : Setup (Surroundings ω) σ κ υ) (s : CacheState σ κ υ)
    (log : List Edit) (before behind : List (Happening ω υ)) (occasion : Occasion ω υ) :
    let first := Happening.occasions (.edited log) before
    let buffers := Buffers.edited (log ++ Happening.edits before)
    let step := setup.step (setup.after s first) (occasion.beside buffers)
    setup.history s (Happening.occasions (.edited log) (before ++ .request occasion :: behind)) =
      setup.history s first ++ ⟨occasion.beside buffers, step⟩ ::
        setup.history step.state (Happening.occasions buffers behind) := by
  intro first buffers step
  rw [Happening.occasions_append, setup.history_append]
  rfl

/-! ## What is seen -/

/-- If the call parses or reparses, then with these buffers. -/
def Call.Sees (buffers : List Buffer) : Call κ υ → Prop
  | parse _ _ _ seen _ | reparse _ seen _ _ => seen = buffers
  | _ => True

theorem Call.Fits.sees {setup : Setup ω σ κ υ} {world : ω} {call : Call κ υ}
    (fits : call.Fits setup world) : call.Sees (setup.overlay world) := by
  cases fits with
  | parse | reparse => rfl
  | _ => trivial

/-- The units that a response lends out. -/
def Response.lent : Response ω υ → List (LentUnit ω υ)
  | unit lent => lent.toList
  | units lent => lent
  | done | options _ => []

/-- The units that a request lends out, unless it panics. -/
def lentOf : Except Payload (Response ω υ) → List (LentUnit ω υ)
  | .ok response => response.lent
  | .error _ => []

def Step.lent (step : Step ω σ κ υ) : List (LentUnit ω υ) := lentOf step.ran.result

theorem lentOf_map_eq_nil {α : Type} {respond : α → Response ω υ} (result : Except Payload α)
    (nothing : ∀ a, (respond a).lent = []) : lentOf (result.map respond) = [] := by
  cases result with
  | error => rfl
  | ok a => exact nothing a

section

variable {setup : Setup ω σ κ υ} {s : CacheState σ κ υ}

theorem Setup.Serves.overlay_eq {moment : Moment ω} {path : Path} {force : Bool}
    {ran : Ran (CacheState σ κ υ) (Effect κ υ) (Option (LentUnit ω υ))} {lent : LentUnit ω υ}
    (serves : setup.Serves moment path force s ran) (served : ran.result = .ok (some lent)) :
    lent.overlay = setup.overlay := by
  cases serves with
  | unindexable | unreadable => simp at served
  | hit =>
    cases served
    rfl
  | refreshed indexable readable found held stale refreshes =>
    cases refreshes <;> cases served
    rfl
  | rebuilt indexable readable outdated parses =>
    cases parses <;> cases served
    rfl

theorem Setup.Lends.overlay_eq {entries : List (Entry υ)} {all : List (LentUnit ω υ)}
    (lends : List.Forall₂ (Lends setup) entries all) :
    ∀ lent ∈ all, lent.overlay = setup.overlay := by
  induction lends with
  | nil => simp
  | cons first _ ih => exact List.forall_mem_cons.2 ⟨first.2.2, ih⟩

theorem Sound.lent_overlay_eq (sound : Sound s) (occasion : Occasion ω υ) :
    ∀ lent ∈ lentOf (setup.step s occasion).result, lent.overlay = setup.overlay := by
  intro lent mem
  obtain ⟨moment, request⟩ := occasion
  cases request with
  | serve path force =>
    have serves := setup.serves_serve sound moment path force
    simp only [Setup.step, Request.act, Act.run_map] at mem
    cases served : ((setup.serve moment path force).run s).result with
    | error payload => simp [served, Except.map, lentOf] at mem
    | ok answer =>
      obtain rfl : answer = some lent := by
        simpa [served, Except.map, lentOf, Response.lent] using mem
      exact serves.overlay_eq served
  | lendAll walk =>
    obtain ⟨all, ran, lends⟩ := setup.run_lendAll walk sound
    simp only [Setup.step, Request.act, Act.run_map, ran] at mem
    exact Setup.Lends.overlay_eq lends lent mem
  | globalOptions | prime | reprime | remove | removeAll | destroy | drop | setGlobalOptions =>
    -- These lend nothing.
    simp only [Setup.step, Request.act, Act.run_map] at mem
    rw [lentOf_map_eq_nil _ fun _ => rfl] at mem
    cases mem

end

/-- The requests of a run each find the buffers that the edits before them leave. What parses and
reparses gets those, units that are lent out see the buffers of any later time, and what came of
earlier requests stays. -/
theorem analyzer_sees_current_buffers {setup : Setup (Surroundings ω) σ κ υ}
    (same : setup.overlay = Surroundings.overlay) {built : List (Call κ υ)}
    {s : CacheState σ κ υ} (opened : Opened setup built s) (early : List Edit)
    (before behind : List (Happening ω υ)) (occasion : Occasion ω υ) :
    let run events := setup.history s (Happening.occasions (.edited early) events)
    let log := early ++ Happening.edits before
    let buffers := Buffers.edited log
    ∃ step rest, run (before ++ .request occasion :: behind) = run before ++ step :: rest ∧
      step.occasion = occasion.beside buffers ∧ buffers.Reflects log ∧
      (∀ call ∈ step.calls, call.Sees buffers.toList) ∧
      ∀ lent ∈ step.lent, ∀ outside later,
        let after := Buffers.edited (log ++ later)
        after.Reflects (log ++ later) ∧ lent.buffers ⟨outside, after⟩ = after.toList ∧
          ∀ {α : Type} (query : υ → List Buffer → α),
            lent.ask ⟨outside, after⟩ query = query lent.unit.value after.toList := by
  intro run log buffers
  have sound : Sound (setup.after s (Happening.occasions (.edited early) before)) :=
    Reachable.sound ⟨built, s, _, opened, rfl⟩
  refine ⟨_, _, setup.history_split s early before behind occasion, rfl,
    Buffers.edited_reflects log, ?_, ?_⟩
  · intro call mem
    have sees := ((Does.step setup sound (occasion.beside buffers)).fits call mem).sees
    rwa [same] at sees
  · intro lent mem outside later after
    have way : lent.overlay = Surroundings.overlay := by
      rw [← same]
      exact sound.lent_overlay_eq _ lent mem
    refine ⟨Buffers.edited_reflects _, ?_, fun query => ?_⟩
    · rw [LentUnit.buffers, way]
      rfl
    · rw [LentUnit.ask, way]
      rfl

/-- A buffer that was updated again in another spelling is found under the first one. -/
theorem analyzer_sees_current_buffers_of_two_spellings :
    let plan : Blueprint (Surroundings Simulation.Script) := .ofClauses [.overlay (·.overlay)]
    let setup := plan.setup (Simulation.scripted Surroundings.outside)
    let ask force := Scripted.occasion ⟨0, by decide, by decide⟩ .empty (.serve (.ofText "x.c") force)
    let early := [Edit.update (.ofText "b") "old"]
    let before := [.edit (.update (.ofText "a//c") "1"), .request (ask false),
      .edit (.remove (.ofText "./b")), .edit (.remove (.ofText "b/")),
      .edit (.update (.ofText "a/c") "2")]
    let seen : List Buffer := [⟨.ofText "a//c", "2"⟩]
    let run events := setup.history Scripted.start (Happening.occasions (.edited early) events)
    setup.overlay = Surroundings.overlay ∧ Opened setup Scripted.built Scripted.start ∧
      callLog (run (before ++ [.request (ask true)])) =
        [.parse ⟨0, ⟨0⟩⟩ (.ofText "x.c") [] [⟨.ofText "a//c", "1"⟩, ⟨.ofText "b", "old"⟩]
            (.value ⟨0, ⟨0, 0⟩⟩),
          .reparse ⟨0, ⟨0, 0⟩⟩ seen ⟨0, 1⟩ (.value ())] ∧
      ∃ step rest, run (before ++ [.request (ask true)]) = run before ++ step :: rest ∧
        ∀ call ∈ step.calls, call.Sees seen := by
  intro plan setup ask early before seen run
  have opened : Opened setup Scripted.built Scripted.start :=
    ⟨plan, ⟨.empty, .empty⟩, _, .start .start, _, rfl, rfl, rfl, rfl, rfl⟩
  have left : (Buffers.edited (early ++ Happening.edits before)).toList = seen := by
    decide +kernel +zetaReduce
  obtain ⟨step, rest, split, -, -, sees, -⟩ :=
    analyzer_sees_current_buffers rfl opened early before [] (ask true)
  rw [left] at sees
  refine ⟨rfl, opened, ?_, step, rest, split, sees⟩
  decide +kernel +zetaReduce

end SourceIndex
