import SourceIndex.Proofs.Cache.Ownership

/-!
# Teardown

A cache can be emptied, destroyed or dropped whatever the analyzer makes of it: every unit is
disposed once, and then the context if the cache ends. In which order the table is gone through
makes no difference but to the order of what is done.
-/

namespace SourceIndex

variable {ω σ κ υ : Type}

/-! ## Ways to let go -/

inductive Teardown where
  | removeAll
  | destroy
  | drop
  deriving DecidableEq, Repr

namespace Teardown

def request (walk : Walk (Path × Entry υ)) : Teardown → Request υ
  | removeAll => .removeAll walk
  | destroy => .destroy walk
  | drop => .drop walk

/-- Whether the context goes too. -/
def closes : Teardown → Bool
  | removeAll => false
  | destroy | drop => true

end Teardown

/-- The calls that end a teardown. A context can be disposed once only. -/
inductive ClosingCalls (s : CacheState σ κ υ) : Bool → List (Call κ υ) → Prop
  | stays : ClosingCalls s false []
  | gone (gone : s.context = none) : ClosingCalls s true []
  | alive {context : Handle κ} (alive : s.context = some (.hold context)) (answer : Answer Unit) :
      ClosingCalls s true [.disposeContext context .explicit answer]

/-- The teardown came to its end, and everything was disposed once. -/
structure TornDown (s : CacheState σ κ υ) (closes : Bool) (walk : Walk (Path × Entry υ))
    (ran : Ran (CacheState σ κ υ) (Effect κ υ) (Response ω υ)) : Prop where
  result : ran.result = .ok .done
  calls : ∃ units closing, callsOf ran.effects = units ++ closing ∧
    List.Forall₂ Disposes (walk.arrange s.table.entries) units ∧ ClosingCalls s closes closing
  disposed : (disposedUnits (callsOf ran.effects)).Perm ((holdings s.table).map (·.1))
  once : (disposedUnits (callsOf ran.effects)).Nodup
  table : ran.state.table = .empty
  context : ran.state.context = if closes then none else s.context

/-- The disposals are answered as assigned to the units and to the context. -/
def Call.GoesAs (units : Nat → Answer Unit) (context : Answer Unit) : Call κ υ → Prop
  | disposeUnit unit _ answer => answer = units unit.serial
  | disposeContext _ _ answer => answer = context
  | _ => True

instance (units : Nat → Answer Unit) (context : Answer Unit) :
    DecidablePred (Call.GoesAs units context : Call κ υ → Prop)
  | .disposeUnit unit _ answer => inferInstanceAs (Decidable (answer = units unit.serial))
  | .disposeContext _ _ answer => inferInstanceAs (Decidable (answer = context))
  | .createContext .. | .parse .. | .reparse .. | .globalOptions .. | .setGlobalOptions .. =>
    inferInstanceAs (Decidable True)

/-- The states differ at most in what the analyzer remembers. -/
def SameButInner (s s' : CacheState σ κ υ) : Prop :=
  s' = { s with analyzer := { s.analyzer with inner := s'.analyzer.inner } }

/-! ## What is done -/

namespace Setup

variable {setup : Setup ω σ κ υ} {s : CacheState σ κ υ}

/-- All that can end a teardown. -/
inductive Ending (setup : Setup ω σ κ υ) (s : CacheState σ κ υ) : Bool → List (Effect κ υ) → Prop
  | stays : Ending setup s false []
  | closes {last} (closing : setup.Closing s last) : Ending setup s true last

theorem Ending.calls {closes : Bool} {last : List (Effect κ υ)}
    (ending : setup.Ending s closes last) : ClosingCalls s closes (callsOf last) := by
  cases ending with
  | stays => exact .stays
  | closes closing =>
    cases closing with
    | gone gone => exact .gone gone
    | alive alive answer => simpa using ClosingCalls.alive alive answer

theorem run_teardown (setup : Setup ω σ κ υ) (sound : Sound s) (moment : Moment ω)
    (teardown : Teardown) (walk : Walk (Path × Entry υ)) :
    ∃ pieces last inner, setup.step s ⟨moment, teardown.request walk⟩ =
        ⟨.ok .done, pieces.flatten ++ last, ⟨{ s.analyzer with inner },
          if teardown.closes then none else s.context, .empty⟩⟩ ∧
      List.Forall₂ setup.Disposal (walk.arrange s.table.entries) pieces ∧
      setup.Ending s teardown.closes last := by
  unfold step
  cases teardown with
  | removeAll =>
    obtain ⟨pieces, inner, ran, disposals, -⟩ := setup.run_removeAll moment.world walk sound
    refine ⟨pieces, [], inner, ?_, disposals, .stays⟩
    simp only [Teardown.request, Request.act, Act.run_map, ran, List.append_nil]
    rfl
  | destroy =>
    obtain ⟨pieces, last, inner, ran, disposals, closing⟩ :=
      setup.run_destroy moment.world walk sound
    refine ⟨pieces, last, inner, ?_, disposals, .closes closing⟩
    simp only [Teardown.request, Request.act, Act.run_map, ran]
    rfl
  | drop =>
    obtain ⟨pieces, last, inner, ran, disposals, closing⟩ :=
      setup.run_destroy moment.world walk sound
    refine ⟨pieces, last, inner, ?_, disposals, .closes closing⟩
    simp only [Teardown.request, Request.act, Act.run_map,
      setup.run_letGo moment.world walk sound, ran]
    rfl

end Setup

/-! ## Each unit once -/

theorem disposedUnits_of_disposes {list : List (Path × Entry υ)} {calls : List (Call κ υ)}
    (disposes : List.Forall₂ Disposes list calls) :
    disposedUnits calls = ((list.map (·.2)).filterMap Entry.holding?).map (·.1) := by
  induction disposes with
  | nil => rfl
  | cons first _ ih =>
    obtain ⟨unit, answer, held, rfl⟩ := first
    rw [List.map_cons, List.filterMap_cons_some (Entry.holding?_of_held held), List.map_cons, ← ih]
    rfl

theorem ClosingCalls.disposedUnits_eq {s : CacheState σ κ υ} {closes : Bool}
    {closing : List (Call κ υ)} (closed : ClosingCalls s closes closing) :
    disposedUnits closing = [] := by
  cases closed <;> rfl

theorem tornDown {setup : Setup ω σ κ υ} {s : CacheState σ κ υ} {log : List (Call κ υ)}
    (books : Books log s) (sound : Sound s) (moment : Moment ω) (teardown : Teardown)
    (walk : Walk (Path × Entry υ)) :
    TornDown s teardown.closes walk (setup.step s ⟨moment, teardown.request walk⟩) := by
  obtain ⟨pieces, last, inner, ran, disposals, ending⟩ :=
    setup.run_teardown sound moment teardown walk
  have disposes := Setup.disposes_of_disposals disposals
  have calls : callsOf (setup.step s ⟨moment, teardown.request walk⟩).effects =
      callsOf pieces.flatten ++ callsOf last := by
    rw [ran, callsOf_append]
  have disposed : (disposedUnits (callsOf
      (setup.step s ⟨moment, teardown.request walk⟩).effects)).Perm
        ((holdings s.table).map (·.1)) := by
    rw [calls, disposedUnits, List.filterMap_append, ← disposedUnits, ← disposedUnits,
      ending.calls.disposedUnits_eq, List.append_nil, disposedUnits_of_disposes disposes]
    exact (((walk.perm _).map (·.2)).filterMap _).map _
  refine ⟨by rw [ran], ⟨_, _, calls, disposes, ending.calls⟩, disposed,
    disposed.nodup_iff.2 books.once, by rw [ran], by rw [ran]⟩

/-! ## In any order -/

namespace Setup

variable {setup : Setup ω σ κ υ} {s : CacheState σ κ υ} {units : Nat → Answer Unit}
  {context : Answer Unit}

/-- All that comes of disposing an entry if its unit is disposed as assigned. -/
def disposalAs (setup : Setup ω σ κ υ) (units : Nat → Answer Unit) (cached : Path × Entry υ) :
    List (Effect κ υ) :=
  cached.2.unit.held.toList.flatMap fun unit =>
    setup.announced cached.1 "removing index" ++
      .call (.disposeUnit unit .explicit (units unit.serial)) ::
        setup.disposalNoted ("translation unit " ++ cached.2.path.shown) (units unit.serial)

theorem disposals_eq {list : List (Path × Entry υ)} {pieces : List (List (Effect κ υ))}
    (disposals : List.Forall₂ setup.Disposal list pieces)
    (assigned : ∀ call ∈ callsOf pieces.flatten, call.GoesAs units context) :
    pieces.flatten = list.flatMap (setup.disposalAs units) := by
  induction disposals with
  | nil => rfl
  | @cons cached _ rest others disposal _ ih =>
    obtain ⟨unit, answer, held, rfl⟩ := disposal
    simp only [List.flatten_cons, callsOf_append, callsOf_announced, callsOf_call,
      callsOf_disposalNoted, List.nil_append, List.singleton_append,
      List.forall_mem_cons] at assigned
    obtain ⟨same, others_assigned⟩ := assigned
    obtain rfl : answer = units unit.serial := same
    rw [List.flatten_cons, List.flatMap_cons, ih others_assigned]
    simp [disposalAs, held]

theorem Closing.eq {last last' : List (Effect κ υ)} (closing : setup.Closing s last)
    (closing' : setup.Closing s last')
    (assigned : ∀ call ∈ callsOf last, call.GoesAs units context)
    (assigned' : ∀ call ∈ callsOf last', call.GoesAs units context) : last = last' := by
  cases closing with
  | gone gone =>
    cases closing' with
    | gone => rfl
    | alive alive => simp [gone] at alive
  | alive alive answer =>
    cases closing' with
    | gone gone => simp [gone] at alive
    | alive alive' answer' =>
      cases alive.symm.trans alive'
      obtain rfl : answer = context := assigned _ List.mem_cons_self
      obtain rfl : answer' = answer := assigned' _ List.mem_cons_self
      rfl

theorem Ending.eq {closes : Bool} {last last' : List (Effect κ υ)}
    (ending : setup.Ending s closes last) (ending' : setup.Ending s closes last')
    (assigned : ∀ call ∈ callsOf last, call.GoesAs units context)
    (assigned' : ∀ call ∈ callsOf last', call.GoesAs units context) : last = last' := by
  cases ending with
  | stays =>
    cases ending'
    rfl
  | closes closing =>
    cases ending' with
    | closes closing' => exact closing.eq closing' assigned assigned'

theorem teardown_perm (setup : Setup ω σ κ υ) (sound : Sound s) (moment : Moment ω)
    (teardown : Teardown) (walk walk' : Walk (Path × Entry υ))
    (assigned : ∀ call ∈ callsOf (setup.step s ⟨moment, teardown.request walk⟩).effects,
      call.GoesAs units context)
    (assigned' : ∀ call ∈ callsOf (setup.step s ⟨moment, teardown.request walk'⟩).effects,
      call.GoesAs units context) :
    (setup.step s ⟨moment, teardown.request walk⟩).effects.Perm
        (setup.step s ⟨moment, teardown.request walk'⟩).effects ∧
      SameButInner (setup.step s ⟨moment, teardown.request walk⟩).state
        (setup.step s ⟨moment, teardown.request walk'⟩).state := by
  obtain ⟨pieces, last, inner, ran, disposals, ending⟩ :=
    setup.run_teardown sound moment teardown walk
  obtain ⟨pieces', last', inner', ran', disposals', ending'⟩ :=
    setup.run_teardown sound moment teardown walk'
  simp only [ran, callsOf_append, List.forall_mem_append] at assigned
  simp only [ran', callsOf_append, List.forall_mem_append] at assigned'
  rw [ran, ran']
  refine ⟨?_, rfl⟩
  -- With the answers assigned, what comes of an entry is a function of the entry.
  rw [disposals_eq disposals assigned.1, disposals_eq disposals' assigned'.1,
    ending.eq ending' assigned.2 assigned'.2]
  have arranged := (walk.perm s.table.entries).trans (walk'.perm s.table.entries).symm
  exact (arranged.flatMap_right _).append_right last'

end Setup

/-! ## Teardown -/

/-- Whatever the analyzer answers, a teardown comes to its end, and in another order it does the
same to each unit and leaves the same. -/
theorem teardown_completes {setup : Setup ω σ κ υ} {s : CacheState σ κ υ}
    (reachable : Reachable setup s) (moment : Moment ω) (teardown : Teardown) :
    (∀ walk, TornDown s teardown.closes walk
      (setup.step s ⟨moment, teardown.request walk⟩)) ∧
    ∀ units context walk walk',
      (∀ call ∈ callsOf (setup.step s ⟨moment, teardown.request walk⟩).effects,
        call.GoesAs units context) →
      (∀ call ∈ callsOf (setup.step s ⟨moment, teardown.request walk'⟩).effects,
        call.GoesAs units context) →
      (setup.step s ⟨moment, teardown.request walk⟩).effects.Perm
          (setup.step s ⟨moment, teardown.request walk'⟩).effects ∧
        SameButInner (setup.step s ⟨moment, teardown.request walk⟩).state
          (setup.step s ⟨moment, teardown.request walk'⟩).state := by
  obtain ⟨log, books⟩ := reachable.books
  exact ⟨tornDown books reachable.sound moment teardown,
    fun _ _ => setup.teardown_perm reachable.sound moment teardown⟩

/-- A disposal panics and the context is refused, and both orders dispose everything. -/
theorem teardown_completes_backwards :
    let time : FileTime := ⟨0, by decide, by decide⟩
    let script := (Simulation.Script.empty.set .disposeUnit
      (some ⟨.panic (.text "lost"), some [.number 0]⟩)).set .disposeContext
        (some ⟨.refuse "busy", none⟩)
    let moment : Moment Simulation.Script := ⟨fun _ => .ok time, script⟩
    let s := Scripted.setup.after Scripted.start
      [Scripted.occasion time .empty (.serve (.ofText "a") false),
        Scripted.occasion time .empty (.serve (.ofText "b") false)]
    let backwards : Walk (Path × Entry Simulation.ScriptedUnit) :=
      ⟨List.reverse, List.reverse_perm⟩
    let ran := Scripted.setup.step s ⟨moment, Teardown.destroy.request .inOrder⟩
    let ran' := Scripted.setup.step s ⟨moment, Teardown.destroy.request backwards⟩
    (disposedUnits (callsOf ran.effects) = [0, 1] ∧
        disposedUnits (callsOf ran'.effects) = [1, 0]) ∧
      TornDown s true backwards ran' ∧ ran.effects.Perm ran'.effects ∧
        SameButInner ran.state ran'.state := by
  intro time script moment s backwards ran ran'
  let units (serial : Nat) : Answer Unit :=
    if serial = 0 then .panic (.text "lost") else .value ()
  have assigned : (∀ call ∈ callsOf ran.effects, call.GoesAs units (.fault "busy")) ∧
      ∀ call ∈ callsOf ran'.effects, call.GoesAs units (.fault "busy") := by
    decide +kernel +zetaReduce
  obtain ⟨torn_down, in_any_order⟩ :=
    teardown_completes ⟨_, _, _, Scripted.opened, rfl⟩ moment .destroy
  exact ⟨by decide +kernel +zetaReduce, torn_down backwards,
    in_any_order units (.fault "busy") .inOrder backwards assigned.1 assigned.2⟩

end SourceIndex
