import SourceIndex.Cache.Blueprint
import SourceIndex.Simulation.Script

/-!
# Runs of a cache

A cache is opened by building it. From then on it gets requests, one after the other, and each
finds the world as it is at its moment. The history of a run keeps every request with what came
of it.
-/

namespace SourceIndex

/-! ## Requests -/

/-- What a cache can be asked to do. Where its table is gone through, the order may be any. -/
inductive Request (υ : Type) where
  | serve (path : Path) (force : Bool)
  | prime (path : Path)
  | reprime (path : Path)
  | remove (path : Path)
  | removeAll (walk : Walk (Path × Entry υ))
  | destroy (walk : Walk (Path × Entry υ))
  | drop (walk : Walk (Path × Entry υ))
  | lendAll (walk : Walk (Entry υ))
  | globalOptions
  | setGlobalOptions (options : GlobalOptions)

inductive Response (ω υ : Type) where
  | done
  | unit (lent : Option (LentUnit ω υ))
  | units (lent : List (LentUnit ω υ))
  | options (options : GlobalOptions)

structure Occasion (ω υ : Type) where
  moment : Moment ω
  request : Request υ

variable {ω σ κ υ : Type}

/-- Drops the cache. Nothing is left of it but its analyzer. -/
def Setup.letGo (setup : Setup ω σ κ υ) (world : ω) (walk : Walk (Path × Entry υ)) :
    CacheAct σ κ υ Unit :=
  ⟨fun s =>
    let cache : Cache ω σ κ υ := ⟨setup, s.context, s.table⟩
    let ran := (cache.drop world walk).run s.analyzer
    ⟨ran.result, ran.effects, ⟨ran.state, none, .empty⟩⟩⟩

namespace Request

def done (_ : Unit) : Response ω υ := .done

def act (setup : Setup ω σ κ υ) (moment : Moment ω) :
    Request υ → CacheAct σ κ υ (Response ω υ)
  | serve path force => .unit <$> setup.serve moment path force
  | prime path => done <$> setup.prime moment path
  | reprime path => done <$> setup.reprime moment path
  | remove path => done <$> setup.remove moment.world path
  | removeAll walk => done <$> setup.removeAll moment.world walk
  | destroy walk => done <$> setup.destroy moment.world walk
  | drop walk => done <$> setup.letGo moment.world walk
  | lendAll walk => .units <$> setup.lendAll walk
  | globalOptions => .options <$> setup.globalOptions moment.world
  | setGlobalOptions options => done <$> setup.setGlobalOptions moment.world options

/-- The file that a request wants to be up to date. -/
def servedPath? : Request υ → Option Path
  | serve path _ | prime path | reprime path => some path
  | _ => none

/-- The only file that a request is about. -/
def file? : Request υ → Option Path
  | serve path _ | prime path | reprime path | remove path => some path
  | _ => none

/-- The file that a request makes the cache serve while its table is this one, and whether a reparse
is forced. -/
def asks? (table : PathTable (Entry υ)) : Request υ → Option (Path × Bool)
  | serve path force => some (path, force)
  | prime path => if table.contains path then none else some (path, false)
  | reprime path => if table.contains path then some (path, false) else none
  | _ => none

theorem servedPath?_of_asks? {table : PathTable (Entry υ)} {request : Request υ} {path : Path}
    {force : Bool} (asks : request.asks? table = some (path, force)) :
    request.servedPath? = some path := by
  cases request with
  | serve | prime | reprime =>
    simp only [asks?, Option.ite_none_left_eq_some, Option.ite_none_right_eq_some,
      Option.some.injEq, Prod.mk.injEq] at asks
    simp [servedPath?, asks]
  | _ => simp [asks?] at asks

theorem file?_of_asks? {table : PathTable (Entry υ)} {request : Request υ} {path : Path}
    {force : Bool} (asks : request.asks? table = some (path, force)) :
    request.file? = some path := by
  have served := servedPath?_of_asks? asks
  cases request with
  | serve | prime | reprime => exact served
  | _ => cases served

/-- Whether the cache is of no use afterwards. -/
def isLast : Request υ → Bool
  | destroy _ | drop _ => true
  | _ => false

end Request

/-! ## Histories -/

/-- A request with what came of it. -/
structure Step (ω σ κ υ : Type) where
  occasion : Occasion ω υ
  ran : Ran (CacheState σ κ υ) (Effect κ υ) (Response ω υ)

namespace Setup

variable (setup : Setup ω σ κ υ)

def step (s : CacheState σ κ υ) (occasion : Occasion ω υ) :
    Ran (CacheState σ κ υ) (Effect κ υ) (Response ω υ) :=
  (occasion.request.act setup occasion.moment).run s

/-- The state that a run leaves. A panic ends its request, but not the run. -/
def after (s : CacheState σ κ υ) : List (Occasion ω υ) → CacheState σ κ υ
  | [] => s
  | occasion :: rest => after (setup.step s occasion).state rest

def history (s : CacheState σ κ υ) : List (Occasion ω υ) → List (Step ω σ κ υ)
  | [] => []
  | occasion :: rest =>
    ⟨occasion, setup.step s occasion⟩ :: history (setup.step s occasion).state rest

/-- Each occasion of a run with the state that it finds. -/
def visits (s : CacheState σ κ υ) :
    List (Occasion ω υ) → List (CacheState σ κ υ × Occasion ω υ)
  | [] => []
  | occasion :: rest => (s, occasion) :: visits (setup.step s occasion).state rest

theorem after_append (s : CacheState σ κ υ) (first last : List (Occasion ω υ)) :
    setup.after s (first ++ last) = setup.after (setup.after s first) last := by
  induction first generalizing s with
  | nil => rfl
  | cons occasion rest ih => exact ih _

theorem history_append (s : CacheState σ κ υ) (first last : List (Occasion ω υ)) :
    setup.history s (first ++ last) =
      setup.history s first ++ setup.history (setup.after s first) last := by
  induction first generalizing s with
  | nil => rfl
  | cons occasion rest ih => exact congrArg (List.cons _) (ih _)

theorem history_eq_visits (s : CacheState σ κ υ) (occasions : List (Occasion ω υ)) :
    setup.history s occasions =
      (setup.visits s occasions).map fun visit => ⟨visit.2, setup.step visit.1 visit.2⟩ := by
  induction occasions generalizing s with
  | nil => rfl
  | cons occasion rest ih => exact congrArg (List.cons _) (ih _)

theorem mem_visits {s : CacheState σ κ υ} {occasions : List (Occasion ω υ)}
    {visit : CacheState σ κ υ × Occasion ω υ} (mem : visit ∈ setup.visits s occasions) :
    ∃ before, visit.1 = setup.after s before := by
  induction occasions generalizing s with
  | nil => cases mem
  | cons occasion rest ih =>
    rcases List.mem_cons.1 mem with rfl | mem
    · exact ⟨[], rfl⟩
    · obtain ⟨before, found⟩ := ih mem
      exact ⟨occasion :: before, found⟩

end Setup

/-! ## Logs -/

def Effect.call? : Effect κ υ → Option (Call κ υ)
  | .call c => some c
  | .event _ | .diagnostic _ _ => none

/-- The calls to the analyzer, in order. -/
def callsOf (effects : List (Effect κ υ)) : List (Call κ υ) := effects.filterMap Effect.call?

@[simp] theorem callsOf_nil : callsOf ([] : List (Effect κ υ)) = [] := rfl

@[simp] theorem callsOf_call (call : Call κ υ) (rest : List (Effect κ υ)) :
    callsOf (.call call :: rest) = call :: callsOf rest := rfl

@[simp] theorem callsOf_event (event : Event) (rest : List (Effect κ υ)) :
    callsOf (.event event :: rest) = callsOf rest := rfl

@[simp] theorem callsOf_diagnostic (inbox : InboxId) (diagnostic : Diagnostic)
    (rest : List (Effect κ υ)) : callsOf (.diagnostic inbox diagnostic :: rest) = callsOf rest :=
  rfl

@[simp] theorem callsOf_append (first last : List (Effect κ υ)) :
    callsOf (first ++ last) = callsOf first ++ callsOf last := List.filterMap_append

def Step.calls (step : Step ω σ κ υ) : List (Call κ υ) := callsOf step.ran.effects

def callLog (steps : List (Step ω σ κ υ)) : List (Call κ υ) := steps.flatMap Step.calls

/-! ## Reachable states -/

/-- A cache with this setup was built with these calls, and this is its state. -/
def Opened (setup : Setup ω σ κ υ) (built : List (Call κ υ)) (s : CacheState σ κ υ) : Prop :=
  ∃ (plan : Blueprint ω) (world : ω) (cache : Cache ω σ κ υ) (start : AnalyzerState σ)
    (effects : List (Effect κ υ)),
    (plan.build setup.analyzer world).run start = ⟨.ok (.ok cache), effects, s.analyzer⟩ ∧
      cache.setup = setup ∧ s.context = cache.context ∧ s.table = cache.table ∧
      callsOf effects = built

/-- Some run of a cache with this setup leaves this state. -/
def Reachable (setup : Setup ω σ κ υ) (s : CacheState σ κ υ) : Prop :=
  ∃ built start occasions, Opened setup built start ∧ s = setup.after start occasions

/-- What holds when a cache is opened and is kept by every request holds in every reachable
state. -/
theorem Reachable.invariant {setup : Setup ω σ κ υ} {Holds : CacheState σ κ υ → Prop}
    (opened : ∀ built s, Opened setup built s → Holds s)
    (kept : ∀ s occasion, Holds s → Holds (setup.step s occasion).state)
    {s : CacheState σ κ υ} (reachable : Reachable setup s) : Holds s := by
  obtain ⟨built, start, occasions, opening, rfl⟩ := reachable
  have holds : Holds start := opened built start opening
  clear opening
  induction occasions generalizing start with
  | nil => exact holds
  | cons occasion rest ih => exact ih _ (kept start occasion holds)

/-! ## A scripted cache -/

namespace Scripted

open Simulation

/-- A cache that nothing was said about. Its analyzer follows a script. -/
def setup : Setup Script ScriptedState ScriptedContext ScriptedUnit :=
  Blueprint.blank.setup (scripted id)

def start : CacheState ScriptedState ScriptedContext ScriptedUnit :=
  ⟨⟨⟨1, 0, []⟩, 0, 1⟩, some (.hold ⟨0, ⟨0⟩⟩), .empty⟩

def built : List (Call ScriptedContext ScriptedUnit) :=
  [.createContext ⟨false, false⟩ (.value ⟨0, ⟨0⟩⟩)]

theorem opened : Opened setup built start :=
  ⟨.blank, .empty, _, .start .start, _, rfl, rfl, rfl, rfl, rfl⟩

/-- A request when every file was written at this time. -/
def occasion (time : FileTime) (script : Script) (request : Request ScriptedUnit) :
    Occasion Script ScriptedUnit :=
  ⟨⟨fun _ => .ok time, script⟩, request⟩

end Scripted

end SourceIndex
