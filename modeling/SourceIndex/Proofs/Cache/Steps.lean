import SourceIndex.Proofs.Cache.Outcomes
import Mathlib.Data.List.Forall2

/-!
# Steps of a run

Whatever a cache is asked, its step is one of a few: nothing happens, a file is served or removed,
the table is cleared, the cache is closed, or the context is asked about its options. A cache that
holds what it owns still does so afterwards.
-/

namespace SourceIndex

variable {ω σ κ υ α : Type}

/-! ## Clearing the table -/

/-- The call disposes the unit of the entry. -/
def Disposes (cached : Path × Entry υ) (call : Call κ υ) : Prop :=
  ∃ unit answer, cached.2.unit = .hold unit ∧ call = .disposeUnit unit .explicit answer

namespace Setup

variable {setup : Setup ω σ κ υ} {s : CacheState σ κ υ}

/-- All that comes of disposing the unit of an entry that is in the table no longer. -/
def Disposal (setup : Setup ω σ κ υ) (cached : Path × Entry υ) (effects : List (Effect κ υ)) :
    Prop :=
  ∃ unit answer, cached.2.unit = .hold unit ∧
    effects = setup.announced cached.1 "removing index" ++
      .call (.disposeUnit unit .explicit answer) ::
        setup.disposalNoted ("translation unit " ++ cached.2.path.shown) answer

theorem disposes_of_disposals {list : List (Path × Entry υ)} {pieces : List (List (Effect κ υ))}
    (disposals : List.Forall₂ setup.Disposal list pieces) :
    List.Forall₂ Disposes list (callsOf pieces.flatten) := by
  induction disposals with
  | nil => exact .nil
  | cons disposal _ ih =>
    obtain ⟨unit, answer, held, rfl⟩ := disposal
    simpa using ⟨⟨unit, answer, held, rfl⟩, ih⟩

/-- The analyzer disposes the units of the entries, one after the other. -/
inductive DisposesAll (setup : Setup ω σ κ υ) (world : ω) : List (Path × Entry υ) → σ → σ → Prop
  | nil {inner : σ} : DisposesAll setup world [] inner inner
  | cons {cached rest unit answer} {inner after last : σ} (held : cached.2.unit = .hold unit)
      (answered : setup.analyzer.disposeUnit world unit.value inner = (answer, after))
      (others : DisposesAll setup world rest after last) :
      DisposesAll setup world (cached :: rest) inner last

theorem run_disposeCached {world : ω} {cached : Path × Entry υ} {unit : Handle υ}
    {answer : Answer Unit} {inner : σ} (held : cached.2.unit = .hold unit)
    (answered : setup.analyzer.disposeUnit world unit.value s.analyzer.inner = (answer, inner)) :
    ∃ effects, (setup.disposeCached world cached).run s =
        ⟨.ok (), effects, { s with analyzer := { s.analyzer with inner } }⟩ ∧
      setup.Disposal cached effects := by
  rw [disposeCached, Act.run_bind_of_ok (setup.run_announce _ _ s)]
  simp only [run_disposeEntry held answered]
  exact ⟨_, rfl, unit, answer, held, rfl⟩

theorem run_each_disposeCached (setup : Setup ω σ κ υ) (world : ω)
    {list : List (Path × Entry υ)} (held : ∀ cached ∈ list, ∃ unit, cached.2.unit = .hold unit)
    (s : CacheState σ κ υ) :
    ∃ pieces inner, (Act.each (setup.disposeCached world) list).run s =
        ⟨.ok (), pieces.flatten, { s with analyzer := { s.analyzer with inner } }⟩ ∧
      List.Forall₂ setup.Disposal list pieces ∧
      setup.DisposesAll world list s.analyzer.inner inner := by
  induction list generalizing s with
  | nil => exact ⟨[], s.analyzer.inner, rfl, .nil, .nil⟩
  | cons cached rest ih =>
    obtain ⟨unit, held_first⟩ := held cached List.mem_cons_self
    obtain ⟨answer, inner, answered⟩ : ∃ answer inner, setup.analyzer.disposeUnit world unit.value
        s.analyzer.inner = (answer, inner) := ⟨_, _, rfl⟩
    obtain ⟨first, ran, disposal⟩ := run_disposeCached held_first answered
    obtain ⟨others, inner', ran', disposals, disposed⟩ :=
      ih (fun other mem => held other (.tail _ mem))
        { s with analyzer := { s.analyzer with inner } }
    refine ⟨first :: others, inner', ?_, .cons disposal disposals,
      .cons held_first answered disposed⟩
    rw [Act.each, Act.run_bind_of_ok ran, ran', List.flatten_cons]

theorem run_removeAll (setup : Setup ω σ κ υ) (world : ω) (walk : Walk (Path × Entry υ))
    (sound : Sound s) :
    ∃ pieces inner, (setup.removeAll world walk).run s =
        ⟨.ok (), pieces.flatten, ⟨{ s.analyzer with inner }, s.context, .empty⟩⟩ ∧
      List.Forall₂ setup.Disposal (walk.arrange s.table.entries) pieces ∧
      setup.DisposesAll world (walk.arrange s.table.entries) s.analyzer.inner inner := by
  have held : ∀ cached ∈ walk.arrange s.table.entries, ∃ unit, cached.2.unit = .hold unit :=
    fun cached mem => sound.unit_held cached ((walk.perm _).mem_iff.1 mem)
  obtain ⟨pieces, inner, ran, disposals, disposed⟩ :=
    run_each_disposeCached setup world held { s with table := .empty }
  refine ⟨pieces, inner, ?_, disposals, disposed⟩
  simp only [removeAll, CacheAct.setTable, Act.run_bind, Act.run_state, Act.run_modify,
    Act.andThen_ok, ran, List.nil_append]

/-! ## Closing the cache -/

section

variable {world : ω} {walk : Walk (Path × Entry υ)} {effects : List (Effect κ υ)}
  {analyzer : AnalyzerState σ}
  (ran : (setup.removeAll world walk).run s = ⟨.ok (), effects, ⟨analyzer, s.context, .empty⟩⟩)
include ran

theorem run_destroy_of_gone (gone : s.context = none) :
    (setup.destroy world walk).run s = ⟨.ok (), effects, ⟨analyzer, none, .empty⟩⟩ := by
  rw [destroy, Act.run_bind_of_ok ran, Act.run_bind_of_ok (Act.run_state _), gone]
  simp

theorem run_destroy_of_alive {context : Handle κ} {answer : Answer Unit} {inner : σ}
    (alive : s.context = some (.hold context))
    (answered : setup.analyzer.disposeContext world context.value analyzer.inner =
      (answer, inner)) :
    (setup.destroy world walk).run s =
      ⟨.ok (), effects ++ .call (.disposeContext context .explicit answer) ::
          setup.disposalNoted "index context" answer,
        ⟨{ analyzer with inner }, none, .empty⟩⟩ := by
  rw [destroy, Act.run_bind_of_ok ran, Act.run_bind_of_ok (Act.run_state _), alive]
  simp [Act.run_bind, Act.andThen_ok, Owned.disposeContext, Owned.hold, CacheAct.call,
    Analyzer.callDisposeContext, answered]

end

/-- All that comes of disposing the context, if it is still there. -/
inductive Closing (setup : Setup ω σ κ υ) (s : CacheState σ κ υ) : List (Effect κ υ) → Prop
  | gone (gone : s.context = none) : Closing setup s []
  | alive {context : Handle κ} (alive : s.context = some (.hold context)) (answer : Answer Unit) :
      Closing setup s (.call (.disposeContext context .explicit answer) ::
        setup.disposalNoted "index context" answer)

theorem run_destroy (setup : Setup ω σ κ υ) (world : ω) (walk : Walk (Path × Entry υ))
    (sound : Sound s) :
    ∃ pieces last inner, (setup.destroy world walk).run s =
        ⟨.ok (), pieces.flatten ++ last, ⟨{ s.analyzer with inner }, none, .empty⟩⟩ ∧
      List.Forall₂ setup.Disposal (walk.arrange s.table.entries) pieces ∧
      setup.Closing s last := by
  obtain ⟨pieces, inner, ran, disposals, -⟩ := run_removeAll setup world walk sound
  cases alive : s.context with
  | none =>
    refine ⟨pieces, [], inner, ?_, disposals, .gone alive⟩
    rw [run_destroy_of_gone ran alive, List.append_nil]
  | some owned =>
    obtain ⟨context, rfl⟩ := sound.context_held owned alive
    exact ⟨pieces, _, _, run_destroy_of_alive ran alive rfl, disposals, .alive alive _⟩

theorem run_letGo (setup : Setup ω σ κ υ) (world : ω) (walk : Walk (Path × Entry υ))
    (sound : Sound s) :
    (setup.letGo world walk).run s = (setup.destroy world walk).run s := by
  obtain ⟨pieces, last, inner, ran, -⟩ := run_destroy setup world walk sound
  rw [ran]
  simp [letGo, Cache.drop, Cache.run, Act.run_bind, ran, Act.andThen_ok, Act.resume]

/-! ## Lending all -/

/-- The unit of the entry is lent. -/
def Lends (setup : Setup ω σ κ υ) (entry : Entry υ) (lent : LentUnit ω υ) : Prop :=
  entry.unit = .hold lent.unit ∧ lent.path = entry.path ∧ lent.overlay = setup.overlay

theorem run_mapM_lendEntry (setup : Setup ω σ κ υ) {list : List (Entry υ)}
    (held : ∀ entry ∈ list, ∃ unit, entry.unit = .hold unit) (s : CacheState σ κ υ) :
    ∃ lent, (list.mapM setup.lendEntry).run s = ⟨.ok lent, [], s⟩ ∧
      List.Forall₂ (Lends setup) list lent := by
  induction list with
  | nil => exact ⟨[], rfl, .nil⟩
  | cons entry rest ih =>
    obtain ⟨unit, held_first⟩ := held entry List.mem_cons_self
    obtain ⟨lent, ran, all⟩ := ih fun other mem => held other (.tail _ mem)
    refine ⟨⟨entry.path, unit, setup.overlay⟩ :: lent, ?_, .cons ⟨held_first, rfl, rfl⟩ all⟩
    simp only [List.mapM_cons, Act.run_bind, run_lendEntry held_first, Act.andThen_ok, ran,
      Act.run_pure, List.nil_append]

theorem run_lendAll (setup : Setup ω σ κ υ) (walk : Walk (Entry υ)) (sound : Sound s) :
    ∃ lent, (setup.lendAll walk).run s = ⟨.ok lent, [], s⟩ ∧
      List.Forall₂ (Lends setup) (walk.arrange s.table.values) lent := by
  have held : ∀ entry ∈ walk.arrange s.table.values, ∃ unit, entry.unit = .hold unit := by
    intro entry mem
    obtain ⟨cached, known, rfl⟩ := List.mem_map.1 ((walk.perm _).mem_iff.1 mem)
    exact sound.unit_held cached known
  obtain ⟨lent, ran, all⟩ := run_mapM_lendEntry setup held s
  refine ⟨lent, ?_, all⟩
  rw [lendAll, Act.run_bind_of_ok (Act.run_state s), ran]
  rfl

/-! ## Priming -/

theorem run_prime_of_cached (setup : Setup ω σ κ υ) (moment : Moment ω) {path : Path}
    (cached : s.table.contains path = true) :
    (setup.prime moment path).run s = ⟨.ok (), [], s⟩ := by
  rw [prime, Act.run_bind_of_ok (Act.run_state s)]
  simp [cached]

theorem run_prime_of_unknown (setup : Setup ω σ κ υ) (moment : Moment ω) {path : Path}
    (unknown : s.table.contains path = false) :
    (setup.prime moment path).run s =
      ⟨((setup.serve moment path false).run s).result.map fun _ => (),
        ((setup.serve moment path false).run s).effects,
        ((setup.serve moment path false).run s).state⟩ := by
  rw [prime, Act.run_bind_of_ok (Act.run_state s)]
  simp [unknown, Act.run_discard]

theorem run_reprime_of_cached (setup : Setup ω σ κ υ) (moment : Moment ω) {path : Path}
    (cached : s.table.contains path = true) :
    (setup.reprime moment path).run s =
      ⟨((setup.serve moment path false).run s).result.map fun _ => (),
        ((setup.serve moment path false).run s).effects,
        ((setup.serve moment path false).run s).state⟩ := by
  rw [reprime, Act.run_bind_of_ok (Act.run_state s)]
  simp [cached, Act.run_discard]

theorem run_reprime_of_unknown (setup : Setup ω σ κ υ) (moment : Moment ω) {path : Path}
    (unknown : s.table.contains path = false) :
    (setup.reprime moment path).run s = ⟨.ok (), [], s⟩ := by
  rw [reprime, Act.run_bind_of_ok (Act.run_state s)]
  simp [unknown]

end Setup

/-! ## Steps -/

theorem Setup.step_of_asks (setup : Setup ω σ κ υ) {s : CacheState σ κ υ} (moment : Moment ω)
    {request : Request υ} {path : Path} {force : Bool}
    (asks : request.asks? s.table = some (path, force)) :
    (setup.step s ⟨moment, request⟩).effects =
        ((setup.serve moment path force).run s).effects ∧
      (setup.step s ⟨moment, request⟩).state =
        ((setup.serve moment path force).run s).state := by
  unfold Setup.step
  cases request with
  | serve other forced =>
    obtain ⟨rfl, rfl⟩ : other = path ∧ forced = force := by simpa [Request.asks?] using asks
    simp only [Request.act, Act.run_map, and_self]
  | prime other =>
    obtain ⟨unknown, rfl, rfl⟩ : s.table.contains other = false ∧ other = path ∧ false = force := by
      simpa [Request.asks?] using asks
    simp only [Request.act, Act.run_map, setup.run_prime_of_unknown moment unknown, and_self]
  | reprime other =>
    obtain ⟨cached, rfl, rfl⟩ : s.table.contains other = true ∧ other = path ∧ false = force := by
      simpa [Request.asks?] using asks
    simp only [Request.act, Act.run_map, setup.run_reprime_of_cached moment cached, and_self]
  | _ => cases asks

theorem Setup.step_of_idle (setup : Setup ω σ κ υ) {s : CacheState σ κ υ} {moment : Moment ω}
    {request : Request υ} {path : Path} (primes : request = .prime path ∨ request = .reprime path)
    (idle : request.asks? s.table = none) :
    setup.step s ⟨moment, request⟩ = ⟨.ok .done, [], s⟩ := by
  unfold step
  rcases primes with rfl | rfl
  · have cached : s.table.contains path = true := by simpa [Request.asks?] using idle
    simp only [Request.act, Act.run_map, setup.run_prime_of_cached moment cached]
    rfl
  · have unknown : s.table.contains path = false := by simpa [Request.asks?] using idle
    simp only [Request.act, Act.run_map, setup.run_reprime_of_unknown moment unknown]
    rfl

/-- What a request comes down to, as far as effects and the next state go. -/
inductive Setup.Performs (setup : Setup ω σ κ υ) (occasion : Occasion ω υ) (s : CacheState σ κ υ) :
    List (Effect κ υ) → CacheState σ κ υ → Prop
  | nothing : Performs setup occasion s [] s
  | serve {path force} (asks : occasion.request.asks? s.table = some (path, force)) :
      Performs setup occasion s ((setup.serve occasion.moment path force).run s).effects
        ((setup.serve occasion.moment path force).run s).state
  | remove (path : Path) :
      Performs setup occasion s ((setup.remove occasion.moment.world path).run s).effects
        ((setup.remove occasion.moment.world path).run s).state
  | removeAll (walk : Walk (Path × Entry υ)) :
      Performs setup occasion s ((setup.removeAll occasion.moment.world walk).run s).effects
        ((setup.removeAll occasion.moment.world walk).run s).state
  | destroy (walk : Walk (Path × Entry υ)) :
      Performs setup occasion s ((setup.destroy occasion.moment.world walk).run s).effects
        ((setup.destroy occasion.moment.world walk).run s).state
  | globalOptions {context options inner} (alive : s.context = some (.hold context))
      (answered : setup.analyzer.globalOptions occasion.moment.world context.value
        s.analyzer.inner = (options, inner)) :
      Performs setup occasion s [.call (.globalOptions context options)]
        { s with analyzer := { s.analyzer with inner } }
  | setGlobalOptions {context} (alive : s.context = some (.hold context))
      (options : GlobalOptions) :
      Performs setup occasion s [.call (.setGlobalOptions context options)]
        { s with analyzer := { s.analyzer with
          inner := setup.analyzer.setGlobalOptions occasion.moment.world context.value options
            s.analyzer.inner } }

theorem Setup.performs_step (setup : Setup ω σ κ υ) {s : CacheState σ κ υ} (sound : Sound s)
    (occasion : Occasion ω υ) :
    setup.Performs occasion s (setup.step s occasion).effects (setup.step s occasion).state := by
  obtain ⟨moment, request⟩ := occasion
  -- The cases are those of serving, of priming for nothing, and of everything else.
  cases asks : request.asks? s.table with
  | some asked =>
    obtain ⟨effects_eq, state_eq⟩ := setup.step_of_asks moment asks
    rw [effects_eq, state_eq]
    exact .serve asks
  | none =>
    cases request with
    | serve => cases asks
    | prime path =>
      rw [setup.step_of_idle (.inl rfl) asks]
      exact .nothing
    | reprime path =>
      rw [setup.step_of_idle (.inr rfl) asks]
      exact .nothing
    | remove path =>
      simp only [step, Request.act, Act.run_map]
      exact .remove path
    | removeAll walk =>
      simp only [step, Request.act, Act.run_map]
      exact .removeAll walk
    | destroy walk =>
      simp only [step, Request.act, Act.run_map]
      exact .destroy walk
    | drop walk =>
      simp only [step, Request.act, Act.run_map, setup.run_letGo moment.world walk sound]
      exact .destroy walk
    | lendAll walk =>
      obtain ⟨lent, ran, -⟩ := setup.run_lendAll walk sound
      simp only [step, Request.act, Act.run_map, ran]
      exact .nothing
    | globalOptions =>
      simp only [step, Request.act, Act.run_map, Setup.globalOptions, Act.run_bind,
        Act.run_state, Act.andThen_ok]
      cases alive : s.context with
      | none => exact .nothing
      | some owned =>
        obtain ⟨context, rfl⟩ := sound.context_held owned alive
        exact .globalOptions alive rfl
    | setGlobalOptions options =>
      simp only [step, Request.act, Act.run_map, Setup.setGlobalOptions, Act.run_bind,
        Act.run_state, Act.andThen_ok]
      cases alive : s.context with
      | none => exact .nothing
      | some owned =>
        obtain ⟨context, rfl⟩ := sound.context_held owned alive
        exact .setGlobalOptions alive options

/-- All that can come of a request, as far as effects and the next state go. -/
inductive Does (setup : Setup ω σ κ υ) (occasion : Occasion ω υ) (s : CacheState σ κ υ) :
    List (Effect κ υ) → CacheState σ κ υ → Prop
  | nothing : Does setup occasion s [] s
  | served {path force ran} (asks : occasion.request.asks? s.table = some (path, force))
      (serves : setup.Serves occasion.moment path force s ran) :
      Does setup occasion s ran.effects ran.state
  | removed {path ran} (removes : setup.Removes occasion.moment.world path s ran) :
      Does setup occasion s ran.effects ran.state
  | cleared {walk pieces inner}
      (disposals : List.Forall₂ setup.Disposal (Walk.arrange walk s.table.entries) pieces) :
      Does setup occasion s pieces.flatten ⟨{ s.analyzer with inner }, s.context, .empty⟩
  | closed {walk pieces inner context answer} (alive : s.context = some (.hold context))
      (disposals : List.Forall₂ setup.Disposal (Walk.arrange walk s.table.entries) pieces) :
      Does setup occasion s
        (pieces.flatten ++ .call (.disposeContext context .explicit answer) ::
          setup.disposalNoted "index context" answer)
        ⟨{ s.analyzer with inner }, none, .empty⟩
  | read {inner context options} (alive : s.context = some (.hold context)) :
      Does setup occasion s [.call (.globalOptions context options)]
        { s with analyzer := { s.analyzer with inner } }
  | set {inner context options} (alive : s.context = some (.hold context)) :
      Does setup occasion s [.call (.setGlobalOptions context options)]
        { s with analyzer := { s.analyzer with inner } }

namespace Does

variable {setup : Setup ω σ κ υ} {s : CacheState σ κ υ}

theorem of_destroy (sound : Sound s) (occasion : Occasion ω υ) (walk : Walk (Path × Entry υ)) :
    Does setup occasion s ((setup.destroy occasion.moment.world walk).run s).effects
      ((setup.destroy occasion.moment.world walk).run s).state := by
  obtain ⟨pieces, last, inner, ran, disposals, closing⟩ :=
    setup.run_destroy occasion.moment.world walk sound
  rw [ran]
  cases closing with
  | gone gone =>
    rw [List.append_nil, ← gone]
    exact .cleared disposals
  | alive alive => exact .closed alive disposals

theorem of_performs (sound : Sound s) {occasion : Occasion ω υ} {effects : List (Effect κ υ)}
    {s' : CacheState σ κ υ} (performs : setup.Performs occasion s effects s') :
    Does setup occasion s effects s' := by
  cases performs with
  | nothing => exact .nothing
  | serve asks => exact .served asks (setup.serves_serve sound _ _ _)
  | remove path => exact .removed (setup.removes_remove sound _ path)
  | removeAll walk =>
    obtain ⟨pieces, inner, ran, disposals, -⟩ :=
      setup.run_removeAll occasion.moment.world walk sound
    rw [ran]
    exact .cleared disposals
  | destroy walk => exact .of_destroy sound occasion walk
  | globalOptions alive => exact .read alive
  | setGlobalOptions alive => exact .set alive

theorem step (setup : Setup ω σ κ υ) (sound : Sound s) (occasion : Occasion ω υ) :
    Does setup occasion s (setup.step s occasion).effects (setup.step s occasion).state :=
  .of_performs sound (setup.performs_step sound occasion)

theorem sound {occasion : Occasion ω υ} {effects : List (Effect κ υ)} {s' : CacheState σ κ υ}
    (does : Does setup occasion s effects s') (sound : Sound s) : Sound s' := by
  cases does with
  | nothing => exact sound
  | served asks serves => exact serves.sound sound
  | removed removes => exact removes.sound sound
  | cleared => exact ⟨by simp [SortedTable.empty], sound.context_held, by simp [SortedTable.empty]⟩
  | closed => exact ⟨by simp [SortedTable.empty], by simp, by simp [SortedTable.empty]⟩
  | read | set => exact ⟨sound.unit_held, sound.context_held, sound.own_path⟩

end Does

/-! ## Opening -/

@[simp] theorem callsOf_map_call (calls : List (Call κ υ)) :
    callsOf (calls.map Effect.call) = calls := by
  induction calls with
  | nil => rfl
  | cons call rest ih => rw [List.map_cons, callsOf_call, ih]

theorem run_callCreateContext {analyzer : Analyzer ω σ κ υ} {world : ω} {options : ContextOptions}
    {start : AnalyzerState σ} {answer : Answer κ} {inner : σ}
    (answered : analyzer.createContext world options start.inner = (answer, inner)) :
    (analyzer.callCreateContext world options).run start =
      ⟨(answer.numbered start.contexts).outcome,
        [.call (.createContext options (answer.numbered start.contexts))],
        ⟨inner, start.units, answer.count start.contexts⟩⟩ := by
  simp [Analyzer.callCreateContext, answered]

namespace Blueprint

variable {plan : Blueprint ω} {analyzer : Analyzer ω σ κ υ} {world : ω}
  {start left : AnalyzerState σ}

theorem run_setOptions (plan : Blueprint ω) (analyzer : Analyzer ω σ κ υ) (world : ω)
    (context : Handle κ) (start : AnalyzerState σ) :
    (plan.setOptions analyzer world (.hold context)).run start =
      ⟨.ok (), plan.globalOptions.toList.map fun options =>
          .call (.setGlobalOptions context options),
        { start with inner := plan.globalOptions.elim start.inner fun options =>
          analyzer.setGlobalOptions world context.value options start.inner }⟩ := by
  unfold setOptions
  cases plan.globalOptions <;> rfl

theorem run_build_of_value {value : κ} {inner : σ}
    (answered : analyzer.createContext world plan.contextOptions start.inner =
      (.value value, inner)) :
    (plan.build analyzer world).run start =
      ⟨.ok (.ok ⟨plan.setup analyzer, some (.hold ⟨start.contexts, value⟩), .empty⟩),
        (.createContext plan.contextOptions (.value ⟨start.contexts, value⟩) ::
          plan.globalOptions.toList.map (.setGlobalOptions ⟨start.contexts, value⟩)).map .call,
        ⟨plan.globalOptions.elim inner fun options =>
          analyzer.setGlobalOptions world value options inner, start.units,
          start.contexts + 1⟩⟩ := by
  rw [build, Act.run_bind, run_callCreateContext answered, Answer.numbered, Answer.outcome,
    Act.andThen_ok, Act.run_bind_of_ok (run_setOptions ..)]
  simp

theorem run_build_of_fault {message : String} {inner : σ}
    (answered : analyzer.createContext world plan.contextOptions start.inner =
      (.fault message, inner)) :
    (plan.build analyzer world).run start =
      ⟨.ok (.error (noContext message)),
        [.call (.createContext plan.contextOptions (.fault message))], { start with inner }⟩ := by
  rw [build, Act.run_bind, run_callCreateContext answered]
  rfl

theorem run_build_of_panic {payload : Payload} {inner : σ}
    (answered : analyzer.createContext world plan.contextOptions start.inner =
      (.panic payload, inner)) :
    (plan.build analyzer world).run start =
      ⟨.error payload, [.call (.createContext plan.contextOptions (.panic payload))],
        { start with inner }⟩ := by
  rw [build, Act.run_bind, run_callCreateContext answered]
  rfl

theorem answered_of_build {cache : Cache ω σ κ υ} {effects : List (Effect κ υ)}
    (built : (plan.build analyzer world).run start = ⟨.ok (.ok cache), effects, left⟩) :
    ∃ value inner, analyzer.createContext world plan.contextOptions start.inner =
      (.value value, inner) := by
  obtain ⟨answer, inner, answered⟩ : ∃ answer inner, analyzer.createContext world
      plan.contextOptions start.inner = (answer, inner) := ⟨_, _, rfl⟩
  cases answer with
  | value value => exact ⟨value, inner, answered⟩
  | fault message =>
    rw [run_build_of_fault answered] at built
    cases built
  | panic payload =>
    rw [run_build_of_panic answered] at built
    cases built

theorem build_spec {cache : Cache ω σ κ υ} {effects : List (Effect κ υ)}
    (built : (plan.build analyzer world).run start = ⟨.ok (.ok cache), effects, left⟩) :
    ∃ context set, cache = ⟨plan.setup analyzer, some (.hold context), .empty⟩ ∧
      effects = (.createContext plan.contextOptions (.value context) :: set).map .call ∧
        ∀ call ∈ set, ∃ options, call = .setGlobalOptions context options := by
  obtain ⟨value, inner, answered⟩ := answered_of_build built
  rw [run_build_of_value answered] at built
  simp only [Ran.mk.injEq, Except.ok.injEq] at built
  obtain ⟨rfl, rfl, -⟩ := built
  refine ⟨_, _, rfl, rfl, fun call mem => ?_⟩
  obtain ⟨options, -, rfl⟩ := List.mem_map.1 mem
  exact ⟨options, rfl⟩

end Blueprint

theorem Blueprint.opened_of_build {plan : Blueprint ω} {analyzer : Analyzer ω σ κ υ} {world : ω}
    {start left : AnalyzerState σ} {cache : Cache ω σ κ υ} {effects : List (Effect κ υ)}
    (built : (plan.build analyzer world).run start = ⟨.ok (.ok cache), effects, left⟩) :
    Opened cache.setup (callsOf effects) ⟨left, cache.context, cache.table⟩ := by
  obtain ⟨context, set, rfl, -⟩ := build_spec built
  exact ⟨plan, world, _, start, effects, built, rfl, rfl, rfl, rfl⟩

theorem Opened.spec {setup : Setup ω σ κ υ} {built : List (Call κ υ)} {s : CacheState σ κ υ}
    (opened : Opened setup built s) :
    ∃ context options set, s.context = some (.hold context) ∧ s.table = .empty ∧
      built = .createContext options (.value context) :: set ∧
        ∀ call ∈ set, ∃ options, call = .setGlobalOptions context options := by
  obtain ⟨plan, world, cache, start, effects, ran, rfl, context_eq, table_eq, rfl⟩ := opened
  obtain ⟨context, set, cache_eq, rfl, only_set⟩ := Blueprint.build_spec ran
  rw [context_eq, table_eq, cache_eq, callsOf_map_call]
  exact ⟨context, _, set, rfl, rfl, rfl, only_set⟩

theorem Opened.sound {setup : Setup ω σ κ υ} {built : List (Call κ υ)} {s : CacheState σ κ υ}
    (opened : Opened setup built s) : Sound s := by
  obtain ⟨context, options, set, alive, table_eq, -⟩ := opened.spec
  refine ⟨?_, ?_, ?_⟩
  · simp [table_eq, SortedTable.empty]
  · rw [alive]
    rintro owned ⟨⟩
    exact ⟨context, rfl⟩
  · simp [table_eq, SortedTable.empty]

theorem Reachable.sound {setup : Setup ω σ κ υ} {s : CacheState σ κ υ}
    (reachable : Reachable setup s) : Sound s :=
  reachable.invariant (fun _ _ opened => opened.sound)
    fun _ occasion sound => (Does.step setup sound occasion).sound sound

end SourceIndex
