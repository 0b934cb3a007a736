import SourceIndex.Proofs.Cache.Steps

/-!
# The calls of a request

What the analyzer is given follows from the world that a request finds: the arguments come from the
provider and the buffers from the overlay, both as they are at that moment.
-/

namespace SourceIndex

variable {ω σ κ υ : Type}

/-- A call that a request may make in this world. -/
inductive Call.Fits (setup : Setup ω σ κ υ) (world : ω) : Call κ υ → Prop
  | parse {context path own answer} (indexable : setup.argsFor? world path = some own) :
      Fits setup world (.parse context path (setup.parseArgs own) (setup.overlay world) answer)
  | reparse {unit after answer} :
      Fits setup world (.reparse unit (setup.overlay world) after answer)
  | disposeUnit {unit release answer} : Fits setup world (.disposeUnit unit release answer)
  | disposeContext {context release answer} :
      Fits setup world (.disposeContext context release answer)
  | globalOptions {context options} : Fits setup world (.globalOptions context options)
  | setGlobalOptions {context options} : Fits setup world (.setGlobalOptions context options)

variable {setup : Setup ω σ κ υ} {world : ω} {path : Path} {s : CacheState σ κ υ}

theorem Disposes.fits {list : List (Path × Entry υ)} {calls : List (Call κ υ)}
    (disposes : List.Forall₂ Disposes list calls) : ∀ call ∈ calls, call.Fits setup world := by
  induction disposes with
  | nil => simp
  | cons first _ ih =>
    obtain ⟨unit, answer, -, rfl⟩ := first
    exact List.forall_mem_cons.2 ⟨.disposeUnit, ih⟩

theorem Setup.Removes.fits {ran : Ran (CacheState σ κ υ) (Effect κ υ) Unit}
    (removes : setup.Removes world path s ran) :
    ∀ call ∈ callsOf ran.effects, call.Fits setup world := by
  cases removes with
  | absent => simp
  | present => simp [Call.Fits.disposeUnit]

theorem Setup.Serves.fits {moment : Moment ω} {force : Bool}
    {ran : Ran (CacheState σ κ υ) (Effect κ υ) (Option (LentUnit ω υ))}
    (serves : setup.Serves moment path force s ran) :
    ∀ call ∈ callsOf ran.effects, call.Fits setup moment.world := by
  cases serves with
  | unindexable | unreadable | hit => simp
  | refreshed indexable readable found held stale refreshes =>
    cases refreshes <;> simp [Call.Fits.reparse]
  | rebuilt indexable readable outdated parses =>
    cases parses with
    | destroyed removes => simpa using removes.fits
    | parsed removes | failed removes | panicked removes =>
      simpa [or_imp, forall_and, Call.Fits.parse indexable] using removes.fits

theorem Does.fits {occasion : Occasion ω υ} {effects : List (Effect κ υ)}
    {s' : CacheState σ κ υ} (does : Does setup occasion s effects s') :
    ∀ call ∈ callsOf effects, call.Fits setup occasion.moment.world := by
  cases does with
  | nothing => simp
  | served asks serves => exact serves.fits
  | removed removes => exact removes.fits
  | cleared disposals => exact Disposes.fits (setup.disposes_of_disposals disposals)
  | closed alive disposals =>
    have disposed : ∀ call ∈ callsOf _, call.Fits setup occasion.moment.world :=
      Disposes.fits (setup.disposes_of_disposals disposals)
    simpa [or_imp, forall_and, Call.Fits.disposeContext] using disposed
  | read => simp [Call.Fits.globalOptions]
  | set => simp [Call.Fits.setGlobalOptions]

theorem Opened.steps_fit {built : List (Call κ υ)} (opened : Opened setup built s)
    (occasions : List (Occasion ω υ)) :
    ∀ step ∈ setup.history s occasions, ∀ call ∈ step.calls,
      call.Fits setup step.occasion.moment.world := by
  rw [setup.history_eq_visits]
  simp only [List.forall_mem_map]
  intro visit mem
  obtain ⟨before, found⟩ := setup.mem_visits mem
  have sound : Sound visit.1 := Reachable.sound ⟨built, s, before, opened, found⟩
  exact (Does.step setup sound visit.2).fits

end SourceIndex
