/-!
# Actions

An action changes a state and leaves effects behind, in order. It ends with a value, or it
panics. A panic skips the rest of the action, but what was changed stays changed and what was
done stays done.
-/

namespace SourceIndex

/-- What a panic carries. -/
inductive Payload where
  | text (message : String)
  /-- Something that is no text. -/
  | unreadable
  deriving DecidableEq, Repr

/-- An action once it has run. -/
structure Ran (σ ε α : Type) where
  result : Except Payload α
  effects : List ε
  state : σ

/-- An action on the state `σ` with effects `ε` that ends with an `α`. -/
structure Act (σ ε α : Type) where
  run : σ → Ran σ ε α

namespace Act

variable {σ τ ε α β γ : Type}

theorem ext_run {act act' : Act σ ε α} (h : ∀ s, act.run s = act'.run s) : act = act' := by
  cases act
  cases act'
  simpa using funext h

/-! ## In sequence -/

/-- What follows once the first action has run. -/
def andThen (first : Ran σ ε α) (next : α → Act σ ε β) : Ran σ ε β :=
  match first.result with
  | .error payload => ⟨.error payload, first.effects, first.state⟩
  | .ok a =>
    let second := (next a).run first.state
    ⟨second.result, first.effects ++ second.effects, second.state⟩

instance : Monad (Act σ ε) where
  pure a := ⟨fun s => ⟨.ok a, [], s⟩⟩
  bind act next := ⟨fun s => andThen (act.run s) next⟩

@[simp] theorem run_pure (a : α) (s : σ) : (pure a : Act σ ε α).run s = ⟨.ok a, [], s⟩ := rfl

theorem run_bind (act : Act σ ε α) (next : α → Act σ ε β) (s : σ) :
    (act >>= next).run s = andThen (act.run s) next := rfl

theorem andThen_ok (a : α) (effects : List ε) (s : σ) (next : α → Act σ ε β) :
    andThen ⟨.ok a, effects, s⟩ next =
      ⟨((next a).run s).result, effects ++ ((next a).run s).effects, ((next a).run s).state⟩ := rfl

@[simp] theorem andThen_panic (payload : Payload) (effects : List ε) (s : σ)
    (next : α → Act σ ε β) :
    andThen ⟨.error payload, effects, s⟩ next = ⟨.error payload, effects, s⟩ := rfl

theorem andThen_pure (ran : Ran σ ε α) : andThen ran pure = ran := by
  obtain ⟨_ | _, _, _⟩ := ran <;> simp [andThen]

theorem andThen_andThen (ran : Ran σ ε α) (next : α → Act σ ε β) (last : β → Act σ ε γ) :
    andThen (andThen ran next) last = andThen ran fun a => next a >>= last := by
  obtain ⟨_ | a, effects, s⟩ := ran
  · rfl
  · simp only [andThen_ok, run_bind]
    obtain ⟨_ | b, effects', s'⟩ := (next a).run s
    · rfl
    · simp only [andThen_ok, List.append_assoc]

instance : LawfulMonad (Act σ ε) :=
  LawfulMonad.mk' (Act σ ε)
    (fun act => ext_run fun s => andThen_pure (act.run s))
    (fun a next => ext_run fun s => by rw [run_bind, run_pure, andThen_ok, List.nil_append])
    (fun act next last => ext_run fun s => andThen_andThen (act.run s) next last)

theorem run_bind_of_ok {act : Act σ ε α} {s s' : σ} {a : α} {effects : List ε}
    (h : act.run s = ⟨.ok a, effects, s'⟩) (next : α → Act σ ε β) :
    (act >>= next).run s =
      ⟨((next a).run s').result, effects ++ ((next a).run s').effects,
        ((next a).run s').state⟩ := by
  rw [run_bind, h, andThen_ok]

theorem run_bind_of_panic {act : Act σ ε α} {s s' : σ} {payload : Payload} {effects : List ε}
    (h : act.run s = ⟨.error payload, effects, s'⟩) (next : α → Act σ ε β) :
    (act >>= next).run s = ⟨.error payload, effects, s'⟩ := by
  rw [run_bind, h, andThen_panic]

theorem run_map (f : α → β) (act : Act σ ε α) (s : σ) :
    (f <$> act).run s = ⟨(act.run s).result.map f, (act.run s).effects, (act.run s).state⟩ := by
  rw [map_eq_pure_bind, run_bind]
  obtain ⟨_ | a, effects, s'⟩ := act.run s
  · rfl
  · rw [andThen_ok, run_pure, List.append_nil]
    rfl

theorem run_discard (act : Act σ ε α) (s : σ) :
    (discard act).run s =
      ⟨(act.run s).result.map fun _ => (), (act.run s).effects, (act.run s).state⟩ :=
  run_map (fun _ => ()) act s

/-! ## Basic actions -/

def state : Act σ ε σ := ⟨fun s => ⟨.ok s, [], s⟩⟩

def modify (change : σ → σ) : Act σ ε Unit := ⟨fun s => ⟨.ok (), [], change s⟩⟩

def emit (effect : ε) : Act σ ε Unit := ⟨fun s => ⟨.ok (), [effect], s⟩⟩

def raise (payload : Payload) : Act σ ε α := ⟨fun s => ⟨.error payload, [], s⟩⟩

@[simp] theorem run_state (s : σ) : (state : Act σ ε σ).run s = ⟨.ok s, [], s⟩ := rfl

@[simp] theorem run_modify (change : σ → σ) (s : σ) :
    (modify change : Act σ ε Unit).run s = ⟨.ok (), [], change s⟩ := rfl

@[simp] theorem run_emit (effect : ε) (s : σ) : (emit effect).run s = ⟨.ok (), [effect], s⟩ := rfl

@[simp] theorem run_raise (payload : Payload) (s : σ) :
    (raise payload : Act σ ε α).run s = ⟨.error payload, [], s⟩ := rfl

/-! ## Around an action -/

/-- Keeps a panic from going on. -/
def attempt (act : Act σ ε α) : Act σ ε (Except Payload α) :=
  ⟨fun s => ⟨.ok (act.run s).result, (act.run s).effects, (act.run s).state⟩⟩

/-- Runs an action on a part of the state. -/
def onPart (part : τ → σ) (putBack : τ → σ → τ) (act : Act σ ε α) : Act τ ε α :=
  ⟨fun t =>
    let ran := act.run (part t)
    ⟨ran.result, ran.effects, putBack t ran.state⟩⟩

/-- Goes on with a value, or panics. -/
def resume : Except Payload α → Act σ ε α
  | .ok a => pure a
  | .error payload => raise payload

/-- Does one action after the other. -/
def each (act : α → Act σ ε Unit) : List α → Act σ ε Unit
  | [] => pure ()
  | a :: rest => do
    act a
    each act rest

@[simp] theorem run_attempt (act : Act σ ε α) (s : σ) :
    act.attempt.run s = ⟨.ok (act.run s).result, (act.run s).effects, (act.run s).state⟩ := rfl

@[simp] theorem run_onPart (part : τ → σ) (putBack : τ → σ → τ) (act : Act σ ε α) (t : τ) :
    (act.onPart part putBack).run t =
      ⟨(act.run (part t)).result, (act.run (part t)).effects,
        putBack t (act.run (part t)).state⟩ := rfl

end Act

end SourceIndex
