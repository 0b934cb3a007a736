import SourceIndex.Act
import Mathlib.Data.List.Forall2

/-!
# Actions that run alike

Two actions run alike if from states that are alike they end alike, after effects that are alike
one by one, and leave states that are alike. What that means for states, effects and values is up
to whoever compares them. Two programs of the same shape are compared step by step.
-/

namespace SourceIndex

variable {τ ε α β : Type}

/-- Both ended well, with values that are alike, or with the same error. -/
inductive EndedAlike {φ : Type} (values : α → α → Prop) : Except φ α → Except φ α → Prop
  | ok {a a' : α} (alike : values a a') : EndedAlike values (.ok a) (.ok a')
  | error (fault : φ) : EndedAlike values (.error fault) (.error fault)

theorem EndedAlike.eq {φ : Type} {result result' : Except φ α}
    (alike : EndedAlike Eq result result') : result = result' := by
  cases alike with
  | ok same => rw [same]
  | error => rfl

theorem EndedAlike.refl {φ : Type} (result : Except φ α) : EndedAlike Eq result result := by
  cases result with
  | ok a => exact .ok rfl
  | error fault => exact .error fault

structure Ran.Alike (states : τ → τ → Prop) (effects : ε → ε → Prop) (values : α → α → Prop)
    (ran ran' : Ran τ ε α) : Prop where
  result : EndedAlike values ran.result ran'.result
  effects : List.Forall₂ effects ran.effects ran'.effects
  state : states ran.state ran'.state

namespace Act

/-- From states that are alike the actions run alike. -/
def Alike (states : τ → τ → Prop) (effects : ε → ε → Prop) (values : α → α → Prop)
    (act act' : Act τ ε α) : Prop :=
  ∀ t t', states t t' → (act.run t).Alike states effects values (act'.run t')

namespace Alike

variable {states : τ → τ → Prop} {effects : ε → ε → Prop} {values : α → α → Prop}
  {values' : β → β → Prop}

theorem pure {a a' : α} (alike : values a a') :
    Alike states effects values (Pure.pure a) (Pure.pure a') :=
  fun _ _ start => ⟨.ok alike, .nil, start⟩

theorem raise (payload : Payload) :
    Alike states effects values (Act.raise payload) (Act.raise payload) :=
  fun _ _ start => ⟨.error payload, .nil, start⟩

theorem emit {effect effect' : ε} (alike : effects effect effect') :
    Alike states effects Eq (Act.emit effect) (Act.emit effect') :=
  fun _ _ start => ⟨.ok rfl, .cons alike .nil, start⟩

theorem state : Alike states effects states Act.state Act.state :=
  fun _ _ start => ⟨.ok start, .nil, start⟩

theorem modify {change change' : τ → τ} (alike : ∀ t t', states t t' →
    states (change t) (change' t')) :
    Alike states effects Eq (Act.modify change) (Act.modify change') :=
  fun _ _ start => ⟨.ok rfl, .nil, alike _ _ start⟩

theorem bind {act act' : Act τ ε α} {next next' : α → Act τ ε β}
    (first : Alike states effects values act act')
    (second : ∀ a a', values a a' → Alike states effects values' (next a) (next' a')) :
    Alike states effects values' (act >>= next) (act' >>= next') := by
  intro t t' start
  rw [run_bind, run_bind]
  obtain ⟨ended, done, left⟩ := first t t' start
  generalize act.run t = ran at ended done left
  generalize act'.run t' = ran' at ended done left
  obtain ⟨result, _, _⟩ := ran
  obtain ⟨result', _, _⟩ := ran'
  cases ended with
  -- A panic skips what comes next on both sides.
  | error payload => exact ⟨.error payload, done, left⟩
  | ok alike =>
    obtain ⟨ended, done', left⟩ := second _ _ alike _ _ left
    exact ⟨ended, List.rel_append done done', left⟩

theorem map {act act' : Act τ ε α} {f f' : α → β} (alike : Alike states effects values act act')
    (same : ∀ a a', values a a' → values' (f a) (f' a')) :
    Alike states effects values' (f <$> act) (f' <$> act') := by
  rw [map_eq_pure_bind, map_eq_pure_bind]
  exact alike.bind fun a a' both => .pure (same a a' both)

theorem discard {act act' : Act τ ε α} (alike : Alike states effects values act act') :
    Alike states effects Eq (Functor.discard act) (Functor.discard act') :=
  alike.map fun _ _ _ => rfl

theorem attempt {act act' : Act τ ε α} (alike : Alike states effects values act act') :
    Alike states effects (EndedAlike values) act.attempt act'.attempt := by
  intro t t' start
  obtain ⟨ended, done, left⟩ := alike t t' start
  exact ⟨.ok ended, done, left⟩

end Alike

/-! ## Heard effects -/

/-- The action without the effects that nobody hears. -/
def hear (heard : ε → Bool) (act : Act τ ε α) : Act τ ε α :=
  ⟨fun t => { act.run t with effects := (act.run t).effects.filter heard }⟩

theorem hear_bind (heard : ε → Bool) (act : Act τ ε α) (next : α → Act τ ε β) :
    (act >>= next).hear heard = act.hear heard >>= fun a => (next a).hear heard := by
  apply ext_run
  intro t
  simp only [hear, run_bind]
  obtain ⟨_ | a, effects, left⟩ := act.run t
  · rfl
  · simp only [andThen_ok, List.filter_append]

/-- The actions run alike as far as their effects are heard. -/
def AlikeHeard (heard : ε → Bool) (states : τ → τ → Prop) (effects : ε → ε → Prop)
    (values : α → α → Prop) (act act' : Act τ ε α) : Prop :=
  Alike states effects values (act.hear heard) (act'.hear heard)

namespace AlikeHeard

variable {heard : ε → Bool} {states : τ → τ → Prop} {effects : ε → ε → Prop}
  {values : α → α → Prop} {values' : β → β → Prop}

theorem of_alike (both : ∀ e e', effects e e' → heard e = heard e') {act act' : Act τ ε α}
    (alike : Alike states effects values act act') :
    AlikeHeard heard states effects values act act' := by
  intro t t' start
  obtain ⟨ended, done, left⟩ := alike t t' start
  have heard_too ⦃e e' : ε⦄ (same : effects e e') : heard e = true ↔ heard e' = true := by
    rw [both e e' same]
  exact ⟨ended, List.rel_filter heard_too done, left⟩

theorem pure {a a' : α} (alike : values a a') :
    AlikeHeard heard states effects values (Pure.pure a) (Pure.pure a') :=
  Alike.pure alike

theorem raise (payload : Payload) :
    AlikeHeard heard states effects values (Act.raise payload) (Act.raise payload) :=
  Alike.raise payload

theorem state : AlikeHeard heard states effects states Act.state Act.state :=
  Alike.state

theorem modify {change change' : τ → τ} (alike : ∀ t t', states t t' →
    states (change t) (change' t')) :
    AlikeHeard heard states effects Eq (Act.modify change) (Act.modify change') :=
  Alike.modify alike

theorem bind {act act' : Act τ ε α} {next next' : α → Act τ ε β}
    (first : AlikeHeard heard states effects values act act')
    (second : ∀ a a', values a a' → AlikeHeard heard states effects values' (next a) (next' a')) :
    AlikeHeard heard states effects values' (act >>= next) (act' >>= next') := by
  unfold AlikeHeard
  rw [hear_bind, hear_bind]
  exact Alike.bind first second

theorem map {act act' : Act τ ε α} {f f' : α → β}
    (alike : AlikeHeard heard states effects values act act')
    (same : ∀ a a', values a a' → values' (f a) (f' a')) :
    AlikeHeard heard states effects values' (f <$> act) (f' <$> act') := by
  rw [map_eq_pure_bind, map_eq_pure_bind]
  exact alike.bind fun a a' both => .pure (same a a' both)

theorem discard {act act' : Act τ ε α}
    (alike : AlikeHeard heard states effects values act act') :
    AlikeHeard heard states effects Eq (Functor.discard act) (Functor.discard act') :=
  alike.map fun _ _ _ => rfl

theorem attempt {act act' : Act τ ε α}
    (alike : AlikeHeard heard states effects values act act') :
    AlikeHeard heard states effects (EndedAlike values) act.attempt act'.attempt :=
  Alike.attempt alike

theorem each {act act' : α → Act τ ε Unit}
    (alike : ∀ a, AlikeHeard heard states effects Eq (act a) (act' a)) (list : List α) :
    AlikeHeard heard states effects Eq (Act.each act list) (Act.each act' list) := by
  induction list with
  | nil => exact .pure rfl
  | cons a rest ih => exact (alike a).bind fun _ _ _ => ih

theorem mapM {act act' : α → Act τ ε β}
    (alike : ∀ a, AlikeHeard heard states effects Eq (act a) (act' a)) (list : List α) :
    AlikeHeard heard states effects Eq (list.mapM act) (list.mapM act') := by
  induction list with
  | nil => exact .pure rfl
  | cons a rest ih =>
    rw [List.mapM_cons, List.mapM_cons]
    refine (alike a).bind ?_
    rintro b - rfl
    refine ih.bind ?_
    rintro others - rfl
    exact .pure rfl

end AlikeHeard

end Act

end SourceIndex
