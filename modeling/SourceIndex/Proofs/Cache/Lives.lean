import SourceIndex.Proofs.Cache.Destroyed

/-!
# Lives of caches

Between two requests to a cache others may use its analyzer. Whatever they do, the cache owns what it
has made itself, and when it is dropped it has disposed all of that.
-/

namespace SourceIndex

variable {ω σ κ υ : Type}

/-- One state of a cache comes after another one. The log has the calls of the cache in between, but
not those of others, who may have had units made too. -/
inductive Continues (setup : Setup ω σ κ υ) (s : CacheState σ κ υ) :
    List (Call κ υ) → CacheState σ κ υ → Prop
  | here : Continues setup s [] s
  | step {log s'} (earlier : Continues setup s log s') (occasion : Occasion ω υ) :
      Continues setup s (log ++ callsOf (setup.step s' occasion).effects)
        (setup.step s' occasion).state
  | meanwhile {log s'} {analyzer : AnalyzerState σ} (earlier : Continues setup s log s')
      (grown : s'.analyzer.units ≤ analyzer.units) :
      Continues setup s log { s' with analyzer }

/-- A cache was built, and these are all its calls until now. -/
def Life (setup : Setup ω σ κ υ) (log : List (Call κ υ)) (s : CacheState σ κ υ) : Prop :=
  ∃ built start more, Opened setup built start ∧ Continues setup start more s ∧
    log = built ++ more

/-! ## What stays -/

theorem Accounts.mono {log : List (Call κ υ)} {held : List (Nat × Path)} {context : Option Nat}
    {units units' : Nat} (accounts : Accounts log held context units) (grown : units ≤ units') :
    Accounts log held context units' :=
  { accounts with below := fun unit mem => Nat.lt_of_lt_of_le (accounts.below unit mem) grown }

namespace Continues

variable {setup : Setup ω σ κ υ} {s s' s'' : CacheState σ κ υ} {log log' more : List (Call κ υ)}

theorem trans (first : Continues setup s log s') (last : Continues setup s' log' s'') :
    Continues setup s (log ++ log') s'' := by
  induction last with
  | here => simpa using first
  | step _ occasion ih =>
    rw [← List.append_assoc]
    exact ih.step occasion
  | meanwhile _ grown ih => exact ih.meanwhile grown

theorem sound (continues : Continues setup s log s') (sound : Sound s) : Sound s' := by
  induction continues with
  | here => exact sound
  | step _ occasion ih => exact (Does.step setup ih occasion).sound ih
  | meanwhile _ _ ih => exact ⟨ih.unit_held, ih.context_held, ih.own_path⟩

theorem books (continues : Continues setup s more s') (books : Books log s) (sound : Sound s) :
    Books (log ++ more) s' := by
  induction continues with
  | here => simpa using books
  | step earlier occasion ih =>
    have does := Does.step setup (earlier.sound sound) occasion
    rw [← List.append_assoc]
    exact ih.does (earlier.sound sound) does
  | meanwhile _ grown ih => exact Accounts.mono ih grown

theorem gone (continues : Continues setup s log s') (sound : Sound s) (gone : s.context = none) :
    s'.context = none := by
  induction continues with
  | here => exact gone
  | step earlier occasion ih => exact setup.context_of_gone (earlier.sound sound) ih occasion
  | meanwhile _ _ ih => exact ih

end Continues

namespace Life

variable {setup : Setup ω σ κ υ} {s s' : CacheState σ κ υ} {log more : List (Call κ υ)}

theorem of_opened (opened : Opened setup log s) : Life setup log s :=
  ⟨log, s, [], opened, .here, (List.append_nil log).symm⟩

theorem continues (life : Life setup log s) (continues : Continues setup s more s') :
    Life setup (log ++ more) s' := by
  obtain ⟨built, start, earlier, opened, until_now, rfl⟩ := life
  exact ⟨built, start, earlier ++ more, opened, until_now.trans continues,
    List.append_assoc ..⟩

theorem sound (life : Life setup log s) : Sound s := by
  obtain ⟨built, start, more, opened, continues, -⟩ := life
  exact continues.sound opened.sound

theorem books (life : Life setup log s) : Books log s := by
  obtain ⟨built, start, more, opened, continues, rfl⟩ := life
  exact continues.books (.opened opened) opened.sound

end Life

/-! ## The end -/

theorem Cache.run_drop (cache : Cache ω σ κ υ) {analyzer : AnalyzerState σ}
    (sound : Sound ⟨analyzer, cache.context, cache.table⟩) (world : ω)
    (walk : Walk (Path × Entry υ)) :
    ∃ effects inner, (cache.drop world walk).run analyzer =
        ⟨.ok (), effects, { analyzer with inner }⟩ ∧
      ∀ log, Life cache.setup log ⟨analyzer, cache.context, cache.table⟩ →
        AllDisposed (log ++ callsOf effects) := by
  have does : Does cache.setup ⟨⟨fun _ => .error .notFound, world⟩, .destroy walk⟩ _ _ _ :=
    .of_destroy sound _ walk
  obtain ⟨pieces, last, inner, ran, -⟩ := cache.setup.run_destroy world walk sound
  refine ⟨pieces.flatten ++ last, inner, ?_, ?_⟩
  · simp [Cache.drop, Cache.run, Act.run_bind, ran, Act.andThen_ok, Act.resume]
  · intro log life
    have books := life.books.does sound does
    rw [ran] at books
    exact Accounts.allDisposed books

end SourceIndex
