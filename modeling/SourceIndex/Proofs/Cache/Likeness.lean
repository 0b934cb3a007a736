import SourceIndex.Proofs.Alike
import SourceIndex.Proofs.Cache.Outcomes

/-!
# Likeness of caches

Two caches with one setup that keep the same for a file do alike when they are asked for it. What
they keep for other files may differ, and so may what their analyzers remember, as long as the
answers are the same.
-/

namespace SourceIndex

variable {ω σ κ υ α : Type}

/-! ## Likeness -/

/-- What may differ between two caches that are asked for the same file: what their analyzers
remember, their contexts, and how their units are numbered. -/
structure Likeness (σ κ : Type) where
  inner : σ → σ → Prop
  context : Handle κ → Handle κ → Prop
  /-- Between the units that there were at the start. -/
  known : Nat → Nat → Prop
  /-- How many units each analyzer had made at the start. -/
  made : Nat
  made' : Nat

namespace Likeness

variable (alike : Likeness σ κ)

/-- Both numbers are taken by the same one of the units that were made since the start. -/
def Made (number number' : Nat) : Prop :=
  ∃ since, number = alike.made + since ∧ number' = alike.made' + since

structure Units (unit unit' : Handle υ) : Prop where
  value : unit.value = unit'.value
  serial : alike.known unit.serial unit'.serial ∨ alike.Made unit.serial unit'.serial

structure Entries (entry entry' : Entry υ) : Prop where
  path : entry.path = entry'.path
  args : entry.args = entry'.args
  time : entry.time = entry'.time
  unit : Option.Rel alike.Units entry.unit.held entry'.unit.held

structure Lent (lent lent' : LentUnit ω υ) : Prop where
  path : lent.path = lent'.path
  unit : alike.Units lent.unit lent'.unit
  overlay : lent.overlay = lent'.overlay

inductive Responses : Response ω υ → Response ω υ → Prop
  | done : Responses .done .done
  | unit {lent lent' : Option (LentUnit ω υ)} (both : Option.Rel alike.Lent lent lent') :
      Responses (.unit lent) (.unit lent')

inductive Answers : Answer (Handle υ) → Answer (Handle υ) → Prop
  | value {unit unit' : Handle υ} (units : alike.Units unit unit') :
      Answers (.value unit) (.value unit')
  | fault (message : String) : Answers (.fault message) (.fault message)
  | panic (payload : Payload) : Answers (.panic payload) (.panic payload)

inductive Calls : Call κ υ → Call κ υ → Prop
  | parse {context context' : Handle κ} {answer answer' : Answer (Handle υ)}
      (contexts : alike.context context context') (path : Path) (args : List String)
      (buffers : List Buffer) (answers : alike.Answers answer answer') :
      Calls (.parse context path args buffers answer) (.parse context' path args buffers answer')
  | reparse {unit unit' : Handle υ} (units : alike.Units unit unit') (buffers : List Buffer)
      (after : υ) (answer : Answer Unit) :
      Calls (.reparse unit buffers after answer) (.reparse unit' buffers after answer)
  | disposeUnit {unit unit' : Handle υ} (units : alike.Units unit unit') (release : Release)
      (answer : Answer Unit) :
      Calls (.disposeUnit unit release answer) (.disposeUnit unit' release answer)

/-- All that is logged and told is the same. -/
inductive Effects : Effect κ υ → Effect κ υ → Prop
  | call {call call' : Call κ υ} (calls : alike.Calls call call') :
      Effects (.call call) (.call call')
  | event (event : Event) : Effects (.event event) (.event event)
  | diagnostic (inbox : InboxId) (diagnostic : Diagnostic) :
      Effects (.diagnostic inbox diagnostic) (.diagnostic inbox diagnostic)

/-- As far as the file goes the states are alike. Nothing is said about other files. -/
structure States (path : Path) (s s' : CacheState σ κ υ) : Prop where
  inner : alike.inner s.analyzer.inner s'.analyzer.inner
  units : alike.Made s.analyzer.units s'.analyzer.units
  context : Option.Rel (fun owned owned' => Option.Rel alike.context owned.held owned'.held)
    s.context s'.context
  entry : Option.Rel alike.Entries (s.table.find? path) (s'.table.find? path)

variable {alike} in
theorem States.found {path : Path} {s s' : CacheState σ κ υ} (states : alike.States path s s') :
    s.table.find? path = none ∧ s'.table.find? path = none ∨
      ∃ entry entry', s.table.find? path = some entry ∧ s'.table.find? path = some entry' ∧
        alike.Entries entry entry' := by
  have both := states.entry
  generalize s.table.find? path = cached at both ⊢
  generalize s'.table.find? path = cached' at both ⊢
  cases both with
  | none => exact .inl ⟨rfl, rfl⟩
  | some entries => exact .inr ⟨_, _, rfl, rfl, entries⟩

/-- From what is alike the analyzer gives the same answers. -/
structure RespectedBy (analyzer : Analyzer ω σ κ υ) : Prop where
  parse : ∀ world {context context'} path args buffers {inner inner'},
    alike.context context context' → alike.inner inner inner' →
    ∃ answer left left',
      analyzer.parse world context.value path args buffers inner = (answer, left) ∧
        analyzer.parse world context'.value path args buffers inner' = (answer, left') ∧
        alike.inner left left'
  reparse : ∀ world unit buffers {inner inner'}, alike.inner inner inner' →
    ∃ answer after left left',
      analyzer.reparse world unit buffers inner = (answer, after, left) ∧
        analyzer.reparse world unit buffers inner' = (answer, after, left') ∧
        alike.inner left left'
  disposeUnit : ∀ world unit {inner inner'}, alike.inner inner inner' →
    ∃ answer left left',
      analyzer.disposeUnit world unit inner = (answer, left) ∧
        analyzer.disposeUnit world unit inner' = (answer, left') ∧ alike.inner left left'

/-- Nothing differs. -/
def exact (made : Nat) : Likeness σ κ := ⟨Eq, Eq, Eq, made, made⟩

theorem exact_respectedBy (made : Nat) (analyzer : Analyzer ω σ κ υ) :
    (exact made).RespectedBy analyzer where
  parse _ _ _ _ _ _ _ _ := by
    rintro rfl rfl
    exact ⟨_, _, _, rfl, rfl, rfl⟩
  reparse _ _ _ _ _ := by
    rintro rfl
    exact ⟨_, _, _, _, rfl, rfl, rfl⟩
  disposeUnit _ _ _ _ := by
    rintro rfl
    exact ⟨_, _, _, rfl, rfl, rfl⟩

/-! ## Actions that do alike -/

/-- As far as the file goes both actions do alike. -/
abbrev Acts (path : Path) (values : α → α → Prop) (act act' : CacheAct σ κ υ α) : Prop :=
  Act.Alike (alike.States path) alike.Effects values act act'

variable {alike} {path : Path} {setup : Setup ω σ κ υ}

theorem acts_log (event : Event) :
    alike.Acts (υ := υ) path Eq (CacheAct.log event) (CacheAct.log event) :=
  .emit (.event event)

theorem acts_announce (setup : Setup ω σ κ υ) (other : Path) (message : String) :
    alike.Acts path Eq (setup.announce other message) (setup.announce other message) := by
  unfold Setup.announce
  split
  · exact acts_log _
  · exact .pure rfl

theorem acts_conclude (setup : Setup ω σ κ υ) (other : Path) (outcome : String) :
    alike.Acts path Eq (setup.conclude other outcome) (setup.conclude other outcome) :=
  acts_log _

theorem acts_tell (setup : Setup ω σ κ υ) (level : Level) (failure : Failure) :
    alike.Acts path Eq (setup.tell level failure) (setup.tell level failure) := by
  refine .bind (acts_log _) fun _ _ _ => ?_
  cases setup.inbox with
  | none => exact .pure rfl
  | some inbox => exact .emit (.diagnostic inbox _)

theorem acts_fail (setup : Setup ω σ κ υ) (failure : Failure) :
    alike.Acts path (Option.Rel alike.Lent) (setup.fail failure) (setup.fail failure) :=
  .bind (acts_tell setup _ failure) fun _ _ _ => .pure .none

theorem acts_noteDisposal (setup : Setup ω σ κ υ) (what : String)
    (outcome : Except Payload (Except String Unit)) :
    alike.Acts path Eq (setup.noteDisposal what outcome) (setup.noteDisposal what outcome) := by
  unfold Setup.noteDisposal
  cases Setup.disposalFault? outcome with
  | none => exact .pure rfl
  | some reason => exact acts_tell setup _ _

theorem acts_get {handles : Handle α → Handle α → Prop} {owned owned' : Owned α}
    (both : Option.Rel handles owned.held owned'.held) (what : String) :
    alike.Acts (υ := υ) path handles (owned.get what) (owned'.get what) := by
  obtain ⟨held⟩ := owned
  obtain ⟨held'⟩ := owned'
  cases both with
  | none => exact .raise _
  | some handles => exact .pure handles

theorem acts_setTable {table table' : PathTable (Entry υ)}
    (entry : Option.Rel alike.Entries (table.find? path) (table'.find? path)) :
    alike.Acts path Eq (CacheAct.setTable table) (CacheAct.setTable table') :=
  .modify fun _ _ start => ⟨start.inner, start.units, start.context, entry⟩

/-! ## Calls -/

theorem acts_callParse (answers : alike.RespectedBy setup.analyzer) (world : ω)
    {context context' : Handle κ} (contexts : alike.context context context') (other : Path)
    (args : List String) (buffers : List Buffer) :
    alike.Acts path (EndedAlike alike.Units)
      (CacheAct.call (setup.analyzer.callParse world context other args buffers))
      (CacheAct.call (setup.analyzer.callParse world context' other args buffers)) := by
  intro s s' start
  obtain ⟨answer, left, left', answered, answered', inner⟩ :=
    answers.parse world other args buffers contexts start.inner
  obtain ⟨since, units, units'⟩ := start.units
  rw [Setup.run_callParse _ _ _ _ answered, Setup.run_callParse _ _ _ _ answered']
  cases answer with
  | value value =>
    -- As many units were made on both sides, so the next ones are alike.
    have new : alike.Units ⟨s.analyzer.units, value⟩ ⟨s'.analyzer.units, value⟩ :=
      ⟨rfl, .inr start.units⟩
    refine ⟨.ok (.ok new), .cons (.call (.parse contexts _ _ _ (.value new))) .nil,
      inner, ⟨since + 1, ?_, ?_⟩, start.context, start.entry⟩
    · simp [units, Nat.add_assoc]
    · simp [units', Nat.add_assoc]
  | fault message =>
    exact ⟨.ok (.error message), .cons (.call (.parse contexts _ _ _ (.fault message))) .nil,
      inner, start.units, start.context, start.entry⟩
  | panic payload =>
    exact ⟨.error payload, .cons (.call (.parse contexts _ _ _ (.panic payload))) .nil,
      inner, start.units, start.context, start.entry⟩

theorem acts_callReparse (answers : alike.RespectedBy setup.analyzer) (world : ω)
    {unit unit' : Handle υ} (units : alike.Units unit unit') (buffers : List Buffer) :
    alike.Acts path (fun ran ran' => alike.Units ran.1 ran'.1 ∧ ran.2 = ran'.2)
      (CacheAct.call (setup.analyzer.callReparse world unit buffers))
      (CacheAct.call (setup.analyzer.callReparse world unit' buffers)) := by
  intro s s' start
  obtain ⟨answer, after, left, left', answered, answered', inner⟩ :=
    answers.reparse world unit.value buffers start.inner
  rw [units.value] at answered'
  rw [Setup.run_callReparse answered, Setup.run_callReparse answered']
  exact ⟨.ok ⟨⟨rfl, units.serial⟩, rfl⟩, .cons (.call (.reparse units buffers after answer)) .nil,
    inner, start.units, start.context, start.entry⟩

theorem acts_callDisposeUnit (answers : alike.RespectedBy setup.analyzer) (world : ω)
    {unit unit' : Handle υ} (units : alike.Units unit unit') (release : Release) :
    alike.Acts path Eq
      (CacheAct.call (setup.analyzer.callDisposeUnit world unit release))
      (CacheAct.call (setup.analyzer.callDisposeUnit world unit' release)) := by
  intro s s' start
  obtain ⟨answer, left, left', answered, answered', inner⟩ :=
    answers.disposeUnit world unit.value start.inner
  rw [units.value] at answered'
  rw [Setup.run_callDisposeUnit release answered, Setup.run_callDisposeUnit release answered']
  refine ⟨?_, .cons (.call (.disposeUnit units release answer)) .nil, inner, start.units,
    start.context, start.entry⟩
  cases answer with
  | value | fault => exact .ok rfl
  | panic payload => exact .error payload

theorem call_bind {β : Type} (act : AnalyzerAct σ κ υ α) (next : α → AnalyzerAct σ κ υ β) :
    CacheAct.call (act >>= next) = CacheAct.call act >>= fun a => CacheAct.call (next a) := by
  apply Act.ext_run
  intro s
  simp only [CacheAct.call, Act.run_bind, Act.run_onPart]
  obtain ⟨_ | a, effects, left⟩ := act.run s.analyzer
  · rfl
  · rfl

theorem acts_disposeUnit (answers : alike.RespectedBy setup.analyzer) (world : ω)
    {owned owned' : Owned υ} (both : Option.Rel alike.Units owned.held owned'.held) :
    alike.Acts path Eq (CacheAct.call (owned.disposeUnit setup.analyzer world))
      (CacheAct.call (owned'.disposeUnit setup.analyzer world)) := by
  obtain ⟨held⟩ := owned
  obtain ⟨held'⟩ := owned'
  cases both with
  | none => exact fun _ _ start => ⟨.ok rfl, .nil, start⟩
  | some units => exact acts_callDisposeUnit answers world units .explicit

theorem acts_dropUnit (answers : alike.RespectedBy setup.analyzer) (world : ω)
    {owned owned' : Owned υ} (both : Option.Rel alike.Units owned.held owned'.held) :
    alike.Acts path Eq (CacheAct.call (owned.dropUnit setup.analyzer world))
      (CacheAct.call (owned'.dropUnit setup.analyzer world)) := by
  obtain ⟨held⟩ := owned
  obtain ⟨held'⟩ := owned'
  cases both with
  | none => exact fun _ _ start => ⟨.ok rfl, .nil, start⟩
  | some units =>
    simp only [Owned.dropUnit, call_bind]
    refine .bind (acts_callDisposeUnit answers world units .dropped) ?_
    rintro outcome - rfl
    cases outcome with
    | ok => exact fun _ _ start => ⟨.ok rfl, .nil, start⟩
    | error => exact fun _ _ start => ⟨.ok rfl, .cons (.event _) .nil, start⟩

/-! ## Requests that do alike -/

theorem acts_disposeEntry (answers : alike.RespectedBy setup.analyzer) (world : ω)
    {entry entry' : Entry υ} (entries : alike.Entries entry entry') :
    alike.Acts path Eq (setup.disposeEntry world entry) (setup.disposeEntry world entry') := by
  unfold Setup.disposeEntry
  rw [entries.path]
  refine .bind (acts_disposeUnit answers world entries.unit).attempt fun _ outcome ended => ?_
  rw [ended.eq]
  exact acts_noteDisposal setup _ _

theorem acts_remove (answers : alike.RespectedBy setup.analyzer) (world : ω) :
    alike.Acts path Eq (setup.remove world path) (setup.remove world path) := by
  refine .bind .state fun s s' start => ?_
  have gone (table : PathTable (Entry υ)) : (table.erase path).find? path = none :=
    table.find?_erase_of_same (SameKey.refl path)
  rcases start.found with ⟨unknown, unknown'⟩ | ⟨entry, entry', found, found', entries⟩
  · simp only [unknown, unknown']
    exact .pure rfl
  · simp only [found, found']
    refine .bind (acts_setTable ?_) fun _ _ _ => .bind (acts_announce setup path _) fun _ _ _ =>
      acts_disposeEntry answers world entries
    rw [gone, gone]
    exact .none

theorem acts_lend :
    alike.Acts path (Option.Rel alike.Lent) (setup.lend path) (setup.lend path) := by
  refine .bind .state fun s s' start => ?_
  rcases start.found with ⟨unknown, unknown'⟩ | ⟨entry, entry', found, found', entries⟩
  · simp only [unknown, unknown']
    exact .pure .none
  · simp only [found, found']
    refine .map (.bind (acts_get entries.unit _) fun unit unit' units => ?_)
      fun _ _ lent => .some lent
    exact .pure ⟨entries.path, units, rfl⟩

theorem acts_insert {entry entry' : Entry υ} (entries : alike.Entries entry entry')
    (table table' : PathTable (Entry υ)) :
    alike.Acts path Eq (CacheAct.setTable (table.insert path entry))
      (CacheAct.setTable (table'.insert path entry')) := by
  apply acts_setTable
  rw [table.find?_insert_of_same entry (SameKey.refl path),
    table'.find?_insert_of_same entry' (SameKey.refl path)]
  exact .some entries

theorem acts_refresh (answers : alike.RespectedBy setup.analyzer) (world : ω) (time : FileTime)
    (reason : String) :
    alike.Acts path (Option.Rel alike.Lent) (setup.refresh world path time reason)
      (setup.refresh world path time reason) := by
  refine .bind (acts_announce setup path reason) fun _ _ _ => .bind .state fun s s' start => ?_
  rcases start.found with ⟨unknown, unknown'⟩ | ⟨entry, entry', found, found', entries⟩
  · simp only [unknown, unknown']
    exact .pure .none
  · simp only [found, found']
    refine .bind (acts_get entries.unit _) fun unit unit' units =>
      .bind (acts_callReparse answers world units _) ?_
    rintro ⟨after, answer⟩ ⟨after', answer'⟩ ⟨afters, same⟩
    obtain rfl : answer = answer' := same
    have refreshed : alike.Entries { entry with time, unit := .hold after }
        { entry' with time, unit := .hold after' } :=
      ⟨entries.path, entries.args, rfl, .some afters⟩
    have kept : alike.Entries { entry with unit := .hold after }
        { entry' with unit := .hold after' } :=
      ⟨entries.path, entries.args, entries.time, .some afters⟩
    cases answer with
    | value _ =>
      exact .bind (acts_insert refreshed _ _) fun _ _ _ =>
        .bind (acts_conclude setup path _) fun _ _ _ => acts_lend
    | fault message => exact .bind (acts_insert kept _ _) fun _ _ _ => acts_fail setup _
    | panic payload => exact .bind (acts_insert kept _ _) fun _ _ _ => .raise payload

theorem acts_store (answers : alike.RespectedBy setup.analyzer) (world : ω)
    {entry entry' : Entry υ} (entries : alike.Entries entry entry') :
    alike.Acts path Eq (setup.store world path entry) (setup.store world path entry') := by
  refine .bind .state fun s s' start => .bind (acts_insert entries _ _) fun _ _ _ => ?_
  -- Nothing is ever replaced here, but that is not needed to see that both do the same.
  rcases start.found with ⟨unknown, unknown'⟩ | ⟨replaced, replaced', found, found', both⟩
  · simp only [unknown, unknown']
    exact .pure rfl
  · simp only [found, found']
    exact acts_dropUnit answers world both.unit

theorem acts_parseAnew (answers : alike.RespectedBy setup.analyzer) (world : ω)
    (args : List String) (time : FileTime) :
    alike.Acts path (Option.Rel alike.Lent) (setup.parseAnew world path args time)
      (setup.parseAnew world path args time) := by
  refine .bind (acts_remove answers world) fun _ _ _ => .bind .state fun s s' start => ?_
  have contexts := start.context
  generalize s.context = context? at contexts ⊢
  generalize s'.context = context'? at contexts ⊢
  cases contexts with
  | none => exact acts_fail setup _
  | some owned =>
    refine .bind (acts_announce setup path _) fun _ _ _ =>
      .bind (acts_get owned _) fun context context' contexts =>
        .bind (acts_callParse answers world contexts path _ _) fun parsed parsed' ended => ?_
    cases ended with
    | error message => exact acts_fail setup _
    | ok units =>
      exact .bind (acts_store answers world ⟨rfl, rfl, rfl, .some units⟩) fun _ _ _ =>
        .bind (acts_conclude setup path _) fun _ _ _ => acts_lend

theorem needed_alike {cached cached' : Option (Entry υ)}
    (entries : Option.Rel alike.Entries cached cached') (args : List String) (time : FileTime)
    (force : Bool) :
    Action.needed cached args time force = Action.needed cached' args time force := by
  cases entries with
  | none => rfl
  | @some entry entry' entries =>
    obtain ⟨_, _, _, _⟩ := entry
    obtain ⟨_, _, _, _⟩ := entry'
    obtain ⟨-, rfl, rfl, -⟩ := entries
    rfl

theorem acts_serve (answers : alike.RespectedBy setup.analyzer) (moment : Moment ω)
    (force : Bool) :
    alike.Acts path (Option.Rel alike.Lent) (setup.serve moment path force)
      (setup.serve moment path force) := by
  refine .bind (acts_announce setup path _) fun _ _ _ => ?_
  cases setup.argsFor? moment.world path with
  | none => exact .bind (acts_log _) fun _ _ _ => .pure .none
  | some args =>
    cases moment.fileTime path with
    | error fault => exact acts_fail setup _
    | ok time =>
      refine .bind .state fun s s' start => ?_
      rw [needed_alike start.entry args time force]
      cases Action.needed (s'.table.find? path) args time force with
      | hit => exact .bind (acts_conclude setup path _) fun _ _ _ => acts_lend
      | forcedReparse | changedOnDisk => exact acts_refresh answers moment.world time _
      | rebuild => exact acts_parseAnew answers moment.world args time

theorem acts_prime (answers : alike.RespectedBy setup.analyzer) (moment : Moment ω) :
    alike.Acts path Eq (setup.prime moment path) (setup.prime moment path) := by
  refine .bind .state fun s s' start => ?_
  simp only [SortedTable.contains_eq_isSome]
  rcases start.found with ⟨unknown, unknown'⟩ | ⟨entry, entry', found, found', -⟩
  · simp only [unknown, unknown']
    exact (acts_serve answers moment false).discard
  · simp only [found, found']
    exact .pure rfl

theorem acts_reprime (answers : alike.RespectedBy setup.analyzer) (moment : Moment ω) :
    alike.Acts path Eq (setup.reprime moment path) (setup.reprime moment path) := by
  refine .bind .state fun s s' start => ?_
  simp only [SortedTable.contains_eq_isSome]
  rcases start.found with ⟨unknown, unknown'⟩ | ⟨entry, entry', found, found', -⟩
  · simp only [unknown, unknown']
    exact .pure rfl
  · simp only [found, found']
    exact (acts_serve answers moment false).discard

theorem acts_request (answers : alike.RespectedBy setup.analyzer) (moment : Moment ω)
    {request : Request υ} (about : request.file? = some path) :
    alike.Acts path alike.Responses (request.act setup moment) (request.act setup moment) := by
  have done (a a' : Unit) (_ : a = a') :
      alike.Responses (Request.done a : Response ω υ) (Request.done a') := .done
  cases request with
  | serve other force =>
    obtain rfl : other = path := by simpa [Request.file?] using about
    exact (acts_serve answers moment force).map fun _ _ => .unit
  | prime other =>
    obtain rfl : other = path := by simpa [Request.file?] using about
    exact (acts_prime answers moment).map done
  | reprime other =>
    obtain rfl : other = path := by simpa [Request.file?] using about
    exact (acts_reprime answers moment).map done
  | remove other =>
    obtain rfl : other = path := by simpa [Request.file?] using about
    exact (acts_remove answers moment.world).map done
  | _ => simp [Request.file?] at about

end Likeness

end SourceIndex
