import SourceIndex.Inbox
import SourceIndex.Proofs.Cache.Failures

/-!
# What is reported

Each request that fails to serve its file is reported once, as an error that says why, and each
disposal that does not go well is reported once, as a warning. Nothing else is.
-/

namespace SourceIndex

variable {ω σ κ υ : Type}

/-! ## Warnings -/

/-- A call, a diagnostic, or an event that is not just for information. -/
def Effect.isLoud : Effect κ υ → Bool
  | .call _ | .diagnostic _ _ => true
  | .event noted => noted.level == .warn || noted.level == .error

def loud (effects : List (Effect κ υ)) : List (Effect κ υ) := effects.filter Effect.isLoud

/-- Why a disposal that was answered so did not go well. -/
def Answer.complaint? : Answer Unit → Option String
  | .value () => none
  | .fault message => some message
  | .panic (.text message) => some ("analyzer panicked: " ++ message)
  | .panic .unreadable => some "analyzer panicked"

/-- The file that a unit of the table belongs to. -/
def fileOf? (table : PathTable (Entry υ)) (serial : Nat) : Option Path :=
  ((holdings table).find? fun held => held.1 == serial).map (·.2)

/-- What a call has disposed, and what came of that. -/
def Call.disposal? (table : PathTable (Entry υ)) : Call κ υ → Option (String × Answer Unit)
  | .disposeUnit unit _ answer =>
    some ("translation unit " ++ (fileOf? table unit.serial).elim "" Path.shown, answer)
  | .disposeContext _ _ answer => some ("index context", answer)
  | _ => none

/-- A warning in the log, and W001 in the inbox. -/
def warning (inbox : InboxId) (what reason : String) : List (Effect κ υ) :=
  [.event ⟨.warn, "fault while disposing " ++ what ++ ": " ++ reason, []⟩,
    .diagnostic inbox
      ⟨.warning, ⟨.warning, 1⟩, "fault while disposing " ++ what, none, [reason], []⟩]

/-- What is told about a call. -/
def warnings (inbox : InboxId) (table : PathTable (Entry υ)) (call : Call κ υ) :
    List (Effect κ υ) :=
  match call.disposal? table with
  | none => []
  | some (what, answer) => answer.complaint?.elim [] (warning inbox what)

/-- The calls, each with what is told about it. -/
def withWarnings (inbox : InboxId) (table : PathTable (Entry υ)) (calls : List (Call κ υ)) :
    List (Effect κ υ) :=
  calls.flatMap fun call => .call call :: warnings inbox table call

/-! ## Errors -/

/-- The request ended well, but without a unit. -/
def endsUnserved {α : Type} : Except Payload (Option α) → Bool
  | .ok none => true
  | .ok (some _) | .error _ => false

/-- The file that a request should have served and did not. A file for which a provider has no
arguments need not be served. -/
def Setup.failed? (setup : Setup ω σ κ υ) (s : CacheState σ κ υ) (occasion : Occasion ω υ) :
    Option (Path × Bool) :=
  (occasion.request.asks? s.table).filter fun (path, force) =>
    (setup.provider.all fun provider => provider occasion.moment.world path ≠ []) &&
      endsUnserved ((setup.serve occasion.moment path force).run s).result

/-- An error in the log and in the inbox. -/
def errorAbout (inbox : InboxId) (failure : Failure) : List (Effect κ υ) :=
  [.event ⟨.error, failure.message, []⟩, .diagnostic inbox failure.diagnostic]

/-- The cache was destroyed, and nothing is cached for the file with the arguments that it has. -/
def NeededAfterDestroy (setup : Setup ω σ κ υ) (moment : Moment ω) (path : Path)
    (s : CacheState σ κ υ) : Prop :=
  s.context = none ∧ ∃ args time, setup.Provides moment.world path args ∧
    moment.fileTime path = .ok time ∧ ∀ entry, s.table.find? path = some entry → entry.args ≠ args

/-- The diagnostic says for which file a request failed that made these calls, and why. -/
structure Explains (setup : Setup ω σ κ υ) (moment : Moment ω) (path : Path)
    (s : CacheState σ κ υ) (calls : List (Call κ υ)) (diagnostic : Diagnostic) : Prop where
  is_error : diagnostic.severity = .error
  about : diagnostic.path = some path
  known : diagnostic.code.shown ∈ ["E001", "E002", "E003", "E004"]
  unreadable : diagnostic.code.shown = "E001" ↔ ∃ fault, moment.fileTime path = .error fault
  reparse : diagnostic.code.shown = "E002" ↔ ∃ call ∈ calls, call.failsToReparse
  parse : diagnostic.code.shown = "E003" ↔ ∃ call ∈ calls, call.failsToParse
  destroyed : diagnostic.code.shown = "E004" ↔ NeededAfterDestroy setup moment path s

/-- All that was told during a step: the warnings as they came up, and an error at the end if the
request failed. -/
structure Accounted (setup : Setup ω σ κ υ) (inbox : InboxId) (s : CacheState σ κ υ)
    (occasion : Occasion ω υ) : Prop where
  failing : ∀ path force, setup.failed? s occasion = some (path, force) →
    ∃ failure, loud (setup.step s occasion).effects =
        withWarnings inbox s.table (callsOf (setup.step s occasion).effects) ++
          errorAbout inbox failure ∧
      Explains setup occasion.moment path s (callsOf (setup.step s occasion).effects)
        failure.diagnostic
  otherwise : setup.failed? s occasion = none →
    loud (setup.step s occasion).effects =
      withWarnings inbox s.table (callsOf (setup.step s occasion).effects)

/-! ## Telling -/

@[simp] theorem loud_append (first last : List (Effect κ υ)) :
    loud (first ++ last) = loud first ++ loud last := List.filter_append ..

@[simp] theorem loud_call (call : Call κ υ) (rest : List (Effect κ υ)) :
    loud (.call call :: rest) = .call call :: loud rest := rfl

@[simp] theorem withWarnings_append (inbox : InboxId) (table : PathTable (Entry υ))
    (first last : List (Call κ υ)) :
    withWarnings inbox table (first ++ last) =
      withWarnings inbox table first ++ withWarnings inbox table last :=
  List.flatMap_append

namespace Setup

variable {setup : Setup ω σ κ υ} {inbox : InboxId}

@[simp] theorem loud_announced (path : Path) (message : String) :
    loud (setup.announced path message : List (Effect κ υ)) = [] := by
  unfold announced
  split <;> rfl

@[simp] theorem loud_concluded (path : Path) (outcome : String) (rest : List (Effect κ υ)) :
    loud (setup.concluded path outcome :: rest) = loud rest := by
  unfold concluded
  split <;> rfl

theorem loud_told (sink : setup.inbox = some inbox) (failure : Failure) :
    loud (setup.told .error failure : List (Effect κ υ)) = errorAbout inbox failure := by
  simp only [told, sink]
  rfl

theorem loud_disposalNoted (sink : setup.inbox = some inbox) (what : String)
    (answer : Answer Unit) :
    loud (setup.disposalNoted what answer : List (Effect κ υ)) =
      answer.complaint?.elim [] (warning inbox what) := by
  rcases answer with _ | message | _ | _
  all_goals simp only [disposalNoted, disposalFault?, Answer.outcome, told, sink]
  all_goals rfl

end Setup

theorem fileOf?_eq {table : PathTable (Entry υ)} {serial : Nat} {path : Path}
    (once : ((holdings table).map (·.1)).Nodup) (mem : (serial, path) ∈ holdings table) :
    fileOf? table serial = some path := by
  have found : ((holdings table).find? fun held => held.1 == serial).isSome := by
    rw [List.find?_isSome]
    exact ⟨_, mem, by simp⟩
  obtain ⟨held, found⟩ := Option.isSome_iff_exists.1 found
  have same : held.1 = serial := by simpa using List.find?_some found
  -- No other entry holds a unit with this number.
  have eq := List.inj_on_of_nodup_map once (List.mem_of_find?_eq_some found) mem same
  rw [fileOf?, found, eq]
  rfl

/-! ## Quiet effects -/

/-- Nothing is told but the warnings about the calls. -/
def Quiet (inbox : InboxId) (table : PathTable (Entry υ)) (effects : List (Effect κ υ)) : Prop :=
  loud effects = withWarnings inbox table (callsOf effects)

namespace Quiet

variable {setup : Setup ω σ κ υ} {inbox : InboxId} {table : PathTable (Entry υ)}

theorem nil : Quiet inbox table ([] : List (Effect κ υ)) := rfl

theorem append {first last : List (Effect κ υ)} (quiet : Quiet inbox table first)
    (quiet' : Quiet inbox table last) : Quiet inbox table (first ++ last) := by
  unfold Quiet at *
  rw [loud_append, callsOf_append, withWarnings_append, quiet, quiet']

theorem announced (path : Path) (message : String) :
    Quiet inbox table (setup.announced path message : List (Effect κ υ)) := by
  unfold Quiet
  rw [Setup.loud_announced, Setup.callsOf_announced]
  rfl

theorem call {call : Call κ υ} (no_disposal : call.disposal? table = none) :
    Quiet inbox table ([.call call] : List (Effect κ υ)) := by
  simp [Quiet, loud, Effect.isLoud, withWarnings, warnings, no_disposal]

theorem concluded (path : Path) (outcome : String) :
    Quiet inbox table ([setup.concluded path outcome] : List (Effect κ υ)) := by
  unfold Quiet
  rw [Setup.loud_concluded, Setup.callsOf_concluded]
  rfl

theorem disposal (sink : setup.inbox = some inbox) {call : Call κ υ} {what : String}
    {answer : Answer Unit} (disposes : call.disposal? table = some (what, answer)) :
    Quiet inbox table (.call call :: setup.disposalNoted what answer) := by
  unfold Quiet
  rw [loud_call, Setup.loud_disposalNoted sink, callsOf_call, Setup.callsOf_disposalNoted]
  simp [withWarnings, warnings, disposes]

end Quiet

namespace Setup

variable {setup : Setup ω σ κ υ} {inbox : InboxId} {s : CacheState σ κ υ} {world : ω} {path : Path}

theorem disposal?_eq {entry : Entry υ} {unit : Handle υ} {release : Release}
    {answer : Answer Unit} (once : ((holdings s.table).map (·.1)).Nodup) {key : Path}
    (mem : (key, entry) ∈ s.table.entries) (held : entry.unit = .hold unit) :
    (.disposeUnit unit release answer : Call κ υ).disposal? s.table =
      some ("translation unit " ++ entry.path.shown, answer) := by
  have listed := mem_holdings.2 ⟨_, mem, Entry.holding?_of_held held⟩
  rw [Call.disposal?, fileOf?_eq once listed]
  rfl

theorem Removes.quiet {ran : Ran (CacheState σ κ υ) (Effect κ υ) Unit}
    (removes : setup.Removes world path s ran) (sink : setup.inbox = some inbox)
    (once : ((holdings s.table).map (·.1)).Nodup) : Quiet inbox s.table ran.effects := by
  cases removes with
  | absent => exact .nil
  | present found held =>
    obtain ⟨cached, mem, same, rfl⟩ := SortedTable.find?_eq_some_iff.1 found
    exact (Quiet.announced path _).append (.disposal sink (disposal?_eq once mem held))

theorem quiet_of_disposals (sink : setup.inbox = some inbox)
    (once : ((holdings s.table).map (·.1)).Nodup) {list : List (Path × Entry υ)}
    {pieces : List (List (Effect κ υ))} (listed : ∀ cached ∈ list, cached ∈ s.table.entries)
    (disposals : List.Forall₂ setup.Disposal list pieces) :
    Quiet inbox s.table pieces.flatten := by
  induction disposals with
  | nil => exact .nil
  | @cons cached piece rest pieces disposal _ ih =>
    obtain ⟨unit, answer, held, rfl⟩ := disposal
    have mem := listed cached List.mem_cons_self
    rw [List.flatten_cons]
    have others := ih fun other mem => listed other (.tail _ mem)
    refine .append (.append (.announced cached.1 _) ?_) others
    exact .disposal sink (disposal?_eq once mem held)

end Setup

/-! ## Serving -/

theorem Failure.code_shown (failure : Failure) : failure.diagnostic.code.shown =
    match failure with
    | unreadable _ _ => "E001"
    | reparseFailed _ _ => "E002"
    | parseFailed _ _ => "E003"
    | destroyed _ => "E004"
    | disposeFailed _ _ => "W001" := by
  cases failure with
  | unreadable => exact (by decide : Diagnostic.Code.shown ⟨.error, 1⟩ = "E001")
  | reparseFailed => exact (by decide : Diagnostic.Code.shown ⟨.error, 2⟩ = "E002")
  | parseFailed => exact (by decide : Diagnostic.Code.shown ⟨.error, 3⟩ = "E003")
  | destroyed => exact (by decide : Diagnostic.Code.shown ⟨.error, 4⟩ = "E004")
  | disposeFailed => exact (by decide : Diagnostic.Code.shown ⟨.warning, 1⟩ = "W001")

/-- What is told while a file is served that is to be indexed. -/
structure Told (setup : Setup ω σ κ υ) (inbox : InboxId) (moment : Moment ω) (path : Path)
    (s : CacheState σ κ υ)
    (ran : Ran (CacheState σ κ υ) (Effect κ υ) (Option (LentUnit ω υ))) : Prop where
  served : endsUnserved ran.result = false → Quiet inbox s.table ran.effects
  unserved : endsUnserved ran.result = true → ∃ first failure,
    ran.effects = first ++ setup.told .error failure ∧ Quiet inbox s.table first ∧
      Explains setup moment path s (callsOf ran.effects) failure.diagnostic

section

variable {setup : Setup ω σ κ υ} {inbox : InboxId} {moment : Moment ω} {path : Path}
  {s : CacheState σ κ υ} {time : FileTime}

theorem Told.announced {ran : Ran (CacheState σ κ υ) (Effect κ υ) (Option (LentUnit ω υ))}
    (told : Told setup inbox moment path s ran) (message : String) :
    Told setup inbox moment path s
      ⟨ran.result, setup.announced path message ++ ran.effects, ran.state⟩ := by
  refine ⟨fun served => (Quiet.announced path message).append (told.served served), ?_⟩
  intro unserved
  obtain ⟨first, failure, effects, quiet, explains⟩ := told.unserved unserved
  refine ⟨setup.announced path message ++ first, failure, ?_,
    (Quiet.announced path message).append quiet, by simpa using explains⟩
  rw [effects, List.append_assoc]

theorem explains_unreadable {fault : FileFault} (unreadable : moment.fileTime path = .error fault) :
    Explains setup moment path s ([] : List (Call κ υ))
      (Failure.unreadable path fault).diagnostic := by
  refine ⟨rfl, rfl, ?_, ?_, ?_, ?_, ?_⟩
  all_goals simp [Failure.code_shown, NeededAfterDestroy, unreadable]

theorem explains_reparse (readable : moment.fileTime path = .ok time) (alive : s.context ≠ none)
    (unit : Handle υ) (buffers : List Buffer) (after : υ) (message : String) :
    Explains setup moment path s [.reparse unit buffers after (.fault message)]
      (Failure.reparseFailed path message).diagnostic := by
  refine ⟨rfl, rfl, ?_, ?_, ?_, ?_, ?_⟩
  all_goals simp [Failure.code_shown, NeededAfterDestroy, readable, alive, Call.failsToReparse,
    Call.failsToParse, Answer.isValue]

theorem explains_parse (readable : moment.fileTime path = .ok time) (alive : s.context ≠ none)
    {calls : List (Call κ υ)}
    (succeed : ∀ call ∈ calls, call.failsToReparse = false ∧ call.failsToParse = false)
    (context : Handle κ) (args : List String) (buffers : List Buffer) (message : String) :
    Explains setup moment path s
      (calls ++ [.parse context path args buffers (.fault message)])
      (Failure.parseFailed path message).diagnostic := by
  have no_reparse : ∀ call ∈ calls, ¬ call.failsToReparse = true := by
    intro call mem
    simp [(succeed call mem).1]
  refine ⟨rfl, rfl, ?_, ?_, ?_, ?_, ?_⟩
  · simp [Failure.code_shown]
  · simp [Failure.code_shown, readable]
  · simp only [Failure.code_shown, List.mem_append, List.mem_singleton, or_and_right, exists_or]
    simpa [Call.failsToReparse] using no_reparse
  · simp [Failure.code_shown, Call.failsToParse, Answer.isValue]
  · simp [Failure.code_shown, NeededAfterDestroy, alive]

theorem explains_destroyed (readable : moment.fileTime path = .ok time)
    (needed : NeededAfterDestroy setup moment path s) {calls : List (Call κ υ)}
    (succeed : ∀ call ∈ calls, call.failsToReparse = false ∧ call.failsToParse = false) :
    Explains setup moment path s calls (Failure.destroyed path).diagnostic := by
  have no_reparse : ¬ ∃ call ∈ calls, call.failsToReparse := by
    rintro ⟨call, mem, fails⟩
    simp [(succeed call mem).1] at fails
  have no_parse : ¬ ∃ call ∈ calls, call.failsToParse := by
    rintro ⟨call, mem, fails⟩
    simp [(succeed call mem).2] at fails
  refine ⟨rfl, rfl, ?_, ?_, ?_, ?_, ?_⟩
  all_goals simp [Failure.code_shown, readable, needed]
  · simpa using no_reparse
  · simpa using no_parse

end

namespace Setup

variable {setup : Setup ω σ κ υ} {inbox : InboxId} {moment : Moment ω} {path : Path}
  {force : Bool} {s : CacheState σ κ υ} {time : FileTime}

theorem Refreshes.told {reason : String} {entry : Entry υ} {unit : Handle υ}
    {ran : Ran (CacheState σ κ υ) (Effect κ υ) (Option (LentUnit ω υ))}
    (refreshes : setup.Refreshes moment.world path time reason s entry unit ran)
    (readable : moment.fileTime path = .ok time) (alive : s.context ≠ none) :
    Told setup inbox moment path s ran := by
  have called (after : υ) (answer : Answer Unit) : Quiet inbox s.table
      (setup.announced path reason ++
        [.call (.reparse unit (setup.overlay moment.world) after answer)]) :=
    .append (.announced path reason) (.call rfl)
  cases refreshes with
  | @reparsed after =>
    refine ⟨fun _ => ?_, by simp [endsUnserved]⟩
    simpa using (called after _).append (.concluded path "reparsed")
  | @failed message after =>
    refine ⟨by simp [endsUnserved], fun _ => ⟨_, .reparseFailed path message, ?_,
      called after (.fault message), ?_⟩⟩
    · simp
    · simpa using explains_reparse readable alive unit (setup.overlay moment.world) after message
  | panicked => exact ⟨fun _ => called _ _, by simp [endsUnserved]⟩

theorem Parses.told {args : List String}
    {ran : Ran (CacheState σ κ υ) (Effect κ υ) (Option (LentUnit ω υ))}
    (parses : setup.Parses moment.world path args time s ran) (sink : setup.inbox = some inbox)
    (once : ((holdings s.table).map (·.1)).Nodup)
    (indexable : setup.argsFor? moment.world path = some args)
    (readable : moment.fileTime path = .ok time)
    (outdated : ∀ entry, s.table.find? path = some entry → entry.args ≠ args) :
    Told setup inbox moment path s ran := by
  have called {removed : Ran (CacheState σ κ υ) (Effect κ υ) Unit}
      (removes : setup.Removes moment.world path s removed) (context : Handle κ)
      (answer : Answer (Handle υ)) : Quiet inbox s.table
        (removed.effects ++ setup.announced path "creating new index" ++
          [.call (.parse context path (setup.parseArgs args) (setup.overlay moment.world)
            answer)]) :=
    .append (.append (removes.quiet sink once) (.announced path _)) (.call rfl)
  cases parses with
  | destroyed removes gone =>
    -- Without a context the table is empty, but whatever was removed would be told anyway.
    refine ⟨by simp [endsUnserved], fun _ => ⟨_, _, rfl, removes.quiet sink once, ?_⟩⟩
    have needed : NeededAfterDestroy setup moment path s :=
      ⟨gone, args, time, argsFor?_eq_some_iff.1 indexable, readable, outdated⟩
    simpa using explains_destroyed readable needed fun call => removes.calls_succeed
  | parsed removes =>
    refine ⟨fun _ => ?_, by simp [endsUnserved]⟩
    simpa using (called removes _ _).append (.concluded path "parsed")
  | @failed removed context message inner removes alive =>
    refine ⟨by simp [endsUnserved],
      fun _ => ⟨_, .parseFailed path message, ?_, called removes context (.fault message), ?_⟩⟩
    · simp
    · simpa using explains_parse readable (by simp [alive]) (fun call => removes.calls_succeed)
        context (setup.parseArgs args) (setup.overlay moment.world) message
  | panicked removes => exact ⟨fun _ => called removes _ _, by simp [endsUnserved]⟩

theorem Serves.told {log : List (Call κ υ)} (books : Books log s) (sound : Sound s)
    (sink : setup.inbox = some inbox)
    {ran : Ran (CacheState σ κ υ) (Effect κ υ) (Option (LentUnit ω υ))}
    (serves : setup.Serves moment path force s ran)
    (to_index : setup.argsFor? moment.world path ≠ none) :
    Told setup inbox moment path s ran := by
  cases serves with
  | unindexable no_args => exact absurd no_args to_index
  | unreadable indexable unreadable =>
    refine ⟨by simp [endsUnserved], fun _ => ⟨_, _, rfl, .announced path _, ?_⟩⟩
    simpa using explains_unreadable unreadable
  | hit =>
    exact ⟨fun _ => .append (.announced path _) (.concluded path _), by simp [endsUnserved]⟩
  | refreshed indexable readable found held stale refreshes =>
    obtain ⟨context, alive⟩ := books.alive_of_found sound found
    exact (refreshes.told readable (by simp [alive])).announced _
  | rebuilt indexable readable outdated parses =>
    exact (parses.told sink books.once indexable readable outdated).announced _

end Setup

/-! ## Every step -/

section

variable {setup : Setup ω σ κ υ} {inbox : InboxId} {s : CacheState σ κ υ}
  {occasion : Occasion ω υ} {log : List (Call κ υ)}

theorem Does.quiet {effects : List (Effect κ υ)} {s' : CacheState σ κ υ}
    (does : Does setup occasion s effects s') (books : Books log s)
    (sink : setup.inbox = some inbox) (unasked : occasion.request.asks? s.table = none) :
    Quiet inbox s.table effects := by
  have listed (walk : Walk (Path × Entry υ)) : ∀ cached ∈ walk.arrange s.table.entries,
      cached ∈ s.table.entries := fun cached => (walk.perm _).mem_iff.1
  cases does with
  | nothing => exact .nil
  | served asks =>
    rw [unasked] at asks
    contradiction
  | removed removes => exact removes.quiet sink books.once
  | cleared disposals => exact Setup.quiet_of_disposals sink books.once (listed _) disposals
  | closed alive disposals =>
    exact (Setup.quiet_of_disposals sink books.once (listed _) disposals).append
      (.disposal sink rfl)
  | read | set => exact .call rfl

theorem Setup.failed?_of_asks {path : Path} {force : Bool}
    (asks : occasion.request.asks? s.table = some (path, force)) :
    setup.failed? s occasion =
      if (setup.argsFor? occasion.moment.world path).isSome &&
        endsUnserved ((setup.serve occasion.moment path force).run s).result
      then some (path, force) else none := by
  rw [failed?, asks, Option.filter_some, isSome_argsFor?]

theorem accounted_of_asks (books : Books log s) (sound : Sound s) (sink : setup.inbox = some inbox)
    {path : Path} {force : Bool} (asks : occasion.request.asks? s.table = some (path, force)) :
    Accounted setup inbox s occasion := by
  have serves := setup.serves_serve sound occasion.moment path force
  have failed := setup.failed?_of_asks asks
  obtain ⟨effects_eq, -⟩ := setup.step_of_asks occasion.moment asks
  generalize (setup.serve occasion.moment path force).run s = ran at serves failed effects_eq
  -- A file that is not to be indexed has not failed, and neither has one whose unit is served.
  cases no_args : setup.argsFor? occasion.moment.world path with
  | none =>
    refine ⟨by simp [failed, no_args], fun _ => ?_⟩
    rw [effects_eq]
    cases serves with
    | unindexable => exact (Quiet.announced path _).append rfl
    | unreadable indexable | hit indexable | refreshed indexable | rebuilt indexable =>
      simp [no_args] at indexable
  | some args =>
    have told := serves.told books sound sink (by simp [no_args])
    cases unserved : endsUnserved ran.result with
    | false =>
      refine ⟨by simp [failed, unserved], fun _ => ?_⟩
      rw [effects_eq]
      exact told.served unserved
    | true =>
      refine ⟨?_, by simp [failed, unserved, no_args]⟩
      intro path' force' asked
      simp only [failed, no_args, unserved, Option.isSome_some, Bool.and_self, if_true,
        Option.some.injEq, Prod.mk.injEq] at asked
      obtain ⟨rfl, rfl⟩ := asked
      obtain ⟨first, failure, effects, quiet, explains⟩ := told.unserved unserved
      refine ⟨failure, ?_, by rw [effects_eq]; exact explains⟩
      rw [effects_eq, effects, loud_append, Setup.loud_told sink, callsOf_append,
        Setup.callsOf_told, List.append_nil, quiet]

/-- Whatever a cache is asked, all that goes wrong is told, and nothing else is. -/
theorem accounted_step (books : Books log s) (sound : Sound s) (sink : setup.inbox = some inbox)
    (occasion : Occasion ω υ) : Accounted setup inbox s occasion := by
  cases asks : occasion.request.asks? s.table with
  | some asked => exact accounted_of_asks books sound sink asks
  | none =>
    refine ⟨by simp [Setup.failed?, asks], fun _ => ?_⟩
    exact (Does.step setup sound occasion).quiet books sink asks

end

/-! ## The inbox -/

def Effect.diagnosticIn? (inbox : InboxId) : Effect κ υ → Option Diagnostic
  | .diagnostic other told => if other = inbox then some told else none
  | .call _ | .event _ => none

/-- The errors that reach an inbox. -/
def errorsIn (inbox : InboxId) (effects : List (Effect κ υ)) : Nat :=
  (effects.filterMap (Effect.diagnosticIn? inbox)).countP fun told => told.severity.isError

/-- What becomes of an inbox that gets its diagnostics from these effects and is emptied every now
and then. -/
inductive Inbox.Receives (inbox : InboxId) : Inbox → List (Effect κ υ) → Inbox → Prop
  | nothing {box} : Receives inbox box [] box
  | add {box effect diagnostic rest box'} (told : effect.diagnosticIn? inbox = some diagnostic)
      (receives : Receives inbox (box.add diagnostic) rest box') :
      Receives inbox box (effect :: rest) box'
  | other {box effect rest box'} (none_told : effect.diagnosticIn? inbox = none)
      (receives : Receives inbox box rest box') : Receives inbox box (effect :: rest) box'
  | emptied {box effects box'} (receives : Receives inbox box.takeAll.2 effects box') :
      Receives inbox box effects box'

theorem errorsIn_append (inbox : InboxId) (first last : List (Effect κ υ)) :
    errorsIn inbox (first ++ last) = errorsIn inbox first + errorsIn inbox last := by
  simp [errorsIn]

theorem Inbox.Receives.errorCount_eq {inbox : InboxId} {box box' : Inbox}
    {effects : List (Effect κ υ)} (receives : Receives inbox box effects box') :
    box'.errorCount = box.errorCount + .ofNat (errorsIn inbox effects) := by
  induction receives with
  | nothing => simp [errorsIn]
  | @add box effect diagnostic rest box' told _ ih =>
    rw [ih]
    cases is_error : diagnostic.severity.isError with
    | true =>
      have one_more : errorsIn inbox (effect :: rest) = 1 + errorsIn inbox rest := by
        simp [errorsIn, told, is_error, Nat.add_comm]
      rw [one_more, UInt64.ofNat_add, ← UInt64.add_assoc]
      simp [Inbox.add, is_error]
    | false => simp [errorsIn, told, is_error, Inbox.add]
  | other none_told _ ih => simpa [errorsIn, none_told] using ih
  | emptied _ ih => simpa using ih

theorem Inbox.receives_foldl (inbox : InboxId) (box : Inbox) (effects : List (Effect κ υ)) :
    Receives inbox box effects
      ((effects.filterMap (Effect.diagnosticIn? inbox)).foldl Inbox.add box) := by
  induction effects generalizing box with
  | nil => exact .nothing
  | cons effect rest ih =>
    cases told : effect.diagnosticIn? inbox with
    | none =>
      rw [List.filterMap_cons_none told]
      exact .other told (ih box)
    | some diagnostic =>
      rw [List.filterMap_cons_some told]
      exact .add told (ih _)

theorem errorsIn_loud (inbox : InboxId) (effects : List (Effect κ υ)) :
    errorsIn inbox (loud effects) = errorsIn inbox effects := by
  unfold errorsIn loud
  rw [List.filterMap_filter]
  congr 2
  funext effect
  cases effect <;> simp [Effect.isLoud, Effect.diagnosticIn?]

theorem errorsIn_withWarnings (inbox : InboxId) (table : PathTable (Entry υ))
    (calls : List (Call κ υ)) : errorsIn inbox (withWarnings inbox table calls) = 0 := by
  induction calls with
  | nil => rfl
  | cons call rest ih =>
    rw [← List.singleton_append, withWarnings_append, errorsIn_append, ih]
    simp only [withWarnings, warnings, List.flatMap_cons, List.flatMap_nil, List.append_nil]
    cases call.disposal? table with
    | none => rfl
    | some disposal => cases answered : disposal.2.complaint? <;>
        simp [answered, errorsIn, Effect.diagnosticIn?, warning, Severity.isError]

theorem Accounted.errorsIn_eq {setup : Setup ω σ κ υ} {inbox : InboxId} {s : CacheState σ κ υ}
    {occasion : Occasion ω υ} (accounted : Accounted setup inbox s occasion) :
    errorsIn inbox (setup.step s occasion).effects =
      if (setup.failed? s occasion).isSome then 1 else 0 := by
  rw [← errorsIn_loud]
  cases failed : setup.failed? s occasion with
  | none => simp [accounted.otherwise failed, errorsIn_withWarnings]
  | some asked =>
    obtain ⟨failure, told, explains⟩ := accounted.failing _ _ failed
    rw [told, errorsIn_append, errorsIn_withWarnings]
    simp [errorsIn, errorAbout, Effect.diagnosticIn?, List.filterMap_cons, explains.is_error,
      Severity.isError]

/-! ## Whole runs -/

theorem errorsIn_visits {setup : Setup ω σ κ υ} {inbox : InboxId}
    {visits : List (CacheState σ κ υ × Occasion ω υ)}
    (accounted : ∀ visit ∈ visits, Accounted setup inbox visit.1 visit.2) :
    errorsIn inbox (visits.flatMap fun visit => (setup.step visit.1 visit.2).effects) =
      visits.countP fun visit => (setup.failed? visit.1 visit.2).isSome := by
  induction visits with
  | nil => rfl
  | cons visit rest ih =>
    rw [List.flatMap_cons, errorsIn_append, (accounted visit List.mem_cons_self).errorsIn_eq,
      ih fun other mem => accounted other (.tail _ mem), List.countP_cons, Nat.add_comm]

/-- In every run of a cache with an inbox all that goes wrong is told, in order, and nothing else
is. So the inbox counts the requests that failed. -/
theorem failures_are_reported_once {setup : Setup ω σ κ υ} {built : List (Call κ υ)}
    {start : CacheState σ κ υ} {inbox : InboxId} (opened : Opened setup built start)
    (sink : setup.inbox = some inbox) (occasions : List (Occasion ω υ)) :
    (∀ visit ∈ setup.visits start occasions, Accounted setup inbox visit.1 visit.2) ∧
      ∀ box, Inbox.Receives inbox .empty
          ((setup.history start occasions).flatMap (·.ran.effects)) box →
        box.errorCount = .ofNat ((setup.visits start occasions).countP fun visit =>
          (setup.failed? visit.1 visit.2).isSome) := by
  have accounted : ∀ visit ∈ setup.visits start occasions,
      Accounted setup inbox visit.1 visit.2 := by
    intro visit mem
    obtain ⟨before, found⟩ := setup.mem_visits mem
    obtain ⟨books, sound⟩ := (Books.opened opened).after opened.sound before
    rw [← found] at books sound
    exact accounted_step books sound sink visit.2
  refine ⟨accounted, fun box receives => ?_⟩
  rw [receives.errorCount_eq, setup.history_eq_visits, List.flatMap_map, errorsIn_visits accounted]
  simp [Inbox.empty]

/-- A reparse is refused, a disposal panics, and then a file is asked for too late. That makes two
errors and a warning. A file without arguments makes neither. -/
theorem failures_are_reported_once_of_three :
    let inbox : InboxId := ⟨0⟩
    let plan := Blueprint.ofClauses
      [.inbox inbox, .provider fun _ path => if path = .ofText "notes" then [] else ["-w"]]
    let setup := plan.setup (Simulation.scripted id)
    let time : FileTime := ⟨0, by decide, by decide⟩
    let refusing := Simulation.Script.empty.set .reparse (some ⟨.refuse "busy", none⟩)
    let panicking := Simulation.Script.empty.set .disposeUnit (some ⟨.panic .unreadable, none⟩)
    let occasions := [Scripted.occasion time .empty (.serve (.ofText "a") false),
      Scripted.occasion time .empty (.serve (.ofText "notes") false),
      Scripted.occasion time refusing (.serve (.ofText "a/") true),
      Scripted.occasion time panicking (.destroy .inOrder),
      Scripted.occasion time .empty (.prime (.ofText "b"))]
    let effects := (setup.history Scripted.start occasions).flatMap (·.ran.effects)
    let box := (effects.filterMap (Effect.diagnosticIn? inbox)).foldl Inbox.add .empty
    box.waiting.map (·.code) = [⟨.error, 2⟩, ⟨.warning, 1⟩, ⟨.error, 4⟩] ∧
      (∀ visit ∈ setup.visits Scripted.start occasions,
        Accounted setup inbox visit.1 visit.2) ∧
      box.errorCount = 2 := by
  intro inbox plan setup time refusing panicking occasions effects box
  have opened : Opened setup Scripted.built Scripted.start :=
    ⟨plan, .empty, _, .start .start, _, rfl, rfl, rfl, rfl, rfl⟩
  obtain ⟨accounted, counted⟩ := failures_are_reported_once opened rfl occasions
  have two_fail : ((setup.visits Scripted.start occasions).countP fun visit =>
      (setup.failed? visit.1 visit.2).isSome) = 2 := by
    decide +kernel +zetaReduce
  rw [two_fail] at counted
  refine ⟨?_, accounted, counted box (Inbox.receives_foldl inbox .empty effects)⟩
  decide +kernel +zetaReduce

end SourceIndex
