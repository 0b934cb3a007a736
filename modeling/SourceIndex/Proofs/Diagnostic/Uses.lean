import SourceIndex.Inbox
import Mathlib.Data.List.DropRight

/-!
# Uses of an inbox

An inbox is filled, looked at and emptied, in any order. All that was ever put in was taken out
since or waits still, once and in order, and the errors among it are counted for good.
-/

namespace SourceIndex

/-! ## Uses -/

/-- What can be done with an inbox. -/
inductive InboxUse where
  | add (d : Diagnostic)
  | takeAll
  | look
  | lookFor (path : Path)

namespace InboxUse

/-- What is shown of an inbox, and the inbox afterwards. -/
def act (inbox : Inbox) : InboxUse → List Diagnostic × Inbox
  | add d => ([], inbox.add d)
  | takeAll => inbox.takeAll
  | look => (inbox.waiting, inbox)
  | lookFor path => (inbox.waitingFor path, inbox)

def added? : InboxUse → Option Diagnostic
  | add d => some d
  | takeAll | look | lookFor _ => none

def takes : InboxUse → Bool
  | takeAll => true
  | add _ | look | lookFor _ => false

end InboxUse

/-- All that was put in, in order. -/
def addedBy (uses : List InboxUse) : List Diagnostic := uses.filterMap InboxUse.added?

namespace Inbox

def after (inbox : Inbox) : List InboxUse → Inbox
  | [] => inbox
  | use :: rest => after (use.act inbox).2 rest

/-- What was shown each time that everything was taken out, one after the other. -/
def taken (inbox : Inbox) : List InboxUse → List Diagnostic
  | [] => []
  | use :: rest =>
    (if use.takes then (use.act inbox).1 else []) ++ taken (use.act inbox).2 rest

variable {inbox : Inbox}

theorem after_append (inbox : Inbox) (first last : List InboxUse) :
    inbox.after (first ++ last) = (inbox.after first).after last := by
  induction first generalizing inbox with
  | nil => rfl
  | cons use rest ih => exact ih _

/-! ## What waits -/

theorem taken_act (inbox : Inbox) (use : InboxUse) :
    (if use.takes then (use.act inbox).1 else []) ++ (use.act inbox).2.waiting =
      inbox.waiting ++ use.added?.toList := by
  cases use <;> simp [InboxUse.takes, InboxUse.act, InboxUse.added?, takeAll]

theorem taken_append_waiting (inbox : Inbox) (uses : List InboxUse) :
    inbox.taken uses ++ (inbox.after uses).waiting = inbox.waiting ++ addedBy uses := by
  induction uses generalizing inbox with
  | nil => simp [taken, after, addedBy]
  | cons use rest ih =>
    have added : addedBy (use :: rest) = use.added?.toList ++ addedBy rest := by
      cases said : use.added? <;> simp [addedBy, said]
    rw [taken, after, List.append_assoc, ih, ← List.append_assoc, taken_act, List.append_assoc,
      added]

theorem waiting_after (uses : List InboxUse) :
    (empty.after uses).waiting = addedBy (uses.rtakeWhile (! ·.takes)) := by
  induction uses using List.reverseRecOn with
  | nil => rfl
  | append_singleton uses use ih =>
    have last : ((empty.after uses).after [use]).waiting =
        (use.act (empty.after uses)).2.waiting := rfl
    rw [after_append, last]
    cases taking : use.takes with
    | true =>
      cases use <;> simp_all [InboxUse.takes, InboxUse.act, takeAll, addedBy]
    | false =>
      have kept := taken_act (empty.after uses) use
      rw [taking, if_neg Bool.false_ne_true, List.nil_append] at kept
      rw [kept, ih, List.rtakeWhile_concat_pos _ _ _ (by simp [taking]), addedBy, addedBy,
        List.filterMap_append]
      cases said : use.added? <;> simp [said]

/-! ## Errors -/

theorem errorCount_after (inbox : Inbox) (uses : List InboxUse) :
    (inbox.after uses).errorCount =
      inbox.errorCount + .ofNat ((addedBy uses).countP (·.severity = .error)) := by
  induction uses generalizing inbox with
  | nil => simp [after, addedBy]
  | cons use rest ih =>
    rw [after, ih]
    cases use with
    | add d =>
      have others : addedBy (.add d :: rest) = d :: addedBy rest := rfl
      rw [others, List.countP_cons]
      cases severity : d.severity <;>
        simp [InboxUse.act, add, severity, Severity.isError, UInt64.add_assoc, UInt64.add_comm]
    | takeAll | look | lookFor => rfl

/-! ## One path -/

theorem waitingFor_eq (inbox : Inbox) (path : Path) :
    inbox.waitingFor path = inbox.waiting.filter fun d => d.path.any fun own => own.Same path := by
  unfold waitingFor
  congr 1
  funext d
  cases own : d.path <;> simp [Diagnostic.isAbout, own]

theorem waitingFor_congr (inbox : Inbox) {path other : Path} (same : path.Same other) :
    inbox.waitingFor path = inbox.waitingFor other := by
  have alike (own : Path) : own.Same path ↔ own.Same other :=
    ⟨fun h => h.trans same, fun h => h.trans same.symm⟩
  simp only [waitingFor_eq, alike]

/-! ## Whole runs -/

/-- What a fresh inbox is after it was used. -/
structure UsedBy (uses : List InboxUse) (inbox : Inbox) : Prop where
  /-- Nothing gets lost, comes twice or changes its place. -/
  in_order : empty.taken uses ++ inbox.waiting = addedBy uses
  since_taken : inbox.waiting = addedBy (uses.rtakeWhile (! ·.takes))
  errors : inbox.errorCount.toNat =
    (addedBy uses).countP (·.severity = .error) % UInt64.size
  /-- Whatever was taken out, and whatever codes were put in. -/
  errors_alike : ∀ other, (addedBy other).map (·.severity) = (addedBy uses).map (·.severity) →
    (empty.after other).errorCount = inbox.errorCount
  hasErrors : inbox.hasErrors = true ↔ 0 < inbox.errorCount.toNat
  about : ∀ path, inbox.waitingFor path =
    inbox.waiting.filter fun d => d.path.any fun own => own.Same path
  respelled : ∀ path other, path.Same other → inbox.waitingFor path = inbox.waitingFor other

/-- However an inbox is used, it neither loses nor doubles nor reorders what is put in, counts all
errors for good, and shows for a path just what is about it. -/
theorem inbox_keeps_everything (uses : List InboxUse) : (empty.after uses).UsedBy uses where
  in_order := empty.taken_append_waiting uses
  since_taken := waiting_after uses
  errors := by
    rw [errorCount_after, empty, UInt64.zero_add, UInt64.toNat_ofNat', UInt64.size]
  errors_alike := by
    intro other same
    have counted (list : List Diagnostic) : list.countP (·.severity = .error) =
        (list.map (·.severity)).countP (· = .error) := by
      rw [List.countP_map]
      rfl
    rw [errorCount_after, errorCount_after, counted, counted, same]
  hasErrors := by
    rw [hasErrors, decide_eq_true_iff, UInt64.lt_iff_toNat_lt]
    rfl
  about := waitingFor_eq _
  respelled _ _ same := waitingFor_congr _ same

end Inbox

end SourceIndex
