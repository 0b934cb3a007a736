import SourceIndex.Cache.Failure
import SourceIndex.Inbox
import SourceIndex.Proofs.Json.RoundTrip

/-!
# The severity in a code

A diagnostic has its severity twice: as its own and in its code. Whatever the library makes itself
has the same in both places. A diagnostic that is read from JSON has in each place what the text
says there, and nothing compares them.
-/

namespace SourceIndex

open Json

namespace Diagnostic

/-! ## Diagnostics that are made -/

/-- The code starts with the letter of the diagnostic's own severity. -/
def Agrees (d : Diagnostic) : Prop := d.code.severity = d.severity

instance (d : Diagnostic) : Decidable d.Agrees := inferInstanceAs (Decidable (_ = _))

/-- What is made without a text to read from. -/
inductive Made : Diagnostic → Prop where
  | error (number : UInt16) (message : String) : Made (.error number message)
  | warning (number : UInt16) (message : String) : Made (.warning number message)
  | withPath {d : Diagnostic} (made : Made d) (path : Path) : Made (d.withPath path)
  | withNote {d : Diagnostic} (made : Made d) (note : String) : Made (d.withNote note)
  | withHelp {d : Diagnostic} (made : Made d) (help : String) : Made (d.withHelp help)

theorem Made.agrees {d : Diagnostic} (made : d.Made) : d.Agrees := by
  induction made with
  | error | warning => rfl
  | withPath _ _ ih | withNote _ _ ih | withHelp _ _ ih => exact ih

end Diagnostic

open Diagnostic in
theorem Failure.made (failure : Failure) : failure.diagnostic.Made := by
  cases failure with
  | unreadable path source => exact ((Made.error _ _).withPath _).withNote _
  | reparseFailed path source => exact (((Made.error _ _).withPath _).withNote _).withHelp _
  | parseFailed path source => exact ((Made.error _ _).withPath _).withNote _
  | destroyed path => exact (Made.error _ _).withPath _
  | disposeFailed what reason => exact (Made.warning _ _).withNote _

namespace Diagnostic

/-! ## What is seen of it -/

/-- How the text of a diagnostic starts. -/
def opening (severity ofCode : Severity) : String :=
  severity.shown ++ "[" ++ ofCode.letter.toString

theorem exists_shown_eq (d : Diagnostic) :
    ∃ rest, d.shown = opening d.severity d.code.severity ++ rest := by
  have code : d.code.shown = d.code.severity.letter.toString ++
      String.ofList (Code.digits d.code.number) := by
    rw [Code.shown, ← String.toList_inj]
    simp
  unfold shown opening
  rw [code]
  simp only [String.append_assoc]
  exact ⟨_, rfl⟩

theorem opening_inj {severity ofCode severity' ofCode' : Severity} {rest rest' : String}
    (same : opening severity ofCode ++ rest = opening severity' ofCode' ++ rest') :
    severity = severity' ∧ ofCode = ofCode' := by
  rw [← String.toList_inj] at same
  cases severity <;> cases severity' <;> cases ofCode <;> cases ofCode' <;>
    simp_all [opening, Severity.shown, Severity.letter]

theorem agrees_iff_shown {d : Diagnostic} :
    d.Agrees ↔ ∃ severity rest, d.shown = opening severity severity ++ rest := by
  obtain ⟨rest, shown⟩ := d.exists_shown_eq
  constructor
  · intro agrees
    exact ⟨d.severity, rest, agrees ▸ shown⟩
  · rintro ⟨severity, rest', alike⟩
    obtain ⟨own, of_code⟩ := opening_inj (shown.symm.trans alike)
    exact of_code.trans own.symm

theorem starts_with_E_iff {code : Code} :
    code.shown.toList.head? = some 'E' ↔ code.severity = .error := by
  cases severity : code.severity <;> simp [Code.shown, severity, Severity.letter]

theorem counted_iff {d : Diagnostic} (inbox : Inbox) :
    (inbox.add d).errorCount = inbox.errorCount + 1 ↔ d.severity = .error := by
  cases severity : d.severity <;> simp [Inbox.add, severity, Severity.isError]

theorem agrees_iff_counted {d : Diagnostic} :
    d.Agrees ↔ ∀ inbox : Inbox, (inbox.add d).errorCount = inbox.errorCount + 1 ↔
      d.code.shown.toList.head? = some 'E' := by
  simp only [counted_iff, starts_with_E_iff]
  have alike : d.Agrees ↔ (d.severity = .error ↔ d.code.severity = .error) := by
    unfold Agrees
    cases d.severity <;> cases d.code.severity <;> decide
  exact alike.trans ⟨fun same _ => same, fun same => same .empty⟩

/-! ## Diagnostics that are read -/

theorem Code.keeps_severity :
    Code.shape.Keeps "severity" 0 Severity.decoder (·.severity)
      fun parts severity => { parts with severity := some severity } where
  fresh := rfl
  filled _ _ := rfl
  own := rfl
  named := rfl
  apart := by
    intro i field other found
    match i, found with
    | 1, rfl => exact ⟨by decide, Field.spares_of fun _ _ => rfl⟩

theorem keeps_severity :
    shape.Keeps "severity" 0 Severity.decoder (·.severity)
      fun parts severity => { parts with severity := some severity } where
  fresh := rfl
  filled _ _ := rfl
  own := rfl
  named := rfl
  apart := by
    intro i field other found
    match i, found with
    | 1, rfl | 2, rfl | 3, rfl | 4, rfl | 5, rfl =>
      exact ⟨by decide, Field.spares_of fun _ _ => rfl⟩

theorem keeps_code :
    shape.Keeps "code" 1 Code.decoder (·.code)
      fun parts code => { parts with code := some code } where
  fresh := rfl
  filled _ _ := rfl
  own := rfl
  named := rfl
  apart := by
    intro i field other found
    match i, found with
    | 0, rfl | 2, rfl | 3, rfl | 4, rfl | 5, rfl =>
      exact ⟨by decide, Field.spares_of fun _ _ => rfl⟩

theorem required_eq_ok {α : Type} {name : String} {part : Option α} {a : α}
    (done : required name part = .ok a) : part = some a := by
  cases part with
  | none => cases done
  | some a' => exact congrArg some (Except.ok.inj done)

/-- A tree says one severity for the diagnostic and one for its code. -/
def Says (json : Json) (severity ofCode : Severity) : Prop :=
  ∃ own code inside, json.field? "severity" 0 = some own ∧ Severity.decoder own = .ok severity ∧
    json.field? "code" 1 = some code ∧ code.field? "severity" 0 = some inside ∧
      Severity.decoder inside = .ok ofCode

theorem Code.severities_of_decoder {json : Json} {code : Code} (read : decoder json = .ok code) :
    ∃ inside, json.field? "severity" 0 = some inside ∧
      Severity.decoder inside = .ok code.severity := by
  obtain ⟨parts, fills, finished⟩ := exists_fills read
  obtain ⟨severity, full, finished⟩ := bind_eq_ok finished
  obtain ⟨number, -, finished⟩ := bind_eq_ok finished
  obtain rfl := Except.ok.inj finished
  exact keeps_severity.read_from fills (required_eq_ok full)

theorem severities_of_decoder {json : Json} {d : Diagnostic} (read : decoder json = .ok d) :
    Says json d.severity d.code.severity := by
  obtain ⟨parts, fills, finished⟩ := exists_fills read
  obtain ⟨severity, own_full, finished⟩ := bind_eq_ok finished
  obtain ⟨code, code_full, finished⟩ := bind_eq_ok finished
  obtain ⟨message, -, finished⟩ := bind_eq_ok finished
  obtain ⟨notes, -, finished⟩ := bind_eq_ok finished
  obtain ⟨help, -, finished⟩ := bind_eq_ok finished
  obtain rfl := Except.ok.inj finished
  obtain ⟨own, own_place, own_read⟩ := keeps_severity.read_from fills (required_eq_ok own_full)
  obtain ⟨tree, code_place, code_read⟩ := keeps_code.read_from fills (required_eq_ok code_full)
  obtain ⟨inside, inside_place, inside_read⟩ := Code.severities_of_decoder code_read
  exact ⟨own, tree, inside, own_place, own_read, code_place, inside_place, inside_read⟩

theorem Says.inj {json : Json} {severity ofCode severity' ofCode' : Severity}
    (said : Says json severity ofCode) (said' : Says json severity' ofCode') :
    severity = severity' ∧ ofCode = ofCode' := by
  obtain ⟨own, code, inside, own_place, own_read, code_place, place, read⟩ := said
  obtain ⟨own', code', inside', own_place', own_read', code_place', place', read'⟩ := said'
  obtain rfl := Option.some.inj (own_place.symm.trans own_place')
  obtain rfl := Option.some.inj (code_place.symm.trans code_place')
  obtain rfl := Option.some.inj (place.symm.trans place')
  exact ⟨Except.ok.inj (own_read.symm.trans own_read'), Except.ok.inj (read.symm.trans read')⟩

theorem readable_iff {d : Diagnostic} :
    (∃ text, ofJson text = .ok d) ↔ ∀ path, d.path = some path → ∃ text, path = .ofText text := by
  constructor
  · rintro ⟨text, read⟩ path own
    obtain ⟨spelling, spelled⟩ := path_of_read read
    rw [spelled] at own
    obtain ⟨name, -, same⟩ := Option.map_eq_some_iff.1 own
    exact ⟨name, same.symm⟩
  · intro textual
    cases written : d.json with
    | ok text => exact ⟨text, (holds written).decode⟩
    | error reason =>
      obtain ⟨path, own, no_text⟩ := d.json_fails_iff.1 ⟨reason, written⟩
      obtain ⟨text, same⟩ := textual path own
      exact absurd same (no_text text)

/-! ## The two severities -/

/-- Where the severity of a diagnostic and that of its code come from, and how it shows when they
differ. -/
structure Told (d : Diagnostic) : Prop where
  made : d.Made → d.Agrees
  failed : ∀ failure : Failure, failure.diagnostic = d → d.Made
  shown : d.Agrees ↔ ∃ severity rest, d.shown = opening severity severity ++ rest
  counted : d.Agrees ↔ ∀ inbox : Inbox, (inbox.add d).errorCount = inbox.errorCount + 1 ↔
    d.code.shown.toList.head? = some 'E'
  /-- A text has a say in both of them. -/
  read : ∀ text, ofJson text = .ok d → Says (Json.read text).root d.severity d.code.severity
  read_agrees : ∀ text, ofJson text = .ok d →
    (d.Agrees ↔ ∃ severity, Says (Json.read text).root severity severity)
  /-- Whether they agree or not, there is a text to read the diagnostic from. -/
  readable : (∃ text, ofJson text = .ok d) ↔
    ∀ path, d.path = some path → ∃ text, path = .ofText text

/-- A diagnostic that is made has one severity. A diagnostic that is read has the two that its text
gives, and any two can be given. -/
theorem severity_agrees_as_told (d : Diagnostic) : d.Told where
  made := Made.agrees
  failed failure same := same ▸ failure.made
  shown := agrees_iff_shown
  counted := agrees_iff_counted
  read _ read := severities_of_decoder (decode_eq_ok_iff.1 read).1
  read_agrees := by
    intro text read
    have said := severities_of_decoder (decode_eq_ok_iff.1 read).1
    constructor
    · intro agrees
      exact ⟨d.severity, agrees ▸ said⟩
    · rintro ⟨severity, alike⟩
      obtain ⟨own, of_code⟩ := said.inj alike
      exact of_code.trans own.symm
  readable := readable_iff

/-- An error whose code is that of a warning. -/
theorem error_read_with_warning_code :
    let code := "\x7b\"severity\":\"Warning\",\"number\":1\x7d"
    let text := "\x7b\"severity\":\"Error\",\"code\":" ++ code ++
      ",\"message\":\"m\",\"path\":null,\"notes\":[],\"help\":[]\x7d"
    ∃ d, (ofJson text).toOption = some d ∧ ¬ d.Agrees ∧ d.shown = "error[W001]: m" ∧
      (Inbox.empty.add d).errorCount = 1 ∧ d.code.shown.toList.head? ≠ some 'E' := by
  exact ⟨⟨.error, ⟨.warning, 1⟩, "m", none, [], []⟩, by decide +kernel⟩

end Diagnostic

end SourceIndex
