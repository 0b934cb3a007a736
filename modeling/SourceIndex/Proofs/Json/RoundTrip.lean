import SourceIndex.Json.Forms
import SourceIndex.Proofs.Json.Fields
import SourceIndex.Proofs.Json.Written
import SourceIndex.Proofs.Path.Spelling

/-!
# Round trips through JSON

Whatever can be written is read back as it was, and whatever is read can be written again. Only a
time before the epoch and a diagnostic whose path is no text cannot be written.
-/

namespace SourceIndex

open Json

/-! ## Reading back -/

namespace Json

variable {ε α β : Type}

theorem ok_bind (a : α) (next : α → Except ε β) : (.ok a >>= next) = next a := rfl

/-- The text is that of a tree, and the tree holds the value. -/
def Holds (decoder : Decoder α) (text : String) (value : α) : Prop :=
  ∃ json, Reads text.toList json ∧ decoder json = .ok value

theorem Holds.decode {decoder : Decoder α} {text : String} {value : α}
    (holds : Holds decoder text value) : decode decoder text = .ok value := by
  obtain ⟨json, reads, held⟩ := holds
  simp [Json.decode, reads.read_eq, held]

section

variable {σ : Type} {shape : Shape σ α} {name : String} {members : List (Json × Json)} {parts : σ}

theorem fillMembers_cons {decoder : Decoder β} {part : σ → Option β} {fill : σ → β → σ}
    {json : Json} {b : β}
    (found : shape.fields.find? (·.name == name) = some (.of name decoder part fill))
    (fresh : part parts = none) (held : decoder json = .ok b) :
    fillMembers shape ((.string (some name), json) :: members) parts =
      fillMembers shape members (fill parts b) := by
  simp [fillMembers, readKey, found, Field.of, fresh, held, bind, Except.bind, Except.map]

theorem record_of_filled (filled : fillMembers shape members shape.start = .ok parts) :
    record shape (.object members true) = shape.finish parts := by
  rw [record, filled]
  rfl

end

theorem natural_of_lt {n bound : Nat} (small : n < bound) (wanted : String) :
    natural bound wanted (.number (.whole n)) = .ok n := by
  simp [natural, small]

theorem list_map {items : List α} {item : Decoder α} {tree : α → Json}
    (held : ∀ a, item (tree a) = .ok a) :
    list item (.array (items.map tree) true) = .ok items := by
  have all : (items.map tree).mapM item = .ok items := by
    induction items with
    | nil => rfl
    | cons a items ih => simp [held, ih, bind, Except.bind, pure, Except.pure]
  simp [list, all, bind, Except.bind]

end Json

/-! ## Choices -/

theorem FileKind.holds (kind : FileKind) : Holds decoder kind.json kind :=
  ⟨_, reads_quote _, by cases kind <;> rfl⟩

theorem Severity.holds (severity : Severity) : Holds decoder severity.json severity :=
  ⟨_, reads_quote _, by cases severity <;> rfl⟩

/-! ## Times -/

namespace FileTime

theorem finish_eq (seconds nanos : Nat) :
    shape.finish ⟨some seconds, some nanos⟩ = distance seconds nanos := rfl

theorem parts_lt {t : FileTime} {n : Nat} (nanos : t.nanos = n) :
    n / perSecond < UInt64.size ∧ n % perSecond < UInt32.size := by
  have below : (n : Int) < bound * perSecond := by
    rw [← nanos]
    exact t.lt_bound
  have seconds : n / perSecond < UInt64.size := by
    simp only [perSecond, bound, UInt64.size] at below ⊢
    omega
  have rest : n % perSecond < UInt32.size := by
    simp only [perSecond, UInt32.size]
    omega
  exact ⟨seconds, rest⟩

theorem decoder_tree {t : FileTime} {n : Nat} (nanos : t.nanos = n) :
    decoder (.object [(.string (some "secs_since_epoch"), .number (.whole (n / perSecond : Nat))),
      (.string (some "nanos_since_epoch"), .number (.whole (n % perSecond : Nat)))] true) =
        .ok t := by
  obtain ⟨seconds, rest⟩ := parts_lt nanos
  have moment : ofDistance n = .ok t := by
    rw [ofDistance, ← nanos, ofNanos?_nanos, Option.elim_some]
  have carried : n % perSecond / perSecond = 0 := Nat.div_eq_of_lt (Nat.mod_lt _ (by decide))
  have whole : distance (n / perSecond) (n % perSecond) = .ok n := by
    rw [distance, if_neg (by omega), Nat.mul_comm, Nat.div_add_mod]
  have filled : fillMembers shape [(.string (some "secs_since_epoch"),
      .number (.whole (n / perSecond : Nat))), (.string (some "nanos_since_epoch"),
        .number (.whole (n % perSecond : Nat)))] shape.start =
      .ok ⟨some (n / perSecond), some (n % perSecond)⟩ := by
    rw [fillMembers_cons rfl rfl (natural_of_lt seconds "u64"),
      fillMembers_cons rfl rfl (natural_of_lt rest "u32"), fillMembers]
  have read := (record_of_filled filled).trans ((finish_eq _ _).trans whole)
  rw [decoder, read, ok_bind, moment]

theorem holds {t : FileTime} {text : String} (written : t.json = .ok text) :
    Holds decoder text t := by
  unfold json at written
  split at written
  next => cases written
  next later =>
    obtain ⟨n, nanos⟩ := Int.eq_ofNat_of_zero_le (Int.not_lt.1 later)
    obtain rfl := Except.ok.inj written
    obtain ⟨seconds, rest⟩ := parts_lt nanos
    have reads := reads_writeObject [
      ("secs_since_epoch", toString (n / perSecond), .number (.whole (n / perSecond : Nat))),
      ("nanos_since_epoch", toString (n % perSecond), .number (.whole (n % perSecond : Nat)))]
      (by
        simp only [List.forall_mem_cons]
        exact ⟨reads_natural (Nat.le_sub_one_of_lt seconds),
          reads_natural (Nat.le_sub_one_of_lt (Nat.lt_trans rest (by decide))), by simp⟩)
    rw [nanos]
    exact ⟨_, reads, decoder_tree nanos⟩

theorem json_fails_iff (t : FileTime) : (∃ reason, t.json = .error reason) ↔ t.nanos < 0 := by
  unfold json
  split <;> simp_all

theorem nanos_of_ofNanos? {nanos : Int} {t : FileTime} (found : ofNanos? nanos = some t) :
    t.nanos = nanos := by
  unfold ofNanos? at found
  split at found
  · cases found
    rfl
  · cases found

theorem nanos_of_read {text : String} {t : FileTime} (read : ofJson text = .ok t) :
    0 ≤ t.nanos := by
  obtain ⟨n, -, moment⟩ := bind_eq_ok (decode_eq_ok_iff.1 read).1
  rw [ofDistance] at moment
  cases found : ofNanos? n with
  | none => simp [found] at moment
  | some t' =>
    obtain rfl : t' = t := by simpa [found] using moment
    rw [nanos_of_ofNanos? found]
    exact Int.natCast_nonneg n

end FileTime

/-! ## Codes -/

namespace Diagnostic.Code

/-- A code as it is read. -/
def tree (code : Diagnostic.Code) : Json :=
  .object [(.string (some "severity"), .string (some code.severity.jsonName)),
    (.string (some "number"), .number (.whole code.number.toNat))] true

theorem decoder_tree (code : Diagnostic.Code) : decoder code.tree = .ok code := by
  have severity : Severity.decoder (.string (some code.severity.jsonName)) = .ok code.severity := by
    cases code.severity <;> rfl
  have number : code.number.toNat < UInt16.size := code.number.toNat_lt
  have filled : fillMembers shape [(.string (some "severity"),
      .string (some code.severity.jsonName)), (.string (some "number"),
        .number (.whole code.number.toNat))] shape.start =
      .ok ⟨some code.severity, some code.number.toNat⟩ := by
    rw [fillMembers_cons rfl rfl severity, fillMembers_cons rfl rfl (natural_of_lt number "u16"),
      fillMembers]
  have finished : shape.finish ⟨some code.severity, some code.number.toNat⟩ =
      .ok ⟨code.severity, UInt16.ofNat code.number.toNat⟩ := rfl
  rw [decoder, tree, record_of_filled filled, finished, UInt16.ofNat_toNat]

theorem reads_tree (code : Diagnostic.Code) : Reads code.json.toList code.tree := by
  have number : code.number.toNat ≤ Number.maxWhole :=
    Nat.le_sub_one_of_lt (Nat.lt_trans code.number.toNat_lt (by decide))
  exact reads_writeObject [
    ("severity", code.severity.json, .string (some code.severity.jsonName)),
    ("number", toString code.number.toNat, .number (.whole code.number.toNat))]
    (by
      simp only [List.forall_mem_cons]
      exact ⟨reads_quote _, reads_natural number, by simp⟩)

theorem holds (code : Diagnostic.Code) : Holds decoder code.json code :=
  ⟨_, code.reads_tree, code.decoder_tree⟩

end Diagnostic.Code

/-! ## Diagnostics -/

namespace Diagnostic

/-- What the path of a diagnostic is read as. -/
def pathTree : Option String → Json
  | none => .null
  | some text => .string (some text)

theorem decoder_pathTree (text : Option String) :
    optional (Json.text "path string") (pathTree text) = .ok text := by
  cases text <;> rfl

theorem pathJson_fails_iff (path : Option Path) :
    (∃ reason, pathJson path = .error reason) ↔
      ∃ own, path = some own ∧ ∀ text, own ≠ .ofText text := by
  cases path with
  | none => simp [pathJson]
  | some own =>
    cases read : own.text? with
    | none =>
      have no_text : ∀ text, own ≠ .ofText text := by
        intro text same
        rw [Path.text?_eq_some_iff.2 same] at read
        cases read
      simp [pathJson, read, no_text]
    | some text =>
      have spelled : ∃ text, own = .ofText text := ⟨text, Path.text?_eq_some_iff.1 read⟩
      simpa [pathJson, read] using spelled

theorem reads_pathJson {path : Option Path} {written : String}
    (wrote : pathJson path = .ok written) :
    ∃ text : Option String, path = text.map .ofText ∧ Reads written.toList (pathTree text) := by
  cases path with
  | none =>
    cases wrote
    exact ⟨none, rfl, reads_null⟩
  | some own =>
    cases read : own.text? with
    | none => simp [pathJson, read] at wrote
    | some text =>
      obtain rfl : quote text = written := by simpa [pathJson, read] using wrote
      exact ⟨some text, congrArg some (Path.text?_eq_some_iff.1 read), reads_quote text⟩

/-- The members of a diagnostic as they are read. -/
def trees (d : Diagnostic) (path : Option String) : List (Json × Json) :=
  let string text := Json.string (some text)
  [(string "severity", string d.severity.jsonName), (string "code", d.code.tree),
    (string "message", string d.message), (string "path", pathTree path),
    (string "notes", .array (d.notes.map string) true),
    (string "help", .array (d.help.map string) true)]

theorem decoder_trees {d : Diagnostic} {path : Option String}
    (spelled : d.path = path.map .ofText) : decoder (.object (d.trees path) true) = .ok d := by
  have severity : Severity.decoder (.string (some d.severity.jsonName)) = .ok d.severity := by
    cases d.severity <;> rfl
  have texts (list : List String) :
      texts (.array (list.map fun text => .string (some text)) true) = .ok list :=
    list_map fun _ => rfl
  have filled : fillMembers shape (d.trees path) shape.start =
      .ok ⟨some d.severity, some d.code, some d.message, some path, some d.notes, some d.help⟩ := by
    rw [trees, fillMembers_cons rfl rfl severity,
      fillMembers_cons rfl rfl d.code.decoder_tree,
      fillMembers_cons rfl rfl (rfl : Json.text "a string" _ = .ok d.message),
      fillMembers_cons rfl rfl (decoder_pathTree path), fillMembers_cons rfl rfl (texts d.notes),
      fillMembers_cons rfl rfl (texts d.help), fillMembers]
  have finished : shape.finish
      ⟨some d.severity, some d.code, some d.message, some path, some d.notes, some d.help⟩ =
      .ok ⟨d.severity, d.code, d.message, path.map .ofText, d.notes, d.help⟩ := rfl
  rw [decoder, record_of_filled filled, finished, ← spelled]

theorem holds {d : Diagnostic} {text : String} (written : d.json = .ok text) :
    Holds decoder text d := by
  obtain ⟨pathText, wrote, done⟩ := bind_eq_ok written
  obtain rfl := Except.ok.inj done
  obtain ⟨path, spelled, reads_path⟩ := reads_pathJson wrote
  let string text := Json.string (some text)
  have reads := reads_writeObject [("severity", d.severity.json, string d.severity.jsonName),
    ("code", d.code.json, d.code.tree), ("message", quote d.message, string d.message),
    ("path", pathText, pathTree path),
    ("notes", writeArray (d.notes.map quote), .array (d.notes.map string) true),
    ("help", writeArray (d.help.map quote), .array (d.help.map string) true)]
    (by
      simp only [List.forall_mem_cons]
      exact ⟨reads_quote _, d.code.reads_tree, reads_quote _, reads_path,
        reads_writeArray reads_quote d.notes, reads_writeArray reads_quote d.help, by simp⟩)
  exact ⟨_, reads, decoder_trees spelled⟩

theorem json_fails_iff (d : Diagnostic) :
    (∃ reason, d.json = .error reason) ↔
      ∃ path, d.path = some path ∧ ∀ text, path ≠ .ofText text := by
  rw [← pathJson_fails_iff]
  unfold json
  cases pathJson d.path <;> simp [bind, Except.bind, pure, Except.pure]

theorem path_of_read {text : String} {d : Diagnostic} (read : ofJson text = .ok d) :
    ∃ path : Option String, d.path = path.map .ofText := by
  obtain ⟨parts, -, finished⟩ := exists_fills (decode_eq_ok_iff.1 read).1
  obtain ⟨severity, -, finished⟩ := bind_eq_ok finished
  obtain ⟨code, -, finished⟩ := bind_eq_ok finished
  obtain ⟨message, -, finished⟩ := bind_eq_ok finished
  obtain ⟨notes, -, finished⟩ := bind_eq_ok finished
  obtain ⟨help, -, finished⟩ := bind_eq_ok finished
  obtain rfl := Except.ok.inj finished
  exact ⟨parts.path.getD none, rfl⟩

end Diagnostic

/-! ## Round trips -/

/-- Writing fails for the unwritable values only, what is written is read back as it was, and what
is read can be written and read again. -/
structure RoundTrips {α : Type} (write : α → Except Unwritable String)
    (read : String → Except Fault α) (Unwritten : α → Prop) : Prop where
  fails_iff : ∀ value, (∃ reason, write value = .error reason) ↔ Unwritten value
  reads_back : ∀ value text, write value = .ok text → read text = .ok value
  writes_again : ∀ text value, read text = .ok value →
    ∃ again, write value = .ok again ∧ read again = .ok value

theorem RoundTrips.of_holds {α : Type} {write : α → Except Unwritable String}
    {decoder : Decoder α} {Unwritten : α → Prop}
    (fails_iff : ∀ value, (∃ reason, write value = .error reason) ↔ Unwritten value)
    (holds : ∀ {value text}, write value = .ok text → Holds decoder text value)
    (writable : ∀ {text value}, decode decoder text = .ok value → ¬ Unwritten value) :
    RoundTrips write (decode decoder) Unwritten where
  fails_iff := fails_iff
  reads_back _ _ written := (holds written).decode
  writes_again := by
    intro text value read
    cases written : write value with
    | error reason => exact absurd ((fails_iff value).1 ⟨reason, written⟩) (writable read)
    | ok again => exact ⟨again, rfl, (holds written).decode⟩

/-- Every kind, time, severity, code and diagnostic survives being written as JSON and read back,
and so does every text that is read as one. -/
theorem json_round_trips :
    RoundTrips (fun kind => .ok (FileKind.json kind)) FileKind.ofJson (fun _ => False) ∧
    RoundTrips FileTime.json FileTime.ofJson (fun t => t.nanos < 0) ∧
    RoundTrips (fun severity => .ok (Severity.json severity)) Severity.ofJson (fun _ => False) ∧
    RoundTrips (fun code => .ok (Diagnostic.Code.json code)) Diagnostic.Code.ofJson
      (fun _ => False) ∧
    RoundTrips Diagnostic.json Diagnostic.ofJson
      (fun d => ∃ path, d.path = some path ∧ ∀ text, path ≠ .ofText text) := by
  refine ⟨.of_holds (by simp) ?_ (by simp), .of_holds FileTime.json_fails_iff FileTime.holds ?_,
    .of_holds (by simp) ?_ (by simp), .of_holds (by simp) ?_ (by simp),
    .of_holds Diagnostic.json_fails_iff Diagnostic.holds ?_⟩
  · rintro kind _ ⟨⟩
    exact kind.holds
  · exact fun read => Int.not_lt.2 (FileTime.nanos_of_read read)
  · rintro severity _ ⟨⟩
    exact severity.holds
  · rintro code _ ⟨⟩
    exact code.holds
  · rintro text d read ⟨path, some_path, no_text⟩
    obtain ⟨text, spelled⟩ := Diagnostic.path_of_read read
    rw [some_path] at spelled
    obtain ⟨own, -, same⟩ := Option.map_eq_some_iff.1 spelled.symm
    exact no_text own same.symm

end SourceIndex
