import SourceIndex.Native.Adapter
import SourceIndex.Proofs.Path.Spelling
import Mathlib.Data.List.Forall2

/-!
# What the library is handed

A parse or a reparse hands over all of what it was given, in order and byte by byte, or nothing at
all. In the second case it tells of the first thing that cannot be handed over: a path comes before
the arguments, and the arguments come before the buffers.
-/

namespace SourceIndex.Native

variable {ω τ α β γ : Type}

/-! ## Texts -/

/-- Reads as these bytes: they are all in front of the first zero byte. -/
structure ZeroEnded.Holds (ended : ZeroEnded) (bytes : List UInt8) : Prop where
  bytes_eq : ended.bytes = bytes ++ [0]
  text_eq : ended.text = bytes

theorem zero_mem_encode_iff {text : String} : 0 ∈ Utf8.encode text ↔ '\x00' ∈ text.toList :=
  Utf8.mem_encode_iff (by decide)

theorem ZeroEnded.holds {bytes : List UInt8} (no_zero : 0 ∉ bytes) :
    Holds ⟨bytes ++ [0]⟩ bytes where
  bytes_eq := rfl
  text_eq := by
    have all : ∀ b ∈ bytes, decide (b ≠ 0) = true := by
      intro b mem
      exact decide_eq_true fun zero => no_zero (zero ▸ mem)
    rw [text, List.takeWhile_append_of_pos all]
    simp

/-! ## Items -/

/-- One of the texts that are handed over. -/
inductive Item where
  | path (path : Path)
  | argument (text : String)

namespace Item

/-- A path has to be a text, and no text may have a zero in it. -/
def Fits : Item → Prop
  | path p => ∃ text, p = .ofText text ∧ '\x00' ∉ text.toList
  | argument text => '\x00' ∉ text.toList

/-- What is said about an item that cannot be handed over. -/
inductive Offends : Item → String → Prop
  | no_text {p : Path} (no_text : ∀ text, p ≠ .ofText text) :
      Offends (path p) ("path is not UTF-8: " ++ p.shown)
  | zero_in_path {text : String} (zero : '\x00' ∈ text.toList) :
      Offends (path (.ofText text)) ("path contains NUL: " ++ text)
  | zero_in_argument {text : String} (zero : '\x00' ∈ text.toList) :
      Offends (argument text) ("argument contains NUL: " ++ text)

/-- The bytes of an item. -/
def bytes : Item → List UInt8
  | path p => p.bytes
  | argument text => Utf8.encode text

theorem Offends.not_fits {item : Item} {message : String} (offends : item.Offends message) :
    ¬ item.Fits := by
  cases offends with
  | no_text no_text =>
    rintro ⟨text, same, -⟩
    exact no_text text same
  | zero_in_path zero =>
    rintro ⟨text, same, no_zero⟩
    have texts := Utf8.encode_inj.1 (congrArg Path.bytes same)
    exact no_zero (texts ▸ zero)
  | zero_in_argument zero => exact fun no_zero => no_zero zero

end Item

/-- The message is about the first of the items that cannot be handed over. -/
def FirstOffence (items : List Item) (message : String) : Prop :=
  ∃ before item behind, items = before ++ item :: behind ∧ (∀ other ∈ before, other.Fits) ∧
    item.Offends message

theorem FirstOffence.not_all_fit {items : List Item} {message : String}
    (first : FirstOffence items message) : ¬ ∀ item ∈ items, item.Fits := by
  obtain ⟨before, item, behind, rfl, -, offends⟩ := first
  intro all
  exact offends.not_fits (all item (by simp))

/-! ## Handing over -/

/-- Either all items are handed over well, or the first that offends is reported. -/
inductive HandsOver (Good : α → Prop) (items : List Item) : Except Fault α → Prop
  | ok {a : α} (fit : ∀ item ∈ items, item.Fits) (good : Good a) : HandsOver Good items (.ok a)
  | error {fault : Fault} (first : FirstOffence items fault.message) :
    HandsOver Good items (.error fault)

namespace HandsOver

variable {Good : α → Prop} {Good' : β → Prop} {items items' : List Item}

theorem pure {a : α} (good : Good a) : HandsOver Good [] (Pure.pure a) :=
  .ok (by simp) good

theorem bind {first : Except Fault α} {next : α → Except Fault β}
    (hands : HandsOver Good items first)
    (hands' : ∀ a, Good a → HandsOver Good' items' (next a)) :
    HandsOver Good' (items ++ items') (first >>= next) := by
  cases hands with
  | error first =>
    obtain ⟨before, item, behind, rfl, fit, offends⟩ := first
    exact .error ⟨before, item, behind ++ items', by simp, fit, offends⟩
  | @ok a fit good =>
    have second := hands' a good
    change HandsOver Good' (items ++ items') (next a)
    generalize next a = result at second
    cases second with
    | ok fit' good' =>
      refine .ok (fun item mem => ?_) good'
      exact (List.mem_append.1 mem).elim (fit item) (fit' item)
    | error first =>
      obtain ⟨before, item, behind, rfl, fit', offends⟩ := first
      refine .error ⟨items ++ before, item, behind, by simp, fun other mem => ?_, offends⟩
      exact (List.mem_append.1 mem).elim (fit other) (fit' other)

theorem map {result : Except Fault α} {f : α → β} (hands : HandsOver Good items result)
    (good : ∀ a, Good a → Good' (f a)) :
    HandsOver Good' items (result >>= fun a => Pure.pure (f a)) := by
  rw [← List.append_nil items]
  exact hands.bind fun a shown => .pure (good a shown)

theorem mapM {Shows : γ → α → Prop} {item : γ → Item} {convert : γ → Except Fault α}
    (each : ∀ c, HandsOver (Shows c) [item c] (convert c)) (list : List γ) :
    HandsOver (List.Forall₂ Shows list) (list.map item) (list.mapM convert) := by
  induction list with
  | nil => exact .pure .nil
  | cons c rest ih =>
    rw [List.mapM_cons, List.map_cons, ← List.singleton_append]
    exact (each c).bind fun a first => ih.map fun others shown => .cons first shown

end HandsOver

/-! ## Paths and arguments -/

theorem handsOver_zeroEnded {item : Item} {text : String} {fault : Fault}
    (fits : '\x00' ∉ text.toList → item.Fits)
    (offends : '\x00' ∈ text.toList → item.Offends fault.message) :
    HandsOver (fun ended => ended.Holds (Utf8.encode text)) [item]
      (match zeroEnded? text with
        | none => .error fault
        | some ended => .ok ended) := by
  simp only [zeroEnded?, zero_mem_encode_iff]
  by_cases zero : '\x00' ∈ text.toList
  · rw [if_pos zero]
    exact .error ⟨[], item, [], rfl, by simp, offends zero⟩
  · rw [if_neg zero]
    have no_zero : 0 ∉ Utf8.encode text := fun mem => zero (zero_mem_encode_iff.1 mem)
    exact .ok (by simpa using fits zero) (ZeroEnded.holds no_zero)

theorem handsOver_ofArgument (arg : String) :
    HandsOver (fun ended => ended.Holds (Utf8.encode arg)) [.argument arg] (ofArgument arg) :=
  handsOver_zeroEnded id .zero_in_argument

theorem handsOver_ofPath (p : Path) :
    HandsOver (fun ended => ended.Holds p.bytes) [.path p] (ofPath p) := by
  unfold ofPath
  cases read : p.text? with
  | none =>
    refine .error ⟨[], .path p, [], rfl, by simp, .no_text fun text same => ?_⟩
    rw [Path.text?_eq_some_iff.2 same] at read
    cases read
  | some text =>
    obtain rfl := Path.text?_eq_some_iff.1 read
    exact handsOver_zeroEnded (fun no_zero => ⟨text, rfl, no_zero⟩) .zero_in_path

/-! ## Buffers -/

/-- The buffer as the library sees it. -/
structure View.Shows (buffer : Buffer) (view : View) : Prop where
  name : view.name.Holds buffer.path.bytes
  /-- As many bytes as are counted, zero bytes among them. -/
  contents : (Utf8.encode buffer.contents).length < UInt64.size →
    view.contents.take view.length.toNat = Utf8.encode buffer.contents ∧
      view.length.toNat = (Utf8.encode buffer.contents).length

/-- The buffers in order, with their number. -/
structure ShowBuffers (buffers : List Buffer) (shown : Option (List View)) (count : UInt32) :
    Prop where
  views : List.Forall₂ View.Shows buffers (shown.getD [])
  none_iff : shown = none ↔ buffers = []
  count : buffers.length < UInt32.size → count.toNat = buffers.length

theorem handsOver_ofBuffer (buffer : Buffer) :
    HandsOver (View.Shows buffer) [.path buffer.path] (ofBuffer buffer) := by
  refine (handsOver_ofPath buffer.path).map fun name holds => ⟨holds, fun small => ?_⟩
  have length : (UInt64.ofNat (Utf8.encode buffer.contents).length).toNat =
      (Utf8.encode buffer.contents).length := UInt64.toNat_ofNat_of_lt' small
  exact ⟨by rw [length, List.take_length], length⟩

theorem handsOver_ofBuffers (buffers : List Buffer) :
    HandsOver (fun views : Views => ShowBuffers buffers views.buffers views.count)
      (buffers.map fun buffer => .path buffer.path) (ofBuffers buffers) := by
  refine (HandsOver.mapM handsOver_ofBuffer buffers).map fun views shown => ?_
  have lengths := shown.length_eq
  have empty : views = [] ↔ buffers = [] := by
    rw [← List.length_eq_zero_iff, ← List.length_eq_zero_iff, lengths]
  refine ⟨?_, ?_, fun small => ?_⟩
  · by_cases none_shown : views = []
    · simpa [none_shown] using shown
    · simpa [none_shown] using shown
  · simp [empty]
  · rw [lengths]
    exact UInt32.toNat_ofNat_of_lt' (lengths ▸ small)

/-! ## Parsing -/

/-- All that a parse hands over, in the order in which it is looked at. -/
def parseItems (path : Path) (args : List String) (buffers : List Buffer) : List Item :=
  .path path :: (args.map .argument ++ buffers.map fun buffer => .path buffer.path)

def reparseItems (buffers : List Buffer) : List Item :=
  buffers.map fun buffer => .path buffer.path

/-- The request says just what was given. -/
structure ParseRequest.Shows (request : ParseRequest) (index : IndexRef) (path : Path)
    (args : List String) (buffers : List Buffer) : Prop where
  index_eq : request.index = index
  file : request.file.Holds path.bytes
  texts : List.Forall₂ (fun arg ended => ended.Holds (Utf8.encode arg)) args request.args
  argCount : args.length < 0x80000000 → request.argCount.toInt = args.length
  views : ShowBuffers buffers request.buffers request.bufferCount

structure ReparseRequest.Shows (request : ReparseRequest) (unit : UnitRef)
    (buffers : List Buffer) : Prop where
  unit_eq : request.unit = unit
  views : ShowBuffers buffers request.buffers request.bufferCount

theorem handsOver_parseParts (path : Path) (args : List String) (buffers : List Buffer) :
    HandsOver (fun parts : ZeroEnded × List ZeroEnded × Views =>
        parts.1.Holds path.bytes ∧
          List.Forall₂ (fun arg ended => ended.Holds (Utf8.encode arg)) args parts.2.1 ∧
            ShowBuffers buffers parts.2.2.buffers parts.2.2.count)
      (parseItems path args buffers) (Library.parseParts path args buffers) := by
  refine (handsOver_ofPath path).bind fun file file_shown => ?_
  refine (HandsOver.mapM handsOver_ofArgument args).bind fun args args_shown => ?_
  exact (handsOver_ofBuffers buffers).map fun views shown => ⟨file_shown, args_shown, shown⟩

/-! ## Calls -/

namespace Library

variable (library : Library ω τ) (world : ω)

/-- What comes of asking for something to be made. -/
def madeOr {ρ : Type} (message : String) : Option ρ → Answer ρ
  | some ref => .value ref
  | none => .fault message

/-- All that can come of a parse: everything is handed over in one call, or there is no call. -/
inductive Parses (index : IndexRef) (path : Path) (args : List String) (buffers : List Buffer)
    (s : State τ) : Answer UnitRef × State τ → Prop
  | handed {request made after} (fit : ∀ item ∈ parseItems path args buffers, item.Fits)
      (shows : request.Shows index path args buffers)
      (answered : library.parse world request (library.defaultEditingOptions world s.library).2 =
        (made, after)) :
      Parses index path args buffers s
        (madeOr ("clang_parseTranslationUnit returned null for " ++ path.shown) made,
          ⟨after, s.calls ++ [.defaultEditingOptions, .parse request made]⟩)
  | refused {message} (first : FirstOffence (parseItems path args buffers) message) :
      Parses index path args buffers s (.fault message, s)

/-- All that can come of a reparse. The unit is the same unit afterwards. -/
inductive Reparses (unit : UnitRef) (buffers : List Buffer) (s : State τ) :
    Answer Unit × UnitRef × State τ → Prop
  | handed {request code after} (fit : ∀ item ∈ reparseItems buffers, item.Fits)
      (shows : request.Shows unit buffers)
      (answered : library.reparse world request
        (library.defaultReparseOptions world unit s.library).2 = (code, after)) :
      Reparses unit buffers s
        (if code = 0 then .value ()
          else .fault ("clang_reparseTranslationUnit failed with code " ++ toString code.toInt),
          unit, ⟨after, s.calls ++ [.defaultReparseOptions unit, .reparse request code]⟩)
  | refused {message} (first : FirstOffence (reparseItems buffers) message) :
      Reparses unit buffers s (.fault message, unit, s)

theorem parseUnit_of_parts {path : Path} {args : List String} {buffers : List Buffer}
    {file : ZeroEnded} {texts : List ZeroEnded} {views : Views}
    (parts : parseParts path args buffers = .ok (file, texts, views)) (index : IndexRef)
    (s : State τ) :
    library.parseUnit world index path args buffers s =
      let options := library.defaultEditingOptions world s.library
      let request : ParseRequest := ⟨index, file, texts, Int32.ofNat texts.length, views.buffers,
        views.count, options.1⟩
      let answer := library.parse world request options.2
      (madeOr (Fault.noUnit path).message answer.1,
        ⟨answer.2, s.calls ++ [.defaultEditingOptions, .parse request answer.1]⟩) := by
  rw [parseUnit, parts]
  dsimp only
  cases (library.parse world _ _).1 <;> rfl

theorem parses_parseUnit (index : IndexRef) (path : Path) (args : List String)
    (buffers : List Buffer) (s : State τ) :
    library.Parses world index path args buffers s
      (library.parseUnit world index path args buffers s) := by
  have hands := handsOver_parseParts path args buffers
  generalize parts : parseParts path args buffers = result at hands
  cases hands with
  | error first =>
    rw [parseUnit, parts]
    exact .refused first
  | @ok handed fit good =>
    obtain ⟨file, texts, views⟩ := handed
    obtain ⟨file_shown, texts_shown, views_shown⟩ := good
    have argCount (small : args.length < 0x80000000) :
        (Int32.ofNat texts.length).toInt = args.length := by
      rw [← texts_shown.length_eq]
      exact Int32.toInt_ofNat_of_lt small
    rw [library.parseUnit_of_parts world parts]
    exact .handed fit ⟨rfl, file_shown, texts_shown, argCount, views_shown⟩ rfl

theorem reparses_reparseUnit (unit : UnitRef) (buffers : List Buffer) (s : State τ) :
    library.Reparses world unit buffers s (library.reparseUnit world unit buffers s) := by
  have hands := handsOver_ofBuffers buffers
  unfold reparseUnit
  generalize ofBuffers buffers = views at hands
  cases hands with
  | error first => exact .refused first
  | ok fit shown => exact .handed fit ⟨rfl, shown⟩ rfl

variable {library world}

theorem Parses.called_iff {index : IndexRef} {path : Path} {args : List String}
    {buffers : List Buffer} {s : State τ} {ran : Answer UnitRef × State τ}
    (parses : library.Parses world index path args buffers s ran) :
    (∃ request made, ran.2.calls = s.calls ++ [.defaultEditingOptions, .parse request made]) ↔
      ∀ item ∈ parseItems path args buffers, item.Fits := by
  cases parses with
  | @handed request made after fit => exact ⟨fun _ => fit, fun _ => ⟨request, made, rfl⟩⟩
  | refused first => simp [first.not_all_fit]

theorem Reparses.called_iff {unit : UnitRef} {buffers : List Buffer} {s : State τ}
    {ran : Answer Unit × UnitRef × State τ}
    (reparses : library.Reparses world unit buffers s ran) :
    (∃ request code,
        ran.2.2.calls = s.calls ++ [.defaultReparseOptions unit, .reparse request code]) ↔
      ∀ item ∈ reparseItems buffers, item.Fits := by
  cases reparses with
  | @handed request code after fit => exact ⟨fun _ => fit, fun _ => ⟨request, code, rfl⟩⟩
  | refused first => simp [first.not_all_fit]

end Library

end SourceIndex.Native
