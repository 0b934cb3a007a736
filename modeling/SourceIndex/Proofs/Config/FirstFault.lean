import Mathlib.Data.Prod.Lex
import SourceIndex.Proofs.Config.Validity

/-!
# The first fault of a configuration

A configuration is accepted exactly when it has no fault, and otherwise the fault that is told is
one that it really has, and the first one in the order in which a reader would look for them: the
settings, the arguments for every file, and then the tables key by key.
-/

namespace SourceIndex

/-! ## Order of faults -/

namespace ConfigFault

/-- Where a fault is looked for: the part of the configuration, the key of the table, and the check
that is made there. -/
def position : ConfigFault → Nat × String × Nat
  | verbosityTooHigh _ => (0, "", 0)
  | emptyDefaultArgument => (1, "", 0)
  | extensionShape extension => (2, extension, 0)
  | extensionNotLowercase extension => (2, extension, 1)
  | emptyExtensionArgument extension => (2, extension, 2)
  | emptyFilePath => (3, "", 0)
  | emptyFileArgument file => (3, file, 1)

/-- Keys come in the order of the tables. -/
def Before (a b : ConfigFault) : Prop :=
  Prod.Lex (· < ·) (Prod.Lex Text.Before (· < ·)) a.position b.position

theorem Before.iff {a b : ConfigFault} :
    a.Before b ↔ a.position.1 < b.position.1 ∨ (a.position.1 = b.position.1 ∧
      (Text.Before a.position.2.1 b.position.2.1 ∨
        (a.position.2.1 = b.position.2.1 ∧ a.position.2.2 < b.position.2.2))) := by
  simp only [Before, Prod.lex_def]

theorem Before.asymm {a b : ConfigFault} (before : a.Before b) : ¬ b.Before a := by
  have irrefl := Text.keyOrder.irrefl
  have asymm : ∀ {x y : String}, Text.Before x y → ¬ Text.Before y x :=
    fun less less' => irrefl _ (Text.keyOrder.trans less less')
  rw [Before.iff] at before ⊢
  grind

theorem Before.of_check {a b : ConfigFault} (part : a.position.1 = b.position.1)
    (key : a.position.2.1 = b.position.2.1) (check : a.position.2.2 < b.position.2.2) :
    a.Before b := Before.iff.2 (.inr ⟨part, .inr ⟨key, check⟩⟩)

theorem Before.of_part {a b : ConfigFault} (part : a.position.1 < b.position.1) : a.Before b :=
  Before.iff.2 (.inl part)

/-! ## Messages -/

/-- How a message begins. -/
def front : ConfigFault → String
  | verbosityTooHigh _ => "index."
  | emptyDefaultArgument => "arguments.default"
  | extensionShape _ | extensionNotLowercase _ => "arguments.extensions "
  | emptyExtensionArgument _ => "arguments.extensions."
  | emptyFilePath => "arguments.files "
  | emptyFileArgument _ => "arguments.files."

theorem front_isPrefix (fault : ConfigFault) : fault.front.toList <+: fault.message.toList := by
  cases fault <;> unfold front message <;> simp

def fronts : List String := ["index.", "arguments.default", "arguments.extensions ",
  "arguments.extensions.", "arguments.files ", "arguments.files."]

theorem front_mem (fault : ConfigFault) : fault.front ∈ fronts := by
  cases fault <;> simp [front, fronts]

theorem eq_of_isPrefix : ∀ a ∈ fronts, ∀ b ∈ fronts, a.toList <+: b.toList → a = b := by
  decide

theorem front_eq_of_message_eq {a b : ConfigFault} (same : a.message = b.message) :
    a.front = b.front := by
  have begins := a.front_isPrefix
  rw [same] at begins
  rcases List.prefix_or_prefix_of_prefix begins b.front_isPrefix with begins | begins
  · exact eq_of_isPrefix _ a.front_mem _ b.front_mem begins
  · exact (eq_of_isPrefix _ b.front_mem _ a.front_mem begins).symm

theorem message_shape_ne {extension extension' : String} :
    (extensionShape extension).message ≠ (extensionNotLowercase extension').message := by
  intro same
  have ends := congrArg (List.reverse ∘ String.toList) same
  unfold message at ends
  simp at ends

theorem message_injective : Function.Injective message := by
  intro a b same
  have same_front := front_eq_of_message_eq same
  cases a <;> cases b
  case extensionShape.extensionNotLowercase => exact absurd same message_shape_ne
  case extensionNotLowercase.extensionShape => exact absurd same.symm message_shape_ne
  all_goals try (simp [front] at same_front; done)
  all_goals unfold message at same
  case verbosityTooHigh a b =>
    have shown : a.toNat.repr = b.toNat.repr := by simpa using same
    have digits : Nat.toDigits 10 a.toNat = Nat.toDigits 10 b.toNat := String.ofList_inj.1 shown
    have value := congrArg (Nat.ofDigitChars 10 · 0) digits
    rw [Nat.ofDigitChars_ten_toDigits, Nat.ofDigitChars_ten_toDigits] at value
    rw [UInt8.toNat_inj.1 value]
  all_goals simp_all

end ConfigFault

/-! ## First faults -/

/-- The fault is one of those that there are, and it comes before all others. -/
def ConfigFault.IsFirst (has : ConfigFault → Prop) (fault : ConfigFault) : Prop :=
  has fault ∧ ∀ other, has other → fault = other ∨ fault.Before other

/-- What was found is the first of the faults that there are. -/
def Finds (has : ConfigFault → Prop) : Option ConfigFault → Prop
  | none => ∀ fault, ¬ has fault
  | some fault => fault.IsFirst has

namespace Finds

variable {has has' : ConfigFault → Prop} {found found' : Option ConfigFault}

theorem congr (finds : Finds has found) (same : ∀ fault, has fault ↔ has' fault) :
    Finds has' found := by
  obtain rfl : has = has' := funext fun fault => propext (same fault)
  exact finds

theorem eq_some_iff (finds : Finds has found) {fault : ConfigFault} :
    found = some fault ↔ fault.IsFirst has := by
  constructor
  · rintro rfl
    exact finds
  · rintro ⟨real, first⟩
    cases found with
    | none => exact absurd real (finds fault)
    | some fault' =>
      obtain ⟨real', first'⟩ := finds
      rcases first' fault real with rfl | before
      · rfl
      rcases first fault' real' with rfl | before'
      · rfl
      · exact absurd before' before.asymm

theorem check (wrong : Prop) [Decidable wrong] (fault : ConfigFault) :
    Finds (fun other => wrong ∧ other = fault) (if wrong then some fault else none) := by
  split
  next real =>
    refine ⟨⟨real, rfl⟩, ?_⟩
    rintro other ⟨-, rfl⟩
    exact .inl rfl
  next free => exact fun other real => free real.1

theorem or (finds : Finds has found) (finds' : Finds has' found')
    (before : ∀ fault other, has fault → has' other → fault.Before other) :
    Finds (fun fault => has fault ∨ has' fault) (found.or found') := by
  cases found with
  | some fault =>
    refine ⟨.inl finds.1, ?_⟩
    rintro other (real | real)
    · exact finds.2 other real
    · exact .inr (before fault other finds.1 real)
  | none =>
    rw [Option.none_or]
    refine finds'.congr fun fault => ?_
    simp [finds fault]

theorem findSome? {α : Type} {entries : List α} {check : α → Option ConfigFault}
    {has : α → ConfigFault → Prop} (finds : ∀ entry ∈ entries, Finds (has entry) (check entry))
    (before : entries.Pairwise fun entry entry' =>
      ∀ fault other, has entry fault → has entry' other → fault.Before other) :
    Finds (fun fault => ∃ entry ∈ entries, has entry fault) (entries.findSome? check) := by
  induction entries with
  | nil => simp [Finds]
  | cons first rest ih =>
    obtain ⟨before_rest, before⟩ := List.pairwise_cons.1 before
    obtain ⟨finds_first, finds⟩ := List.forall_mem_cons.1 finds
    have found := finds_first.or (ih finds before) fun fault other real ⟨entry, mem, real'⟩ =>
      before_rest entry mem fault other real real'
    have split : (first :: rest).findSome? check = (check first).or (rest.findSome? check) := by
      rw [List.findSome?_cons]
      cases check first <;> rfl
    rw [split]
    exact found.congr fun fault => by simp

end Finds

/-! ## Faults of a configuration -/

/-- Nothing is wrong with the configuration. -/
structure Config.Valid (config : Config) : Prop where
  verbosity : config.index.verbosity ≤ 3
  arguments : config.arguments.Valid

/-- What is wrong with one entry of the arguments by extension. -/
inductive Arguments.ExtensionHas : String × List String → ConfigFault → Prop
  | shape {extension arguments} (odd : extension = "" ∨ extension.toList.head? = some '.') :
    ExtensionHas (extension, arguments) (.extensionShape extension)
  | capital {extension arguments} (capital : extension.toList.any Text.isUppercase) :
    ExtensionHas (extension, arguments) (.extensionNotLowercase extension)
  | argument {extension arguments} (empty : "" ∈ arguments) :
    ExtensionHas (extension, arguments) (.emptyExtensionArgument extension)

/-- What is wrong with one entry of the arguments by file. -/
inductive Arguments.FileHas : String × List String → ConfigFault → Prop
  | path {arguments} : FileHas ("", arguments) .emptyFilePath
  | argument {file arguments} (empty : "" ∈ arguments) :
    FileHas (file, arguments) (.emptyFileArgument file)

/-- The configuration really has the fault. -/
inductive Config.Has (config : Config) : ConfigFault → Prop
  | verbosity (high : 3 < config.index.verbosity) :
    config.Has (.verbosityTooHigh config.index.verbosity)
  | argument (empty : "" ∈ config.arguments.default) : config.Has .emptyDefaultArgument
  | extension {entry fault} (mem : entry ∈ config.arguments.extensions.entries)
    (wrong : Arguments.ExtensionHas entry fault) : config.Has fault
  | file {entry fault} (mem : entry ∈ config.arguments.files.entries)
    (wrong : Arguments.FileHas entry fault) : config.Has fault

namespace Arguments

theorem ExtensionHas.position_eq {entry : String × List String} {fault : ConfigFault}
    (wrong : ExtensionHas entry fault) : ∃ check, fault.position = (2, entry.1, check) := by
  cases wrong <;> exact ⟨_, rfl⟩

theorem FileHas.position_eq {entry : String × List String} {fault : ConfigFault}
    (wrong : FileHas entry fault) : ∃ check, fault.position = (3, entry.1, check) := by
  cases wrong <;> exact ⟨_, rfl⟩

theorem finds_extensionFault? (entry : String × List String) :
    Finds (ExtensionHas entry) (extensionFault? entry) := by
  obtain ⟨extension, arguments⟩ := entry
  rw [extensionFault?]
  split
  next odd =>
    refine ⟨.shape odd, fun other wrong => ?_⟩
    cases wrong with
    | shape => exact .inl rfl
    | capital => exact .inr (.of_check rfl rfl (by simp [ConfigFault.position]))
    | argument => exact .inr (.of_check rfl rfl (by simp [ConfigFault.position]))
  next plain =>
  split
  next capital =>
    refine ⟨.capital capital, fun other wrong => ?_⟩
    cases wrong with
    | shape odd => exact absurd odd plain
    | capital => exact .inl rfl
    | argument => exact .inr (.of_check rfl rfl (by simp [ConfigFault.position]))
  next small =>
  split
  next empty =>
    refine ⟨.argument empty, fun other wrong => ?_⟩
    cases wrong with
    | shape odd => exact absurd odd plain
    | capital capital => exact absurd capital small
    | argument => exact .inl rfl
  next filled =>
    intro fault wrong
    cases wrong with
    | shape odd => exact plain odd
    | capital capital => exact small capital
    | argument empty => exact filled empty

theorem finds_fileFault? (entry : String × List String) :
    Finds (FileHas entry) (fileFault? entry) := by
  obtain ⟨file, arguments⟩ := entry
  rw [fileFault?]
  split
  next nameless =>
    subst nameless
    refine ⟨.path, fun other wrong => ?_⟩
    cases wrong with
    | path => exact .inl rfl
    | argument => exact .inr (.of_check rfl rfl (by simp [ConfigFault.position]))
  next named =>
  split
  next empty =>
    refine ⟨.argument empty, fun other wrong => ?_⟩
    cases wrong with
    | path => exact absurd rfl named
    | argument => exact .inl rfl
  next filled =>
    intro fault wrong
    cases wrong with
    | path => exact named rfl
    | argument empty => exact filled empty

theorem finds_entries {part : Nat} {has : String × List String → ConfigFault → Prop}
    {check : String × List String → Option ConfigFault}
    (finds : ∀ entry, Finds (has entry) (check entry))
    (position_eq : ∀ entry fault, has entry fault → ∃ step, fault.position = (part, entry.1, step))
    (table : Dictionary (List String)) :
    Finds (fun fault => ∃ entry ∈ table.entries, has entry fault)
      (table.entries.findSome? check) := by
  refine .findSome? (fun entry _ => finds entry) (table.sorted.imp ?_)
  intro entry entry' before fault other wrong wrong'
  obtain ⟨step, eq⟩ := position_eq entry fault wrong
  obtain ⟨step', eq'⟩ := position_eq entry' other wrong'
  rw [ConfigFault.Before.iff, eq, eq']
  exact .inr ⟨rfl, .inl before⟩

end Arguments

namespace Config

theorem finds_fault? (config : Config) : Finds config.Has config.fault? := by
  have verbosity := Finds.check (maxVerbosity < config.index.verbosity)
    (.verbosityTooHigh config.index.verbosity)
  have argument := Finds.check ("" ∈ config.arguments.default) .emptyDefaultArgument
  have extension := Arguments.finds_entries Arguments.finds_extensionFault?
    (fun _ _ => Arguments.ExtensionHas.position_eq) config.arguments.extensions
  have file := Arguments.finds_entries Arguments.finds_fileFault?
    (fun _ _ => Arguments.FileHas.position_eq) config.arguments.files
  have extension_part : ∀ fault, (∃ entry ∈ config.arguments.extensions.entries,
      Arguments.ExtensionHas entry fault) → fault.position.1 = 2 := by
    rintro fault ⟨entry, -, wrong⟩
    obtain ⟨check, eq⟩ := wrong.position_eq
    rw [eq]
  have file_part : ∀ fault, (∃ entry ∈ config.arguments.files.entries,
      Arguments.FileHas entry fault) → fault.position.1 = 3 := by
    rintro fault ⟨entry, -, wrong⟩
    obtain ⟨check, eq⟩ := wrong.position_eq
    rw [eq]
  have tables := extension.or file fun fault other wrong wrong' => .of_part <| by
    rw [extension_part fault wrong, file_part other wrong']
    decide
  have arguments := argument.or tables fun fault other wrong wrong' => .of_part <| by
    rw [wrong.2]
    rcases wrong' with wrong' | wrong'
    · rw [extension_part other wrong']
      decide
    · rw [file_part other wrong']
      decide
  have all := verbosity.or arguments fun fault other wrong wrong' => .of_part <| by
    rw [wrong.2]
    rcases wrong' with ⟨-, rfl⟩ | wrong' | wrong'
    · exact Nat.zero_lt_one
    · rw [extension_part other wrong']
      exact Nat.zero_lt_two
    · rw [file_part other wrong']
      exact Nat.zero_lt_succ 2
  refine all.congr fun fault => ?_
  constructor
  · rintro (⟨high, rfl⟩ | ⟨empty, rfl⟩ | ⟨entry, mem, wrong⟩ | ⟨entry, mem, wrong⟩)
    · exact .verbosity high
    · exact .argument empty
    · exact .extension mem wrong
    · exact .file mem wrong
  · rintro (high | empty | ⟨mem, wrong⟩ | ⟨mem, wrong⟩)
    · exact .inl ⟨high, rfl⟩
    · exact .inr (.inl ⟨empty, rfl⟩)
    · exact .inr (.inr (.inl ⟨_, mem, wrong⟩))
    · exact .inr (.inr (.inr ⟨_, mem, wrong⟩))

theorem fault?_eq_none_iff {config : Config} : config.fault? = none ↔ config.Valid := by
  have verbosity : config.index.fault? = none ↔ config.index.verbosity ≤ 3 := by
    rw [Settings.fault?, ite_eq_right_iff]
    simp [maxVerbosity]
  rw [fault?, Option.or_eq_none_iff, verbosity, Arguments.fault?_eq_none_iff]
  exact ⟨fun ⟨verbosity, arguments⟩ => ⟨verbosity, arguments⟩,
    fun valid => ⟨valid.verbosity, valid.arguments⟩⟩

end Config

/-- A configuration is accepted exactly when it is valid, and then it is loaded as it was read. Of
any other the first fault is told, in words that no other fault has. -/
theorem first_fault_is_told (config : Config) (text : String) :
    (config.fault? = none ↔ config.Valid) ∧
    (∀ fault, config.fault? = some fault ↔ fault.IsFirst config.Has) ∧
    (Config.load text = .ok config ↔ Config.parse text = .ok config ∧ config.Valid) ∧
    (∀ fault, Config.load text = .error (.invalid fault) ↔
      ∃ read, Config.parse text = .ok read ∧ fault.IsFirst read.Has) ∧
    Function.Injective ConfigFault.message := by
  refine ⟨Config.fault?_eq_none_iff, fun fault => config.finds_fault?.eq_some_iff, ?_,
    fun fault => ?_, ConfigFault.message_injective⟩
  · rw [Config.load_eq_ok_iff, Config.fault?_eq_none_iff]
  · rw [Config.load_eq_invalid_iff]
    simp only [(Config.finds_fault? _).eq_some_iff]

/-- A dot comes before a capital letter. -/
example :
    let arguments : Arguments :=
      ⟨["-Wall"], [], .ofList [("C", ["-std=c11"]), (".h", [""])], .ofList [("", [])]⟩
    Config.fault? ⟨.default, arguments⟩ = some (.extensionShape ".h") := by
  decide +kernel

end SourceIndex
