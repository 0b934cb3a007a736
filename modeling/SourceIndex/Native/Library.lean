import SourceIndex.Analyzer.Basic

/-!
# A native analyzer library

The functions of a shared library that analyzes C-family code, and what they are handed: texts
end with a zero byte, lists come with their lengths, and an empty list of buffers is no list at
all.
-/

namespace SourceIndex.Native

/-! ## What the functions are handed -/

/-- A text as the library sees it: its bytes up to and with the zero byte. -/
structure ZeroEnded where
  bytes : List UInt8
  deriving DecidableEq, Repr

/-- The bytes in front of the first zero byte. -/
def ZeroEnded.text (t : ZeroEnded) : List UInt8 := t.bytes.takeWhile (· ≠ 0)

/-- A buffer of the editor as the library sees it. Its contents are counted, so a zero byte in
them is nothing special. -/
structure View where
  name : ZeroEnded
  contents : List UInt8
  length : UInt64
  deriving DecidableEq, Repr

/-- An index that the library made. -/
structure IndexRef where
  number : Nat
  deriving DecidableEq, Repr

/-- A unit that the library made. -/
structure UnitRef where
  number : Nat
  deriving DecidableEq, Repr

/-- What a file is parsed from. -/
structure ParseRequest where
  index : IndexRef
  file : ZeroEnded
  args : List ZeroEnded
  argCount : Int32
  buffers : Option (List View)
  bufferCount : UInt32
  options : UInt32
  deriving DecidableEq, Repr

structure ReparseRequest where
  unit : UnitRef
  bufferCount : UInt32
  buffers : Option (List View)
  options : UInt32
  deriving DecidableEq, Repr

/-! ## The functions -/

/-- The functions of a library in the world `ω` with a state `τ`. A function that makes something
may answer with nothing. -/
structure Library (ω τ : Type) where
  createIndex : ω → (excludeDeclarationsFromPch displayDiagnostics : Int32) → τ →
    Option IndexRef × τ
  disposeIndex : ω → IndexRef → τ → τ
  getGlobalOptions : ω → IndexRef → τ → UInt32 × τ
  setGlobalOptions : ω → IndexRef → UInt32 → τ → τ
  defaultEditingOptions : ω → τ → UInt32 × τ
  parse : ω → ParseRequest → τ → Option UnitRef × τ
  defaultReparseOptions : ω → UnitRef → τ → UInt32 × τ
  reparse : ω → ReparseRequest → τ → Int32 × τ
  disposeUnit : ω → UnitRef → τ → τ

/-- A call of a function, with what it made if it makes anything. -/
inductive Call where
  | createIndex (excludeDeclarationsFromPch displayDiagnostics : Int32) (made : Option IndexRef)
  | disposeIndex (index : IndexRef)
  | getGlobalOptions (index : IndexRef)
  | setGlobalOptions (index : IndexRef) (bits : UInt32)
  | defaultEditingOptions
  | parse (request : ParseRequest) (made : Option UnitRef)
  | defaultReparseOptions (unit : UnitRef)
  | reparse (request : ReparseRequest) (code : Int32)
  | disposeUnit (unit : UnitRef)
  deriving DecidableEq, Repr

/-- A library at work: its state, and the calls so far. -/
structure State (τ : Type) where
  library : τ
  calls : List Call
  deriving DecidableEq, Repr

end SourceIndex.Native
