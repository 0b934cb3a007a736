import SourceIndex.Native.Library
import SourceIndex.Effect

/-!
# Loading a native library

A library is loaded by a path or by a bare name, and then its functions are looked up one after
the other. The first that is missing makes the library useless.
-/

namespace SourceIndex.Native

/-! ## Functions by name -/

inductive Function where
  | createIndex
  | disposeIndex
  | getGlobalOptions
  | setGlobalOptions
  | defaultEditingOptions
  | parse
  | defaultReparseOptions
  | reparse
  | disposeUnit
  deriving DecidableEq, Repr

/-- The functions in the order in which they are looked up. -/
def Function.all : List Function :=
  [createIndex, disposeIndex, getGlobalOptions, setGlobalOptions, defaultEditingOptions, parse,
    defaultReparseOptions, reparse, disposeUnit]

def Function.symbol : Function → String
  | createIndex => "clang_createIndex"
  | disposeIndex => "clang_disposeIndex"
  | getGlobalOptions => "clang_CXIndex_getGlobalOptions"
  | setGlobalOptions => "clang_CXIndex_setGlobalOptions"
  | defaultEditingOptions => "clang_defaultEditingTranslationUnitOptions"
  | parse => "clang_parseTranslationUnit"
  | defaultReparseOptions => "clang_defaultReparseOptions"
  | reparse => "clang_reparseTranslationUnit"
  | disposeUnit => "clang_disposeTranslationUnit"

/-! ## The loader -/

/-- A library that was opened. Looking up a symbol may fail with a message. -/
structure Opened where
  lookUp : String → Except String Unit

/-- The system's loader. Opening a library may fail with a message. -/
structure Loader where
  tryOpen : Path → Except String Opened

inductive LoadFault where
  | unloadable (name : Path) (message : String)
  | lacks (function : Function) (message : String)
  deriving DecidableEq, Repr

def LoadFault.message : LoadFault → String
  | unloadable name message => "cannot load " ++ name.shown ++ ": " ++ message
  | lacks function message => "libclang lacks " ++ function.symbol ++ ": " ++ message

/-- A name as the loader is told it. A zero ends it, so that it may have one only as its end. -/
def told (name : Path) : Except String Path :=
  if name.bytes.getLast? = some 0 then
    if 0 ∈ name.bytes.dropLast then
      .error "could not create a C string from bytes with trailing null"
    else .ok ⟨name.bytes.dropLast⟩
  else if 0 ∈ name.bytes then .error "could not create a C string from bytes"
  else .ok name

/-- The loader is asked only for names that it can be told. -/
def Loader.open? (loader : Loader) (name : Path) : Except String Opened := do
  loader.tryOpen (← told name)

def missing? (opened : Opened) (function : Function) : Option LoadFault :=
  match opened.lookUp function.symbol with
  | .ok () => none
  | .error message => some (.lacks function message)

/-- Why the library of this name cannot be used, if it cannot. -/
def Loader.fault? (loader : Loader) (name : Path) : Option LoadFault :=
  match loader.open? name with
  | .error message => some (.unloadable name message)
  | .ok opened => Function.all.findSome? (missing? opened)

/-! ## Loading -/

variable {σ κ υ : Type}

def load (loader : Loader) (name : Path) : Act σ (Effect κ υ) (Except LoadFault Unit) :=
  match loader.fault? name with
  | some fault => pure (.error fault)
  | none => do
    Act.emit (.event ⟨.debug, "loaded libclang", [("library", name.shown)]⟩)
    pure (.ok ())

/-- Loads the first library that can be used. The fault is that of the last one. -/
def loadFirst (loader : Loader) (name : Path) :
    List Path → Act σ (Effect κ υ) (Except LoadFault Unit)
  | [] => load loader name
  | next :: others => do
    match ← load loader name with
    | .ok () => pure (.ok ())
    | .error _ => loadFirst loader next others

/-- Loads the library by its usual names. -/
def loadDefault (loader : Loader) : Act σ (Effect κ υ) (Except LoadFault Unit) :=
  loadFirst loader (.ofText "libclang.so") [.ofText "libclang.so.1"]

end SourceIndex.Native
