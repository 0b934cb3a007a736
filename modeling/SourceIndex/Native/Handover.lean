import SourceIndex.Native.Library

/-!
# Handing texts over

A text with a zero byte inside would be cut short, and a path has to be a text. The first thing
that cannot be handed over is reported, and nothing is called then.
-/

namespace SourceIndex.Native

/-- Why the library gave nothing. -/
inductive Fault where
  | pathIsNoText (path : Path)
  | zeroInPath (text : String)
  | zeroInArgument (text : String)
  | noIndex
  | noUnit (path : Path)
  | reparseFailed (code : Int32)
  deriving DecidableEq, Repr

def Fault.message : Fault → String
  | pathIsNoText path => "path is not UTF-8: " ++ path.shown
  | zeroInPath text => "path contains NUL: " ++ text
  | zeroInArgument text => "argument contains NUL: " ++ text
  | noIndex => "clang_createIndex returned null"
  | noUnit path => "clang_parseTranslationUnit returned null for " ++ path.shown
  | reparseFailed code =>
    "clang_reparseTranslationUnit failed with code " ++ toString code.toInt

/-- A text with a zero byte behind it, unless there is one inside. -/
def zeroEnded? (text : String) : Option ZeroEnded :=
  let bytes := Utf8.encode text
  if 0 ∈ bytes then none else some ⟨bytes ++ [0]⟩

def ofPath (path : Path) : Except Fault ZeroEnded :=
  match path.text? with
  | none => .error (.pathIsNoText path)
  | some text =>
    match zeroEnded? text with
    | none => .error (.zeroInPath text)
    | some ended => .ok ended

def ofArgument (arg : String) : Except Fault ZeroEnded :=
  match zeroEnded? arg with
  | none => .error (.zeroInArgument arg)
  | some ended => .ok ended

def ofBuffer (buffer : Buffer) : Except Fault View := do
  let name ← ofPath buffer.path
  let contents := Utf8.encode buffer.contents
  pure ⟨name, contents, UInt64.ofNat contents.length⟩

/-- The buffers with their number. Instead of an empty list there is none. -/
structure Views where
  buffers : Option (List View)
  count : UInt32

def ofBuffers (buffers : List Buffer) : Except Fault Views := do
  let views ← buffers.mapM ofBuffer
  pure ⟨if views = [] then none else some views, UInt32.ofNat views.length⟩

end SourceIndex.Native
