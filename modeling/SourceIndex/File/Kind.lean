import SourceIndex.Path.FileName

/-!
# Kinds of source files

A file of the C family is known by its extension alone, in small or capital letters.
-/

namespace SourceIndex

inductive FileKind where
  | header
  | c
  | cpp
  | objC
  deriving DecidableEq, Repr

namespace FileKind

def all : List FileKind := [.header, .c, .cpp, .objC]

/-- The extensions of a kind, in small letters. -/
def extensions : FileKind → List String
  | .header => ["h", "hh", "hpp"]
  | .c => ["c"]
  | .cpp => ["cc", "cpp"]
  | .objC => ["m", "mm"]

def shown : FileKind → String
  | .header => "header"
  | .c => "c"
  | .cpp => "c++"
  | .objC => "objective-c"

/-- Only the letters A to Z have a small form here. -/
def smallLetters (text : String) : String := String.ofList (text.toList.map Char.toLower)

def ofExtension? (extension : String) : Option FileKind :=
  all.find? fun kind => kind.extensions.contains (smallLetters extension)

end FileKind

namespace Path

/-- The kind of source file that a path names, if it names one. -/
def kind? (p : Path) : Option FileKind := p.extensionText?.bind FileKind.ofExtension?

def isSource (p : Path) : Bool := p.kind?.isSome

end Path

end SourceIndex
