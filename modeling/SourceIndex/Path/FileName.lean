import SourceIndex.Path.Basic

/-!
# File names

The last component of a path is its file name, if it is a name at all. The extension is what
follows the last dot of the file name, unless nothing precedes that dot.
-/

namespace SourceIndex.Path

def fileName? (p : Path) : Option (List UInt8) :=
  match p.components.getLast? with
  | some (.name bytes) => some bytes
  | _ => none

/-- What follows the last dot of a name that has something before it. -/
def extensionOf? (name : List UInt8) : Option (List UInt8) :=
  let reversed := name.reverse
  let behind := reversed.takeWhile (· ≠ dot)
  match reversed.dropWhile (· ≠ dot) with
  | [] | [_] => none
  | _ :: _ :: _ => some behind.reverse

def extension? (p : Path) : Option (List UInt8) := p.fileName?.bind extensionOf?

/-- The extension, if it is a text. -/
def extensionText? (p : Path) : Option String := p.extension?.bind Utf8.decode?

end SourceIndex.Path
