import SourceIndex.Text.Quoted

/-!
# Paths

A path is the bytes it was written with. Which place it names depends on its components only:
repeated slashes, a slash at the end and a dot between slashes say nothing. A dot at the very
start counts, and so does every double dot, since only a file system can tell where it leads.
-/

namespace SourceIndex

/-- A path as it was written. -/
structure Path where
  bytes : List UInt8
  deriving DecidableEq, Repr

/-- One step of a path. -/
inductive Component where
  | root
  | here
  | up
  | name (bytes : List UInt8)
  deriving DecidableEq, Repr

def slash : UInt8 := 47

def dot : UInt8 := 46

/-! ## Components -/

/-- What stands between the slashes. There is always one piece more than slashes. -/
def splitSlashes : List UInt8 → List (List UInt8)
  | [] => [[]]
  | b :: rest =>
    if b = slash then [] :: splitSlashes rest
    else
      match splitSlashes rest with
      | [] => [[b]]
      | piece :: pieces => (b :: piece) :: pieces

/-- The component that a piece after the first stands for. -/
def Component.ofPiece? (piece : List UInt8) : Option Component :=
  if piece = [] ∨ piece = [dot] then none
  else if piece = [dot, dot] then some .up
  else some (.name piece)

/-- The component that the first piece stands for. -/
def Component.ofFirst? (piece : List UInt8) : Option Component :=
  if piece = [dot] then some .here else ofPiece? piece

namespace Path

def isAbsolute (p : Path) : Bool := p.bytes.head? == some slash

def components (p : Path) : List Component :=
  let pieces := splitSlashes p.bytes
  (if p.isAbsolute then [.root] else []) ++
    (pieces.head?.bind Component.ofFirst?).toList ++
    (pieces.drop 1).filterMap Component.ofPiece?

/-- Two ways to write one path. -/
def Same (p q : Path) : Prop := p.components = q.components

instance (p q : Path) : Decidable (Same p q) := inferInstanceAs (Decidable (_ = _))

theorem Same.refl (p : Path) : Same p p := rfl

theorem Same.symm {p q : Path} (h : Same p q) : Same q p := Eq.symm h

theorem Same.trans {p q r : Path} (h : Same p q) (h' : Same q r) : Same p r := Eq.trans h h'

end Path

/-! ## Order -/

/-- Where a component stands among others: the root first, then a dot, a double dot, and the
names by their bytes. -/
def Component.rank : Component → List Nat
  | .root => [0]
  | .here => [1]
  | .up => [2]
  | .name bytes => 3 :: bytes.map UInt8.toNat

namespace Path

def rank (p : Path) : List (List Nat) := p.components.map Component.rank

/-- Paths are ordered component by component. -/
def Before (p q : Path) : Prop := p.rank < q.rank

instance (p q : Path) : Decidable (Before p q) := inferInstanceAs (Decidable (_ < _))

/-! ## Text -/

def ofText (text : String) : Path := ⟨Utf8.encode text⟩

/-- The text of a path that is one. -/
def text? (p : Path) : Option String := Utf8.decode? p.bytes

/-- The path as it is shown to people. -/
def shown (p : Path) : String := Utf8.decodeLossy p.bytes

/-- The path between quotes. -/
def quoted (p : Path) : String := Text.quotedBytes p.bytes

end Path

end SourceIndex
