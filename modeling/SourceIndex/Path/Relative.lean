import SourceIndex.Path.Basic

/-!
# Paths relative to a root
-/

namespace SourceIndex

/-- A component as it is shown to people. -/
def Component.shown : Component → String
  | .root => "/"
  | .here => "."
  | .up => ".."
  | .name bytes => Utf8.decodeLossy bytes

/-- What is left of `list` behind `start`, if `list` starts so. -/
def dropStart? {α : Type} [DecidableEq α] : (start list : List α) → Option (List α)
  | [], list => some list
  | _ :: _, [] => none
  | a :: start, b :: list => if a = b then dropStart? start list else none

namespace Path

/-- The components of `p` behind those of `root`, if `p` lies under `root`. -/
def behind? (root p : Path) : Option (List Component) := dropStart? root.components p.components

/-- The name by which a configuration calls the file: its components behind the root with a slash
between them, or the whole path when it does not lie under the root. -/
def relativeKey (root p : Path) : String :=
  match behind? root p with
  | some components => String.ofList (['/'].intercalate (components.map (·.shown.toList)))
  | none => p.shown

/-- `p` seen from `root`. An absolute path stays as it is. -/
def join (root p : Path) : Path :=
  if p.isAbsolute then p
  else if root.bytes = [] ∨ root.bytes.getLast? = some slash then ⟨root.bytes ++ p.bytes⟩
  else ⟨root.bytes ++ slash :: p.bytes⟩

end Path

end SourceIndex
