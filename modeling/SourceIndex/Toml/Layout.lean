import SourceIndex.Toml.Basic
import SourceIndex.Toml.Text

/-!
# Where values stand

A value says nothing about the text it was read from. Its layout has the same shape and holds
only that.
-/

namespace SourceIndex.Toml

/-- Where a value and its parts stand. A table that was never opened by its own name stands
nowhere. -/
inductive Layout where
  | mk (span : Option Span) (items : List Layout) (entries : List (Key × Layout))

/-- A value and where it stands. -/
structure Located where
  value : Toml
  layout : Layout

/-! ## Ways into a value -/

/-- A step on the way to a part of a value. -/
inductive Step where
  | item (index : Nat)
  | entry (name : String)
  /-- The key of an entry. -/
  | key (name : String)
  /-- What stands behind the name of a choice. -/
  | content (name : String)
  deriving DecidableEq, Repr

namespace Layout

def span? : Layout → Option Span
  | mk span _ _ => span

def items : Layout → List Layout
  | mk _ items _ => items

def find? : Layout → String → Option (Key × Layout)
  | mk _ _ entries, name => entries.find? (·.1.name == name)

/-- Where the part at the end of a way stands. An entry without a place of its own stands where
its key does, and anything else where it is found. `outer` is the place of the whole. -/
def locate (outer : Span) : List Step → Layout → Span
  | [], layout => layout.span?.getD outer
  | .item index :: path, layout =>
    let outer := layout.span?.getD outer
    match layout.items[index]? with
    | some item => locate outer path item
    | none => outer
  | .entry name :: path, layout =>
    match layout.find? name with
    | some (key, value) => locate key.span path value
    | none => layout.span?.getD outer
  | .key name :: _, layout =>
    match layout.find? name with
    | some (key, _) => key.span
    | none => layout.span?.getD outer
  | .content name :: path, layout =>
    let outer := layout.span?.getD outer
    match layout.find? name with
    | some (_, value) => locate outer path value
    | none => outer

end Layout

end SourceIndex.Toml
