import SourceIndex.Toml.Layout

/-!
# How tables are put together

A table may be opened by a header, by the header of a table inside it, or by a key with dots.
What was opened in one of these ways cannot always be opened again in another.
-/

namespace SourceIndex.Toml

/-- How a table came about. -/
structure Opening where
  /-- Only something inside the table was named so far. -/
  implicit : Bool
  /-- A key with dots led through the table. -/
  dotted : Bool
  deriving DecidableEq, Repr

/-- A part of a document that is being put together. -/
inductive Node where
  | value (value : Located)
  | table (opening : Opening) (span : Option Span) (entries : List (Key × Node))
  | tables (items : List Node)

/-- A table that is being put together. -/
structure Draft where
  opening : Opening
  span : Option Span
  entries : List (Key × Node)

/-- An entry as it is written. It is refused at its place. -/
structure Entry where
  place : Place
  path : List Key
  value : Located

/-- The table that entries are written in: its path in a document, or an inline table. -/
inductive Home where
  | document (path : List String)
  | inline
  deriving DecidableEq, Repr

/-- A key that is already there. -/
def Home.duplicate (key : Key) : Home → Refusal
  | document path => .duplicateIn path key.name
  | inline => .duplicate key.name

/-- A value that is no table where one should be opened again. -/
def Home.closed (walked : List String) (key : Key) (value : Toml) : Home → Refusal
  | document _ => .notATable (walked ++ [key.name]) value.typeName
  | inline =>
    match value with
    | .table _ _ => .duplicate key.name
    | _ => .notATable (walked ++ [key.name]) value.typeName

namespace Draft

/-- A table that was opened by its own name. -/
def named (span : Option Span) (entries : List (Key × Node)) : Draft :=
  ⟨⟨false, false⟩, span, entries⟩

def node (draft : Draft) : Node := .table draft.opening draft.span draft.entries

def find? (draft : Draft) (key : Key) : Option Node :=
  (draft.entries.find? (·.1.name == key.name)).map (·.2)

def append (draft : Draft) (key : Key) (node : Node) : Draft :=
  { draft with entries := draft.entries ++ [(key, node)] }

def erase (draft : Draft) (key : Key) : Draft :=
  { draft with entries := draft.entries.filter (·.1.name != key.name) }

/-- Gives a key that is there another node, in the old place. -/
def replace (draft : Draft) (key : Key) (node : Node) : Draft :=
  { draft with
    entries := draft.entries.map fun entry =>
      if entry.1.name == key.name then (entry.1, node) else entry }

/-! ## Following a path -/

/-- The table that a path leads on through, and how to put it back once it was changed. -/
def step (home : Home) (dotted : Bool) (walked : List String) (draft : Draft) (key : Key) :
    Except Refusal (Draft × (Draft → Draft)) :=
  match draft.find? key with
  | none => .ok (⟨⟨true, dotted⟩, none, []⟩, fun changed => draft.append key changed.node)
  | some (.value located) => .error (home.closed walked key located.value)
  | some (.tables items) =>
    match items.getLast? with
    | some (.table opening span entries) =>
      .ok (⟨opening, span, entries⟩,
        fun changed => draft.replace key (.tables (items.dropLast ++ [changed.node])))
    | _ => .error (.duplicate key.name)
  | some (.table opening span entries) =>
    if dotted && !opening.implicit then .error (.duplicate key.name)
    else .ok (⟨opening, span, entries⟩, fun changed => draft.replace key changed.node)

/-- Changes the table at the end of a path. -/
def changeAt {ε : Type} (home : Home) (dotted : Bool) (refuse : Refusal → ε)
    (change : Draft → Except ε Draft) :
    (walked : List String) → List Key → Draft → Except ε Draft
  | _, [], draft => change draft
  | walked, key :: path, draft => do
    let (next, putBack) ← (draft.step home dotted walked key).mapError refuse
    let changed ← changeAt home dotted refuse change (walked ++ [key.name]) path next
    pure (putBack changed)

/-! ## Entries -/

/-- Writes a value under a key. A table is either filled through keys with dots only, or never. -/
def write (home : Home) (isLong : Bool) (key : Key) (value : Located) (draft : Draft) :
    Except Refusal Draft :=
  if draft.opening.dotted != isLong then .error (.duplicate key.name)
  else if (draft.find? key).isSome then .error (home.duplicate key)
  else .ok (draft.append key (.value value))

def addEntry (home : Home) (draft : Draft) (entry : Entry) : Except Refusal Draft :=
  match entry.path.getLast? with
  | none => .ok draft
  | some key =>
    let way := entry.path.dropLast
    draft.changeAt home true id (write home (way != []) key entry.value) [] way

def addEntries (home : Home) (draft : Draft) (entries : List Entry) : Except Stop Draft :=
  entries.foldlM (fun draft entry =>
    (draft.addEntry home entry).mapError (.ofRefusal entry.place)) draft

/-! ## Headers -/

/-- A key that a header may not open. -/
def reopened (parent : List Key) (key : Key) : Refusal :=
  .duplicateIn (parent.map (·.name)) (keyShown key.name)

/-- Opens the table that a header names. What headers inside it made so far is kept. The table
goes to the end of its parent. -/
def openTable (span : Span) (way : List Key) (key : Key) (parent : Draft) :
    Except Refusal Draft :=
  match parent.find? key with
  | none => .ok (parent.append key (named span []).node)
  | some (.table opening _ present) =>
    if opening.implicit && !opening.dotted then
      .ok ((parent.erase key).append key (named span present).node)
    else .error (reopened way key)
  | some _ => .error (reopened way key)

/-- Adds one more table to the array of tables that a header names. -/
def openItem (span : Span) (way : List Key) (key : Key) (parent : Draft) :
    Except Refusal Draft :=
  let item := (named span []).node
  match parent.find? key with
  | none => .ok (parent.append key (.tables [item]))
  | some (.tables items) => .ok (parent.replace key (.tables (items ++ [item])))
  | some _ => .error (reopened way key)

end Draft

structure Header where
  span : Span
  path : List Key
  isItem : Bool

/-- A header and what stands under it. -/
structure Section where
  header : Header
  entries : List Entry

namespace Section

/-- From the header to the end of the last value. -/
def span (part : Section) : Span :=
  match part.entries.getLast?.bind (·.value.layout.span?) with
  | some last => ⟨part.header.span.start, last.stop⟩
  | none => part.header.span

def home (part : Section) : Home := .document (part.header.path.map (·.name))

/-- Opens the table of a section. -/
def enter (part : Section) (root : Draft) : Except Refusal Draft :=
  match part.header.path.getLast? with
  | none => .ok root
  | some key =>
    let way := part.header.path.dropLast
    let change := if part.header.isItem then Draft.openItem part.span way key
      else Draft.openTable part.span way key
    root.changeAt part.home false id change [] way

def addTo (root : Draft) (part : Section) : Except Stop Draft := do
  let refuse := Stop.ofRefusal part.header.span.start
  let root ← about "table header" ((part.enter root).mapError refuse)
  root.changeAt part.home false refuse (·.addEntries part.home part.entries) [] part.header.path

end Section

/-- The document with these entries in front and these sections behind them. -/
def documentDraft (entries : List Entry) (sections : List Section) : Except Stop Draft := do
  let root ← (Draft.named none []).addEntries (.document []) entries
  sections.foldlM Section.addTo root

/-! ## Finished tables -/

mutual

def Node.toToml (kind : TableKind) : Node → Toml
  | .value located => located.value
  | .table _ _ entries => .table kind (entriesToToml kind entries)
  | .tables items => .arrayOfTables (itemsToToml kind items)

def entriesToToml (kind : TableKind) : List (Key × Node) → List (String × Toml)
  | [] => []
  | (key, node) :: rest => (key.name, node.toToml kind) :: entriesToToml kind rest

def itemsToToml (kind : TableKind) : List Node → List Toml
  | [] => []
  | node :: rest => node.toToml kind :: itemsToToml kind rest

end

/-- From the first of these tables to the end of the last one. -/
def spanOf? (tables : List Layout) : Option Span := do
  let first ← tables.head?.bind Layout.span?
  let last ← tables.getLast?.bind Layout.span?
  some ⟨first.start, last.stop⟩

mutual

def Node.layout : Node → Layout
  | .value located => located.layout
  | .table _ span entries => .mk span [] (entriesLayout entries)
  | .tables items =>
    let tables := itemsLayout items
    .mk (spanOf? tables) tables []

def entriesLayout : List (Key × Node) → List (Key × Layout)
  | [] => []
  | (key, node) :: rest => (key, node.layout) :: entriesLayout rest

def itemsLayout : List Node → List Layout
  | [] => []
  | node :: rest => node.layout :: itemsLayout rest

end

/-- The inline table with these entries. -/
def inlineTable (span : Span) (entries : List Entry) : Except Stop Located := do
  let draft ← (Draft.named (some span) []).addEntries .inline entries
  pure ⟨draft.node.toToml .inline, draft.node.layout⟩

end SourceIndex.Toml
