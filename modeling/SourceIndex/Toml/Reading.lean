import SourceIndex.Toml.Date
import SourceIndex.Toml.Number
import SourceIndex.Toml.Tables
import SourceIndex.Toml.Text

/-!
# Reading TOML

A document is read line by line into entries and headers, and then put together.
-/

namespace SourceIndex.Toml

/-! ## Values -/

/-- How deep arrays and inline tables may be nested. -/
def maxDepth : Nat := 79

/-- A value that is one word. -/
def readWord (input : Place) : Except Stop (Toml × Place) :=
  match input with
  | 't' :: 'r' :: 'u' :: 'e' :: rest => .ok (.boolean true, rest)
  | 'f' :: 'a' :: 'l' :: 's' :: 'e' :: rest => .ok (.boolean false, rest)
  | 't' :: _ | 'f' :: _ => forGood (stopAt input)
  | _ => readSpecial input

def readScalar (input : Place) : Except Stop (Toml × Place) :=
  match input with
  | [] => stopAt []
  | c :: _ =>
    if c = '"' ∨ c = '\'' then (readString input).map fun (text, rest) => (.string text, rest)
    else if c = '+' ∨ c = '-' ∨ c.isDigit then
      otherwise (readDate input) fun () => readNumber input
    else if c = '_' then expecting ["leading digit"] (readWhole input)
    else if c = '.' then expecting ["leading digit"] (readFloat input)
    else about "string" (expecting ["`\"`", "`'`"] (readWord input))

def readEquals (input : Place) : Except Stop Place :=
  forGood (expecting ["`.`", "`=`"] (readChar '=' input))

/-- Closes an array. -/
def readArrayEnd (input : Place) : Except Stop Place :=
  about "array" (expecting ["`]`"] (readChar ']' input))

/-- Closes an inline table. -/
def readTableEnd (input : Place) : Except Stop Place :=
  about "inline table" (expecting ["`\x7d`"] (readChar '\x7d' input))

mutual

/-- Reads one value. `fuel` bounds twice the characters still to come, `depth` the nesting. -/
def readValue : (fuel depth : Nat) → Place → Except Stop (Located × Place)
  | 0, _, input => stopAt input
  | fuel + 1, depth, '[' :: rest =>
    forGood (match depth with
      | 0 => refuseAt ('[' :: rest) .tooDeep
      | depth + 1 => do
        let (items, behind) ← readItems fuel depth rest
        let span : Span := ⟨'[' :: rest, behind⟩
        pure (⟨.array (items.map (·.value)), .mk (some span) (items.map (·.layout)) []⟩, behind))
  | fuel + 1, depth, '\x7b' :: rest =>
    forGood (match depth with
      | 0 => refuseAt ('\x7b' :: rest) .tooDeep
      | depth + 1 => do
        let (entries, behind) ← readEntries fuel depth rest (skipBlanks rest) rest
        let table ← inlineTable ⟨'\x7b' :: rest, behind⟩ entries
        pure (table, behind))
  | _ + 1, _, input => do
    let (value, rest) ← readScalar input
    pure (⟨value, .mk (some ⟨input, rest⟩) [] []⟩, rest)

/-- Reads the items of an array and its closing bracket. -/
def readItems : (fuel depth : Nat) → Place → Except Stop (List Located × Place)
  | 0, _, input => stopAt input
  | fuel + 1, depth, input =>
    let input := skipGap false input
    match readValue fuel depth input with
    | .error stop =>
      if stop.isFinal then .error stop
      else (readArrayEnd input).map fun rest => ([], rest)
    | .ok (item, rest) =>
      match skipGap false rest with
      | ',' :: rest =>
        (readItems fuel depth rest).map fun (items, rest) => (item :: items, rest)
      | rest => (readArrayEnd rest).map fun rest => ([item], rest)

/-- Reads the entries of an inline table and its closing brace. `front` is the place behind the
opening brace, and `back` the place where the table can only end if no entry follows. -/
def readEntries : (fuel depth : Nat) → (front back input : Place) →
    Except Stop (List Entry × Place)
  | 0, _, _, _, input => stopAt input
  | fuel + 1, depth, front, back, input =>
    match readKey input with
    | .error stop =>
      if stop.isFinal then .error stop
      else (readTableEnd back).map fun rest => ([], rest)
    | .ok (path, rest) => do
      let rest ← readEquals rest
      let (value, rest) ← readValue fuel depth (skipBlanks rest)
      match skipBlanks rest with
      | ',' :: rest =>
        (readEntries fuel depth front (',' :: rest) rest).map fun (entries, rest) =>
          (⟨front, path, value⟩ :: entries, rest)
      | rest => (readTableEnd rest).map fun rest => ([⟨front, path, value⟩], rest)

end

/-! ## Lines -/

inductive Line where
  | blank
  | entry (entry : Entry)
  | header (header : Header)

/-- Reads an entry up to the end of its value. -/
def readEntry (input : Place) : Except Stop (Entry × Place) := do
  let (path, rest) ← readKey input
  let rest ← readEquals rest
  let (value, rest) ← readValue (2 * rest.length + 2) maxDepth (skipBlanks rest)
  pure (⟨input, path, value⟩, rest)

/-- Reads a header up to its last bracket. A lone bracket at the end of the document is not
passed. -/
def readHeader (input : Place) : Except Stop (Header × Place) :=
  match input with
  | '[' :: '[' :: rest => do
    let (path, rest) ← readKey rest
    let behind ← expecting ["`.`", "`]]`"]
      (match rest with
        | ']' :: ']' :: rest => .ok rest
        | rest => stopAt rest)
    pure (⟨⟨input, behind⟩, path, true⟩, behind)
  | '[' :: c :: rest => do
    let (path, rest) ← readKey (c :: rest)
    let behind ← expecting ["`.`", "`]`"] (readChar ']' rest)
    pure (⟨⟨input, behind⟩, path, false⟩, behind)
  | input => stopAt input

/-- Reads a line with its end. -/
def readLine (input : Place) : Except Stop (Line × Place) :=
  let input := skipBlanks input
  match input with
  | '[' :: _ =>
    about "table header" (do
      let (header, rest) ← readHeader input
      let rest ← readLineRest rest
      pure (.header header, rest))
  | [] => .ok (.blank, [])
  | c :: _ =>
    if c = '#' ∨ c = '\n' ∨ c = '\r' then
      (readLineEnd (skipComment input)).map fun rest => (.blank, rest)
    else do
      let (entry, rest) ← readEntry input
      let rest ← readLineRest rest
      pure (.entry entry, rest)

/-- Reads all lines up to the one that cannot be read, if there is one. Each takes at least its
line end off the input. -/
def readLines : (fuel : Nat) → Place → List Line × Option Stop
  | 0, input => ([], some (.plain input))
  | _, [] => ([], none)
  | fuel + 1, input =>
    match readLine input with
    | .error stop => ([], some stop)
    | .ok (line, rest) =>
      let (lines, stop) := readLines fuel rest
      (line :: lines, stop)

/-! ## Documents -/

/-- The entries in front of the first header, and the sections. -/
def sections : List Line → List Entry × List Section
  | [] => ([], [])
  | .blank :: rest => sections rest
  | .entry entry :: rest =>
    let (entries, others) := sections rest
    (entry :: entries, others)
  | .header header :: rest =>
    let (entries, others) := sections rest
    ([], ⟨header, entries⟩ :: others)

/-- A mark in front of the text that tells its encoding is no part of the document. -/
def withoutMark : Place → Place
  | '\uFEFF' :: rest => rest
  | input => input

/-- A document is a table. -/
structure Document where
  entries : List (String × Toml)
  layout : Layout

/-- Reads a document. What does not fit together is told before what comes later and cannot be
read. -/
def read (text : String) : Except Stop Document := do
  let input := withoutMark text.toList
  let (lines, stop) := readLines (input.length + 1) input
  let (entries, parts) := sections lines
  let root ← documentDraft entries parts
  match stop with
  | some stop => .error stop
  | none => pure ⟨entriesToToml .standard root.entries, root.node.layout⟩

end SourceIndex.Toml
