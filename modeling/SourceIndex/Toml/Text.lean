import SourceIndex.Json.Quoted
import SourceIndex.Toml.Stop

/-!
# The letters of a TOML document

Blanks, comments, line ends, strings and keys.
-/

namespace SourceIndex.Toml

/-! ## Blanks and comments -/

def isBlank (c : Char) : Bool := c == ' ' || c == '\t'

def skipBlanks (input : Place) : Place := input.dropWhile isBlank

/-- What may stand in a comment or a string: no control character but the tab. -/
def isPlain (c : Char) : Bool := c == '\t' || (0x20 ≤ c.toNat && c.toNat != 0x7F)

def skipComment (input : Place) : Place :=
  if input.head? = some '#' then input.dropWhile isPlain else input

/-- What is behind a line end, if one comes first. -/
def behindNewline? : Place → Option Place
  | '\n' :: rest => some rest
  | '\r' :: '\n' :: rest => some rest
  | _ => none

/-- What is behind the end of a line, which is also where the document ends. -/
def readLineEnd (input : Place) : Except Stop Place :=
  if input = [] then .ok []
  else
    match behindNewline? input with
    | some rest => .ok rest
    | none => stopAt input

/-- What is behind the rest of a line that holds nothing more than a comment. -/
def readLineRest (input : Place) : Except Stop Place :=
  expecting ["newline", "`#`"] (readLineEnd (skipComment (skipBlanks input)))

/-- Skips blanks, comments and line ends inside an array. -/
def skipGap : (inComment : Bool) → Place → Place
  | _, [] => []
  | _, '\n' :: rest => skipGap false rest
  | _, '\r' :: '\n' :: rest => skipGap false rest
  | true, c :: rest => if isPlain c then skipGap true rest else c :: rest
  | false, c :: rest =>
    if isBlank c then skipGap false rest
    else if c = '#' then skipGap true rest
    else c :: rest

/-! ## Strings -/

/-- Puts a character in front of what was read. -/
def put (c : Char) : List Char × Place → List Char × Place
  | (text, rest) => (c :: text, rest)

/-- The character with a given code, if there is one. -/
def charOfCode? (code : Nat) : Option Char :=
  if code < 0xD800 ∨ (0xE000 ≤ code ∧ code ≤ 0x10FFFF) then some (Char.ofNat code) else none

/-- The character whose code these digits are. They stand in front of `place`. -/
def charOfHex (place : Place) (digits : List Char) : Except Stop Char :=
  match digits.mapM Json.hexValue? with
  | none => stopAt place
  | some values =>
    match charOfCode? (values.foldl (fun code value => code * 16 + value) 0) with
    | some c => .ok c
    | none => refuseAt place .outOfRange

def shortCode : String := "unicode 4-digit hex code"

def longCode : String := "unicode 8-digit hex code"

/-- The character that a backslash and a letter stand for. -/
def escape? : Char → Option Char
  | 'b' => some '\x08'
  | 't' => some '\t'
  | 'n' => some '\n'
  | 'f' => some '\x0c'
  | 'r' => some '\r'
  | '"' => some '"'
  | '\\' => some '\\'
  | _ => none

/-- Reads the letter behind a backslash. A letter of one byte that stands for nothing is passed
before reading stops. -/
def readEscape : Place → Except Stop Char
  | [] => stopAt []
  | 'u' :: rest => about shortCode (stopAt rest)
  | 'U' :: rest => about longCode (stopAt rest)
  | c :: rest =>
    match escape? c with
    | some char => .ok char
    | none =>
      about "escape sequence" (expecting
        ["`b`", "`f`", "`n`", "`r`", "`t`", "`u`", "`U`", "`\\`", "`\"`"]
        (stopAt (if c.toNat < 0x80 then rest else c :: rest)))

/-- Reads a string between double quotes. Over several lines it is closed by three quotes, two
more of which may be its own, and a backslash at the end of a line trims all blanks and line
ends up to the next character. Quotes at the end of the document are not passed. -/
def readBasic (multi : Bool) : (trimming : Bool) → Place → Except Stop (List Char × Place)
  | _, [] => stopAt []
  | _, ['\\'] => stopAt ['\\']
  | _, '\\' :: 'u' :: a :: b :: c :: d :: rest => do
    let char ← about shortCode (charOfHex (a :: b :: c :: d :: rest) [a, b, c, d])
    (readBasic multi false rest).map (put char)
  | _, '\\' :: 'U' :: a :: b :: c :: d :: e :: f :: g :: h :: rest => do
    let char ← about longCode
      (charOfHex (a :: b :: c :: d :: e :: f :: g :: h :: rest) [a, b, c, d, e, f, g, h])
    (readBasic multi false rest).map (put char)
  | _, '\\' :: c :: rest =>
    if multi ∧ (behindNewline? (skipBlanks (c :: rest))).isSome then
      readBasic multi true (c :: rest)
    else do
      let char ← readEscape (c :: rest)
      (readBasic multi false rest).map (put char)
  | trimming, '\r' :: '\n' :: rest =>
    if !multi then stopAt ('\r' :: '\n' :: rest)
    else if trimming then readBasic multi true rest
    else (readBasic multi false rest).map (put '\n')
  | trimming, '\n' :: rest =>
    if !multi then stopAt ('\n' :: rest)
    else if trimming then readBasic multi true rest
    else (readBasic multi false rest).map (put '\n')
  | _, '"' :: rest =>
    if !multi then .ok ([], rest)
    else
      match rest with
      | [] | ['"'] => stopAt ('"' :: rest)
      | '"' :: '"' :: '"' :: '"' :: rest => .ok (['"', '"'], rest)
      | '"' :: '"' :: '"' :: rest => .ok (['"'], rest)
      | '"' :: '"' :: rest => .ok ([], rest)
      | _ => (readBasic multi false rest).map (put '"')
  | trimming, c :: rest =>
    if trimming && isBlank c then readBasic multi true rest
    else if isPlain c then (readBasic multi false rest).map (put c)
    else stopAt (c :: rest)

/-- A string between single quotes goes on here, and not with a quote. -/
def goesOn : Place → Bool
  | [] => false
  | c :: rest => (isPlain c && c != '\'') || (behindNewline? (c :: rest)).isSome

/-- Reads a string between single quotes, in which a backslash is nothing special. Quotes behind
which the string does not go on are not passed. -/
def readLiteral (multi : Bool) : Place → Except Stop (List Char × Place)
  | [] => stopAt []
  | '\r' :: '\n' :: rest =>
    if multi then (readLiteral multi rest).map (put '\n') else stopAt ('\r' :: '\n' :: rest)
  | '\n' :: rest =>
    if multi then (readLiteral multi rest).map (put '\n') else stopAt ('\n' :: rest)
  | '\'' :: rest =>
    if !multi then .ok ([], rest)
    else
      match rest with
      | '\'' :: '\'' :: '\'' :: '\'' :: rest => .ok (['\'', '\''], rest)
      | '\'' :: '\'' :: '\'' :: rest => .ok (['\''], rest)
      | '\'' :: '\'' :: rest => .ok ([], rest)
      | _ =>
        if goesOn (rest.dropWhile (· == '\'')) then (readLiteral multi rest).map (put '\'')
        else stopAt ('\'' :: rest)
  | c :: rest => if isPlain c then (readLiteral multi rest).map (put c) else stopAt (c :: rest)

def textOf : List Char × Place → String × Place
  | (text, rest) => (String.ofList text, rest)

/-- A line end right behind the opening quotes is no part of the string. -/
def skipNewline (input : Place) : Place := (behindNewline? input).getD input

/-- Reads a string on one line with its quotes. -/
def readQuoted : Place → Except Stop (String × Place)
  | '"' :: rest => forGood (about "basic string" ((readBasic false false rest).map textOf))
  | '\'' :: rest => forGood (about "literal string" ((readLiteral false rest).map textOf))
  | input => stopAt input

/-- Reads a string with its quotes. -/
def readString : Place → Except Stop (String × Place)
  | '"' :: '"' :: '"' :: rest =>
    forGood (about "multiline basic string"
      ((readBasic true false (skipNewline rest)).map textOf))
  | '\'' :: '\'' :: '\'' :: rest =>
    forGood (about "multiline literal string"
      ((readLiteral true (skipNewline rest)).map textOf))
  | input => readQuoted input

/-! ## Keys -/

def isBare (c : Char) : Bool := c.isAlphanum || c == '-' || c == '_'

/-- A part of a key, and where it stands. -/
structure Key where
  name : String
  span : Span
  deriving DecidableEq, Repr

/-- How a name is written in a key. -/
def keyShown (name : String) : String :=
  let letters := name.toList
  if name ≠ "" ∧ letters.all isBare then name
  else if letters.all fun c => isPlain c && c != '"' && c != '\\' then "\"" ++ name ++ "\""
  else if letters.all fun c => isPlain c && c != '\'' then "'" ++ name ++ "'"
  else Json.quote name

/-- Reads one part of a key. -/
def readPart (input : Place) : Except Stop (Key × Place) :=
  let named : String × Place → Key × Place
    | (name, rest) => (⟨name, ⟨input, rest⟩⟩, rest)
  if input.head?.any (fun c => c == '"' || c == '\'') then (readQuoted input).map named
  else
    let name := input.takeWhile isBare
    if name = [] then stopAt input else .ok (named (String.ofList name, input.dropWhile isBare))

/-- Reads the parts of a key with the blanks around them. A point that no part follows is left.
`fuel` bounds the characters still to come. -/
def readParts : (fuel : Nat) → Place → Except Stop (List Key × Place)
  | 0, input => stopAt input
  | fuel + 1, input => do
    let (part, rest) ← readPart (skipBlanks input)
    match skipBlanks rest with
    | '.' :: behind =>
      otherwise ((readParts fuel behind).map fun (parts, rest) => (part :: parts, rest))
        fun () => .ok ([part], '.' :: behind)
    | rest => .ok ([part], rest)

/-- The parts of the longest key. -/
def maxParts : Nat := 79

def readKey (input : Place) : Except Stop (List Key × Place) := do
  let (key, rest) ← about "key" (readParts (input.length + 1) input)
  if maxParts < key.length then refuseAt input .tooDeep else pure (key, rest)

end SourceIndex.Toml
