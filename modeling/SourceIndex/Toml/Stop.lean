/-!
# Where reading stops

A reader takes what it reads off the front of its input, or tells where it stopped and why.
-/

namespace SourceIndex.Toml

/-- A place in a text: the characters that are still to come. -/
abbrev Place := List Char

/-- What stands between a place and a later one. -/
structure Span where
  start : Place
  stop : Place
  deriving DecidableEq, Repr

/-! ## What is not accepted -/

/-- Why something that is well formed is not accepted. -/
inductive Refusal where
  | outOfRange
  | tooLarge
  | tooSmall
  | tooDeep
  | duplicate (key : String)
  | duplicateIn (home : List String) (key : String)
  /-- A path leads through something that is no table. -/
  | notATable (path : List String) (typeName : String)
  deriving DecidableEq, Repr

def Refusal.message : Refusal → String
  | outOfRange => "value is out of range"
  | tooLarge => "number too large to fit in target type"
  | tooSmall => "number too small to fit in target type"
  | tooDeep => "recursion limit exceeded"
  | duplicate key => "duplicate key `" ++ key ++ "`"
  | duplicateIn [] key => "duplicate key `" ++ key ++ "` in document root"
  | duplicateIn home key =>
    "duplicate key `" ++ key ++ "` in table `" ++ ".".intercalate home ++ "`"
  | notATable path typeName =>
    "dotted key `" ++ ".".intercalate path ++ "` attempted to extend non-table type (" ++
      typeName ++ ")"

/-! ## Stops -/

/-- Where a reader stopped, and why. -/
structure Stop where
  place : Place
  /-- What was being read. -/
  subject : Option String
  /-- What could have stood there. -/
  expected : List String
  refusal : Option Refusal
  /-- The input is read in no other way either. -/
  isFinal : Bool
  deriving DecidableEq, Repr

namespace Stop

def message (stop : Stop) : String :=
  let subject := stop.subject.toList.map ("invalid " ++ ·)
  let expected :=
    if stop.expected = [] then [] else ["expected " ++ ", ".intercalate stop.expected]
  "\n".intercalate (subject ++ expected ++ stop.refusal.toList.map Refusal.message)

/-- A stop without a reason. -/
def plain (place : Place) : Stop := ⟨place, none, [], none, false⟩

/-- A stop at what is not accepted. -/
def ofRefusal (place : Place) (refusal : Refusal) : Stop :=
  { plain place with refusal := some refusal }

/-- The character that could not be read. -/
def span (stop : Stop) : Span := ⟨stop.place, stop.place.drop 1⟩

end Stop

section

variable {α : Type}

def stopAt (place : Place) : Except Stop α := .error (.plain place)

def refuseAt (place : Place) (refusal : Refusal) : Except Stop α :=
  .error (.ofRefusal place refusal)

/-- Names what is being read. A closer name stays. -/
def about (subject : String) (reading : Except Stop α) : Except Stop α :=
  reading.mapError fun stop => { stop with subject := stop.subject <|> some subject }

def expecting (things : List String) (reading : Except Stop α) : Except Stop α :=
  reading.mapError fun stop => { stop with expected := stop.expected ++ things }

/-- Lets a stop be final. -/
def forGood (reading : Except Stop α) : Except Stop α :=
  reading.mapError fun stop => { stop with isFinal := true }

/-- Reads in another way what was not read, unless the stop is final. -/
def otherwise (reading : Except Stop α) (other : Unit → Except Stop α) : Except Stop α :=
  match reading with
  | .ok a => .ok a
  | .error stop => if stop.isFinal then .error stop else other ()

end

/-- What is behind a character. -/
def readChar (c : Char) : Place → Except Stop Place
  | [] => stopAt []
  | d :: rest => if c = d then .ok rest else stopAt (d :: rest)

end SourceIndex.Toml
