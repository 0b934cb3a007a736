import SourceIndex.File.Fault
import SourceIndex.Path.Basic
import SourceIndex.Simulation.Clock

/-!
# A small file system

Files and directories with their times. A place in the system is the list of names that lead to
it from the root. A path is followed name by name, and a double dot leads back to the directory
above.
-/

namespace SourceIndex.Simulation

/-- The names that lead from the root to a file or a directory. -/
abbrev Place := List (List UInt8)

inductive Node where
  | file (time : FileTime) (contents : List UInt8)
  | directory (time : FileTime)
  deriving DecidableEq

namespace Node

def time : Node → FileTime
  | file time _ => time
  | directory time => time

end Node

structure Files where
  nodes : List (Place × Node)
  /-- Where a relative path starts. -/
  home : Place
  /-- It ticks with every change, so that each happens later than the one before. -/
  clock : Clock

namespace Files

/-! ## Looking -/

def node? (files : Files) (place : Place) : Option Node :=
  (files.nodes.find? (·.1 == place)).map (·.2)

def maxName : Nat := 255

def maxPath : Nat := 4095

/-- Follows one piece of a path from a directory. -/
def stepFrom (files : Files) (place : Place) (piece : List UInt8) : Except FileFault Place :=
  match files.node? place with
  | none => .error .notFound
  | some (.file _ _) => .error .notADirectory
  | some (.directory _) =>
    if piece = [] ∨ piece = [dot] then .ok place
    else if piece = [dot, dot] then .ok place.dropLast
    else if maxName < piece.length then .error .nameTooLong
    else if (files.node? (place ++ [piece])).isNone then .error .notFound
    else .ok (place ++ [piece])

/-- Where a path leads. -/
def resolve (files : Files) (path : Path) : Except FileFault Place :=
  if 0 ∈ path.bytes then .error .zeroInName
  else if path.bytes = [] then .error .notFound
  else if maxPath < path.bytes.length then .error .nameTooLong
  else
    let start := if path.isAbsolute then [] else files.home
    (splitSlashes path.bytes).foldlM files.stepFrom start

def find (files : Files) (path : Path) : Except FileFault Node := do
  let place ← files.resolve path
  match files.node? place with
  | some node => .ok node
  | none => .error .notFound

def fileTime (files : Files) (path : Path) : Except FileFault FileTime :=
  (files.find path).map Node.time

def read (files : Files) (path : Path) : Except FileFault (List UInt8) := do
  match ← files.find path with
  | .file _ contents => .ok contents
  | .directory _ => .error .isADirectory

/-! ## Changing -/

def put (files : Files) (place : Place) (node : Node) : Files :=
  { files with nodes := files.nodes.filter (·.1 != place) ++ [(place, node)] }

/-- Notes that a name was added to a directory or taken out of it. -/
def stamp (files : Files) (directory : Place) : Files :=
  let files := { files with clock := files.clock.tick }
  files.put directory (.directory files.clock.now)

/-- Follows one piece of a path and makes the directory if it is missing. -/
def makeStep (files : Files) (place : Place) (piece : List UInt8) : Files × Place :=
  if piece = [] ∨ piece = [dot] then (files, place)
  else if piece = [dot, dot] then (files, place.dropLast)
  else
    let next := place ++ [piece]
    match files.node? next with
    | some _ => (files, next)
    | none =>
      let files := files.stamp place
      (files.put next (.directory files.clock.now), next)

/-- Makes a directory and all directories on the way to it. -/
def makeDirectories (files : Files) (start : Place) (pieces : List (List UInt8)) :
    Files × Place :=
  pieces.foldl (fun (files, place) piece => files.makeStep place piece) (files, start)

/-- The pieces of a path that say something, and where they start. -/
def route (files : Files) (path : Path) : Place × List (List UInt8) :=
  (if path.isAbsolute then [] else files.home,
    (splitSlashes path.bytes).filter fun piece => piece ≠ [] ∧ piece ≠ [dot])

/-- Makes a file and the directories above it if they are missing, and sets its time. -/
def touch (files : Files) (path : Path) (time : FileTime) (contents : List UInt8) : Files :=
  let (start, pieces) := files.route path
  match pieces.getLast? with
  | none => files
  | some name =>
    let (files, parent) := files.makeDirectories start pieces.dropLast
    let place := parent ++ [name]
    match files.node? place with
    | some (.file _ old) => files.put place (.file time old)
    | some (.directory _) => files.put place (.directory time)
    | none => (files.stamp parent).put place (.file time contents)

/-- Makes a directory and sets its time. -/
def makeDirectory (files : Files) (path : Path) (time : FileTime) : Files :=
  let (start, pieces) := files.route path
  let (files, place) := files.makeDirectories start pieces
  match files.node? place with
  | some (.file _ contents) => files.put place (.file time contents)
  | _ => files.put place (.directory time)

/-- Removes a file. -/
def remove (files : Files) (path : Path) : Files :=
  match files.resolve path with
  | .error _ => files
  | .ok place =>
    match files.node? place with
    | some (.file _ _) =>
      let files := { files with nodes := files.nodes.filter (·.1 != place) }
      files.stamp place.dropLast
    | _ => files

/-! ## The empty system -/

def names (texts : List String) : Place := texts.map Utf8.encode

/-- The working directory lies in the directory of temporary files. Its name is empty, so no path
can spell it: it is reached by a relative path only. -/
def workingDirectory : Place := names ["tmp", ""]

/-- The directories that every system has. -/
def standardDirectories : List Place :=
  [[]] ++ ["bin", "boot", "dev", "etc", "home", "lib", "media", "mnt", "opt", "proc", "root",
    "run", "sbin", "srv", "sys", "tmp", "usr", "var"].map fun name => names [name]

/-- The files that every system has. A device that never ends is given by its beginning. -/
def standardFiles : List (Place × List UInt8) :=
  let endless : List UInt8 := List.replicate 64 0
  [(names ["dev", "null"], []), (names ["dev", "zero"], endless),
    (names ["dev", "full"], endless),
    (names ["etc", "passwd"], Utf8.encode ("root:x:0:0:root:/root:/bin/sh\n" ++
      "nobody:x:65534:65534:nobody:/nonexistent:/usr/sbin/nologin\n"))]

/-- An empty working directory, and what every system has. -/
def start (clock : Clock) : Files where
  nodes :=
    (standardDirectories ++ [workingDirectory]).map (·, .directory clock.now) ++
      standardFiles.map fun (place, contents) => (place, .file clock.now contents)
  home := workingDirectory
  clock := clock

end Files

end SourceIndex.Simulation
