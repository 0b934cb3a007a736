import SourceIndex.Native.Loading
import SourceIndex.Simulation.Files

/-!
# A stub of the native library

It numbers the indexes and units that it makes from 1 on. There are several builds of it on a
shelf, some of which lack functions and some of which are no libraries at all.
-/

namespace SourceIndex.Simulation

open Native

/-! ## The functions -/

/-- What the stub answers. -/
structure StubSettings where
  createsNothing : Bool
  parsesNothing : Bool
  reparseCode : Int32
  editingOptions : UInt32
  reparseOptions : UInt32
  deriving DecidableEq, Repr

def StubSettings.start : StubSettings := ⟨false, false, 0, 13, 0⟩

/-- New answers of the stub. What is not said stays. -/
structure StubChange where
  createsNothing : Option Bool
  parsesNothing : Option Bool
  reparseCode : Option Int32
  editingOptions : Option UInt32
  reparseOptions : Option UInt32
  deriving DecidableEq, Repr

def StubSettings.change (settings : StubSettings) (change : StubChange) : StubSettings where
  createsNothing := change.createsNothing.getD settings.createsNothing
  parsesNothing := change.parsesNothing.getD settings.parsesNothing
  reparseCode := change.reparseCode.getD settings.reparseCode
  editingOptions := change.editingOptions.getD settings.editingOptions
  reparseOptions := change.reparseOptions.getD settings.reparseOptions

/-- Counts what was made, and keeps the global options of each index. -/
structure StubState where
  indexes : Nat
  units : Nat
  options : List (Nat × UInt32)
  deriving DecidableEq, Repr

def StubState.start : StubState := ⟨0, 0, []⟩

def stub {ω : Type} (settings : ω → StubSettings) : Library ω StubState where
  createIndex world _ _ s :=
    if (settings world).createsNothing then (none, s)
    else (some ⟨s.indexes + 1⟩, { s with indexes := s.indexes + 1 })
  disposeIndex _ _ s := s
  getGlobalOptions _ index s :=
    (((s.options.find? (·.1 == index.number)).map (·.2)).getD 0, s)
  setGlobalOptions _ index bits s :=
    { s with options := (index.number, bits) :: s.options.filter (·.1 != index.number) }
  defaultEditingOptions world s := ((settings world).editingOptions, s)
  parse world _ s :=
    if (settings world).parsesNothing then (none, s)
    else (some ⟨s.units + 1⟩, { s with units := s.units + 1 })
  defaultReparseOptions world _ s := ((settings world).reparseOptions, s)
  reparse world _ s := ((settings world).reparseCode, s)
  disposeUnit _ _ s := s

/-! ## The shelf -/

/-- The builds that are libraries, and the functions that each lacks. -/
def libraries : List (String × List Function) := [
  ("full", []), ("no_create", [.createIndex]), ("no_dispose_index", [.disposeIndex]),
  ("no_get_global", [.getGlobalOptions]), ("no_set_global", [.setGlobalOptions]),
  ("no_editing", [.defaultEditingOptions]), ("no_parse", [.parse]),
  ("no_reparse_options", [.defaultReparseOptions]), ("no_reparse", [.reparse]),
  ("no_dispose_unit", [.disposeUnit]), ("no_two", [.parse, .getGlobalOptions]),
  ("no_all", Function.all)]

/-- The length of the header that a library begins with. -/
def headerLength : Nat := 64

/-- The builds that are no libraries, and what stands in their files. -/
def otherBuilds : List (String × List UInt8) :=
  [("text", List.replicate headerLength 0x20), ("zero", [])]

def shelf : String := "<LIBDIR>"

def fileName (build : String) : String := "libclang_" ++ build ++ ".so"

/-- The path of a build on the shelf. -/
def onShelf (build : String) : Path := .ofText (shelf ++ "/" ++ fileName build)

/-- The shelf is a directory with a file for each build. -/
def shelfFiles : Files :=
  let time := Clock.start.now
  let file (build : String) (contents : List UInt8) : Place × Node :=
    (Files.names [shelf, fileName build], .file time contents)
  { nodes := ([], .directory time) :: (Files.names [shelf], .directory time) ::
      libraries.map (fun (build, _) => file build []) ++
      otherBuilds.map (fun (build, contents) => file build contents)
    home := []
    clock := .start }

/-! ## Opening -/

def opened (name : Path) (lacking : List Function) : Opened where
  lookUp symbol :=
    if (lacking.map Function.symbol).contains symbol then
      .error (name.shown ++ ": undefined symbol: " ++ symbol)
    else .ok ()

def notOpened (name : Path) (fault : FileFault) : String :=
  let text := match fault with
    | .system number => FileFault.systemText number
    | other => other.message
  name.shown ++ ": cannot open shared object file: " ++ text

/-- Why a path that leads to no library cannot be opened. -/
def notALibrary (files : Files) (name : Path) : String :=
  match files.find name with
  | .error fault => notOpened name fault
  | .ok (.directory _) => name.shown ++ ": cannot read file data: Is a directory"
  | .ok (.file _ contents) =>
    name.shown ++
      if contents.length < headerLength then ": file too short" else ": invalid ELF header"

/-! ## The loaders -/

/-- The loader of the builds on the shelf. -/
def shelfLoader : Loader where
  tryOpen name :=
    match libraries.find? fun (build, _) => name = onShelf build with
    | some (_, lacking) => .ok (opened name lacking)
    | none => .error (notALibrary shelfFiles name)

/-- The names that are found without a path. -/
def knownNames : List Path := [.ofText "libclang_full.so", .ofText "libclang.so.1"]

/-- The loader of a system with these files. No library is among them. -/
def loader (files : Files) : Loader where
  tryOpen name :=
    if slash ∈ name.bytes then .error (notALibrary files name)
    else if name ∈ knownNames then .ok (opened name [])
    else if Files.maxName < name.bytes.length then .error (notOpened name .nameTooLong)
    else .error (notOpened name .notFound)

end SourceIndex.Simulation
