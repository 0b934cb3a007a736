import SourceIndex.Native.Handover

/-!
# The analyzer over a native library
-/

namespace SourceIndex.Native

variable {ω τ : Type}

def flag (b : Bool) : Int32 := if b then 1 else 0

namespace Library

def createContext (library : Library ω τ) (world : ω) (options : ContextOptions)
    (s : State τ) : Answer IndexRef × State τ :=
  let exclude := flag options.excludeDeclarationsFromPch
  let display := flag options.displayDiagnostics
  let (made, after) := library.createIndex world exclude display s.library
  let answer := match made with
    | some index => .value index
    | none => .fault Fault.noIndex.message
  (answer, ⟨after, s.calls ++ [.createIndex exclude display made]⟩)

/-- The arguments of a parse, in the order in which they are looked at. -/
def parseParts (path : Path) (args : List String) (buffers : List Buffer) :
    Except Fault (ZeroEnded × List ZeroEnded × Views) := do
  let file ← ofPath path
  let args ← args.mapM ofArgument
  let views ← ofBuffers buffers
  pure (file, args, views)

def parseUnit (library : Library ω τ) (world : ω) (index : IndexRef) (path : Path)
    (args : List String) (buffers : List Buffer) (s : State τ) :
    Answer UnitRef × State τ :=
  match parseParts path args buffers with
  | .error fault => (.fault fault.message, s)
  | .ok (file, args, views) =>
    let (options, after) := library.defaultEditingOptions world s.library
    let request : ParseRequest :=
      ⟨index, file, args, Int32.ofNat args.length, views.buffers, views.count, options⟩
    let (made, after) := library.parse world request after
    let answer := match made with
      | some unit => .value unit
      | none => .fault (Fault.noUnit path).message
    (answer, ⟨after, s.calls ++ [.defaultEditingOptions, .parse request made]⟩)

def reparseUnit (library : Library ω τ) (world : ω) (unit : UnitRef)
    (buffers : List Buffer) (s : State τ) : Answer Unit × UnitRef × State τ :=
  match ofBuffers buffers with
  | .error fault => (.fault fault.message, unit, s)
  | .ok views =>
    let (options, after) := library.defaultReparseOptions world unit s.library
    let request : ReparseRequest := ⟨unit, views.count, views.buffers, options⟩
    let (code, after) := library.reparse world request after
    let answer := if code = 0 then .value () else .fault (Fault.reparseFailed code).message
    (answer, unit, ⟨after, s.calls ++ [.defaultReparseOptions unit, .reparse request code]⟩)

/-- Disposing cannot fail. -/
def disposeOne (library : Library ω τ) (world : ω) (unit : UnitRef) (s : State τ) :
    Answer Unit × State τ :=
  (.value (), ⟨library.disposeUnit world unit s.library, s.calls ++ [.disposeUnit unit]⟩)

def disposeContext (library : Library ω τ) (world : ω) (index : IndexRef) (s : State τ) :
    Answer Unit × State τ :=
  (.value (), ⟨library.disposeIndex world index s.library, s.calls ++ [.disposeIndex index]⟩)

def globalOptions (library : Library ω τ) (world : ω) (index : IndexRef) (s : State τ) :
    GlobalOptions × State τ :=
  let (bits, after) := library.getGlobalOptions world index s.library
  (⟨bits⟩, ⟨after, s.calls ++ [.getGlobalOptions index]⟩)

def setOptions (library : Library ω τ) (world : ω) (index : IndexRef) (options : GlobalOptions)
    (s : State τ) : State τ :=
  ⟨library.setGlobalOptions world index options.bits s.library,
    s.calls ++ [.setGlobalOptions index options.bits]⟩

def analyzer (library : Library ω τ) : Analyzer ω (State τ) IndexRef UnitRef where
  createContext := library.createContext
  parse := library.parseUnit
  reparse := library.reparseUnit
  disposeUnit := library.disposeOne
  disposeContext := library.disposeContext
  globalOptions := library.globalOptions
  setGlobalOptions := library.setOptions

end Library

end SourceIndex.Native
