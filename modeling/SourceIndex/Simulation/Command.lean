import SourceIndex.Simulation.Engine

/-!
# Commands

What a session can be told, and what it replies.
-/

namespace SourceIndex.Simulation

/-! ## Plans -/

/-- What is said about a cache to be built, or why it cannot be said. -/
abbrev Plan := Except BuildError (List (Clause World))

namespace Plan

/-- The clauses of all plans, in order. The first that fails counts. -/
def all (plans : List Plan) : Plan := (plans.mapM id).map List.flatten

/-- A plan by the text of a configuration. -/
def ofText (toml : String) (clauses : Config → List (Clause World)) : Plan :=
  ((Config.load toml).map clauses).mapError .config

end Plan

structure BuildCommand where
  plan : Plan
  library : LibraryChoice
  /-- Whether another request for the same cache comes in between. -/
  race : Bool

/-! ## Commands -/

inductive Command where
  | touch (path : Path) (time : FileTime)
  | makeDirectory (path : Path) (time : FileTime)
  | removeFile (path : Path)
  | setArgs (path : Option Path) (args : List String)
  | setMode (entry : EntryPoint) (mode : Option Mode)
  | setStub (change : StubChange)
  | updateBuffer (path : Path) (contents : String)
  | removeBuffer (path : Path)
  | removeBuffers
  | inbox
  | inboxFor (path : Path)
  | takeInbox
  | errors
  | build (command : BuildCommand)
  | drop
  | isMade
  | exit (policy : ExitPolicy)
  | serve (path : Path) (force : Bool)
  | prime (path : Path)
  | reprime (path : Path)
  | remove (path : Path)
  | removeAll
  | destroy
  | lendAll
  | info (path : Path)
  | status
  | globalOptions
  | setGlobalOptions (options : GlobalOptions)

/-- The time that a command sets. -/
def Command.time? : Command → Option FileTime
  | .touch _ time | .makeDirectory _ time => some time
  | _ => none

/-! ## Replies -/

/-- What is known about a file. -/
structure FileInfo where
  isIndexed : Bool
  args : Option (List String)
  time : Option FileTime
  deriving DecidableEq

structure Status where
  length : Nat
  verbosity : UInt8
  isDestroyed : Bool
  buffers : List Buffer
  deriving DecidableEq, Repr

inductive Reply (υ : Type) where
  | done
  | number (n : Nat)
  | flag (b : Bool)
  | diagnostics (list : List Diagnostic)
  | errors (has : Bool) (count : UInt64)
  | built
  | notBuilt (error : BuildError)
  | alreadyBuilt
  | noCache
  | unit (lent : Option (LentUnit World υ))
  | units (lent : List (LentUnit World υ))
  | info (info : FileInfo)
  | status (status : Status)
  | options (options : GlobalOptions)

end SourceIndex.Simulation
