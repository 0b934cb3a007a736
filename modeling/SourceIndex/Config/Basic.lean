import SourceIndex.Analyzer.Options
import SourceIndex.SortedTable

/-!
# Configuration

What a project can configure: how the index behaves, and with which arguments its files are
parsed.
-/

namespace SourceIndex

/-- What becomes of the index when the process ends. -/
inductive ExitPolicy where
  | leak
  | dispose
  deriving DecidableEq, Repr

structure Settings where
  verbosity : UInt8
  excludeDeclarationsFromPch : Bool
  displayDiagnostics : Option Bool
  globalOptions : List GlobalOption
  shutdown : ExitPolicy
  deriving DecidableEq, Repr

namespace Settings

def default : Settings := ⟨0, false, none, [], .leak⟩

/-- Unless it is set, the analyzer displays its diagnostics exactly when the index is verbose. -/
def displays (settings : Settings) : Bool :=
  settings.displayDiagnostics.getD (0 < settings.verbosity)

end Settings

/-- Texts are ordered by their characters. -/
def Text.Before (a b : String) : Prop := a < b

instance (a b : String) : Decidable (Text.Before a b) := inferInstanceAs (Decidable (_ < _))

instance Text.keyOrder : KeyOrder Text.Before where
  irrefl := String.lt_irrefl
  trans h h' := String.lt_trans h h'
  split {a c} b h := by
    rcases Decidable.em (a < b) with less | not_less
    · exact .inl less
    · refine .inr (Decidable.by_contra fun not_before => String.not_lt.2 ?_ h)
      exact String.le_trans (String.not_lt.1 not_before) (String.not_lt.1 not_less)

/-- A table with texts for keys. -/
abbrev Dictionary (α : Type) := SortedTable Text.Before α

structure Arguments where
  default : List String
  exclude : List String
  extensions : Dictionary (List String)
  files : Dictionary (List String)
  deriving DecidableEq

def Arguments.empty : Arguments := ⟨[], [], .empty, .empty⟩

structure Config where
  index : Settings
  arguments : Arguments
  deriving DecidableEq

def Config.default : Config := ⟨.default, .empty⟩

end SourceIndex
