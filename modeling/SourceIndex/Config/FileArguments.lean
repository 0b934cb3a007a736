import SourceIndex.Config.Basic
import SourceIndex.File.Kind
import SourceIndex.Path.Relative
import SourceIndex.Text.Lowercase

/-!
# The arguments of a file

First come the arguments for every file, then those for its extension, then its own. A file that
ends up without arguments is not indexed.
-/

namespace SourceIndex

namespace Arguments

/-- The arguments for the extension of a file, in whatever letters it is written. -/
def forExtension (config : Arguments) (path : Path) : List String :=
  match path.extensionText? with
  | some extension => (config.extensions.find? (Text.lowercase extension)).getD []
  | none => []

def resolve (config : Arguments) (root path : Path) : List String :=
  let key := root.relativeKey path
  if !path.isSource then []
  else if key ∈ config.exclude then []
  else config.default ++ config.forExtension path ++ (config.files.find? key).getD []

end Arguments

end SourceIndex
