import ModuleGraph.FilePath

/-!
# File systems

The questions resolution and loading ask of a file system. A file system is the record of its
answers, so two of them can be compared path by path, and one that changes is a sequence of
records.
-/

set_option autoImplicit false

namespace ModuleGraph

/-- The answers of a file system at one moment. Failures carry the text of their cause. -/
structure FileSystem where
  /-- Whether a file or directory is at the path, symbolic links followed. -/
  isPresent : FilePath → Bool
  /-- Whether a directory is at the path, symbolic links followed. -/
  isDir : FilePath → Bool
  /-- The text of the file at the path. -/
  readText : FilePath → Except String String
  /-- The absolute path without links and dots that names the same file or directory. -/
  canonicalize : FilePath → Except String FilePath

/-- The name of the file that describes a package. -/
def manifestName : FilePath := FilePath.ofString "package.json"

/-- The name of the directories that packages are installed in. -/
def packagesName : FilePath := FilePath.ofString "node_modules"

end ModuleGraph
