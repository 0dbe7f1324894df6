import ModuleGraph.CommandLine.Run
import ModuleGraph.FileSystem.Tree
import ModuleGraph.Script.Source

/-!
# The program

Reads the projects that a command line is about from the disk, runs the command line over them,
and writes what comes of it. A project is all that lies below the topmost directory with a
manifest or with packages on the way to the place it is seen from.
-/

set_option autoImplicit false

namespace ModuleGraph.CommandLine

/-- Places of a tree. -/
abbrev Places := List (List Text.Bytes × Tree.Node)

/-- A name in a directory. -/
def entry (dir name : String) : IO.FS.DirEntry := { root := dir, fileName := name }

/-- What a file holds, or why it cannot be read. -/
def readContent (e : IO.FS.DirEntry) : IO (Except String Text.Bytes) := do
  try return .ok (← IO.FS.readBinFile e.path).toList
  catch cause => return .error (toString cause)

/-- The file or directory that a link leads to in the end. -/
def readLink (e : IO.FS.DirEntry) : IO FilePath := do
  try return FilePath.ofString (← IO.FS.realPath e.path).toString
  catch _ => return FilePath.ofString "."

mutual

/-- Adds what is at a name of a directory. -/
partial def readEntry (places : Places) (e : IO.FS.DirEntry) : IO Places := do
  let names := (FilePath.ofString e.path.toString).normalNames
  match (← e.path.symlinkMetadata).type with
  | .dir => readDirectory ((names, .directory) :: places) e.path.toString
  | .file => return (names, .file { content := ← readContent e }) :: places
  | .symlink => return (names, .link (← readLink e)) :: places
  | .other => return places

/-- Adds what is in a directory. -/
partial def readDirectory (places : Places) (dir : String) : IO Places := do
  try (← (entry dir ".").path.readDir).foldlM readEntry places
  catch _ => return places

end

/-- Whether a directory has a manifest or packages. -/
def isProject (dir : FilePath) : IO Bool := do
  let has (name : FilePath) : IO Bool := (entry dir.display name.display).path.pathExists
  return (← has manifestName) || (← has packagesName)

/-- The directory of the project that is seen from a directory. -/
def projectOf (dir : FilePath) : IO FilePath := do
  let projects ← (dir.ancestors.filter fun d => d.parent?.isSome).filterM isProject
  return projects.getLast?.getD dir

/-- The directories a command line starts from: where it is given, where it is told to work, and
where its inputs lie. -/
def startingPoints (cwd : FilePath) (words : List String) : List FilePath :=
  match Request.ofWords words with
  | .run o =>
      let dir := (o.cwd.map cwd.joinText).getD cwd
      cwd :: dir :: o.inputs.filterMap fun input => (dir.joinText input).parent?
  | _ => [cwd]

/-- The tree of the projects seen from some directories. The directories on the way to a project
are part of it. -/
def readTree (dirs : List FilePath) : IO Tree := do
  let mut places : Places := []
  for dir in dirs do
    try
      let real ← IO.FS.realPath (entry dir.display ".").path
      let project ← projectOf (FilePath.ofString real.toString)
      let names := project.normalNames
      if !(places.any fun place => place.1 = names) then
        let way := (List.range (names.length + 1)).map fun n => (names.take n, Tree.Node.directory)
        places ← readDirectory (way ++ places) project.display
    catch _ => pure ()
  return { places }

/-- A time in milliseconds, with two places. -/
def milliseconds (nanoseconds : Nat) : String :=
  let hundredths := nanoseconds / 10000
  let places := toString (hundredths % 100)
  toString (hundredths / 100) ++ "." ++ (if places.length = 1 then "0" else "") ++ places ++ " ms"

/-- Runs a command line and answers the code it ends with. -/
def runOnDisk (words : List String) : IO UInt32 := do
  let cwd := FilePath.ofString (← IO.currentDir).toString
  let tree ← readTree (startingPoints cwd words)
  let start ← IO.monoNanosNow
  let env : Environment :=
    { fs := tree.fileSystem, cwd, summarize := Script.Summary.ofSource?
      limit := tree.places.length + 1 }
  let outcome ← IO.lazyPure fun _ => run env words
  let stop ← IO.monoNanosNow
  IO.print (outcome.text (milliseconds (stop - start)))
  return UInt32.ofNat outcome.exitCode

end ModuleGraph.CommandLine

/-- The program. -/
def main (words : List String) : IO UInt32 := ModuleGraph.CommandLine.runOnDisk words
