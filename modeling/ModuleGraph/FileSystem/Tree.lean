import ModuleGraph.FileSystem.Basic

/-!
# File trees

A file system that is held as a value: the physical path of every directory, file and symbolic
link below the root. `Tree.walk` follows a path through it as the operating system would, and
`Tree.fileSystem` answers the questions of a `FileSystem` by such walks.
-/

set_option autoImplicit false

namespace ModuleGraph

open Text

/-- What a file holds, or why it cannot be read. The canonical path of a file is where it
stands, unless the file brings an answer of its own. -/
structure Tree.File where
  content : Except String Bytes
  canonical : Option (Except String FilePath) := none

/-- What can stand at a place of a tree. -/
inductive Tree.Node where
  | directory
  | file (file : Tree.File)
  | link (target : FilePath)

/-- The places below the root, each by the names on the way to it. -/
structure Tree where
  places : List (List Bytes × Tree.Node) := []

namespace Tree

/-- What stands at the end of a list of names. The root is always a directory. -/
def node? (t : Tree) (names : List Bytes) : Option Node :=
  if names = [] then some .directory else t.places.lookup names

/-! ## Changes -/

/-- The names a path passes, without empty pieces, dots, and names taken back by `..`. -/
def namesOf (p : FilePath) : List Bytes := p.normalNames

/-- Puts a node at a place, in front of whatever stood there. -/
def put (t : Tree) (names : List Bytes) (node : Node) : Tree :=
  ⟨(names, node) :: t.places.filter fun place => place.1 ≠ names⟩

/-- Makes a directory of every place on the way to the last name that is not one already. A
link on the way stays. -/
def makeParents (t : Tree) (names : List Bytes) : Tree :=
  (List.range names.length).foldl (fun t n =>
    match t.node? (names.take n) with
    | some .directory | some (.link _) => t
    | _ => t.put (names.take n) .directory) t

/-- Writes a file, or a directory if the path ends in a separator. -/
def write (t : Tree) (p : FilePath) (file : File) : Tree :=
  let names := namesOf p
  let node :=
    if p.bytes.getLast? = some FilePath.separator then Node.directory else Node.file file
  if names = [] then t else (t.makeParents names).put names node

/-- Sets a symbolic link. -/
def setLink (t : Tree) (p target : FilePath) : Tree :=
  let names := namesOf p
  if names = [] then t else (t.makeParents names).put names (.link target)

/-- Removes a place and everything below it. -/
def remove (t : Tree) (p : FilePath) : Tree :=
  let names := namesOf p
  ⟨t.places.filter fun place => !startsWith place.1 names⟩

/-! ## Walks -/

/-- Why nothing is at a path. -/
inductive Absence where
  | notFound
  | notDirectory
  | tooManyLinks
  deriving DecidableEq, Repr

/-- The wording of an absence. -/
def Absence.message : Absence → String
  | .notFound => "No such file or directory (os error 2)"
  | .notDirectory => "Not a directory (os error 20)"
  | .tooManyLinks => "Too many levels of symbolic links (os error 40)"

/-- The number of symbolic links one walk may follow. -/
def linkLimit : Nat := 40

/-- Follows pieces from a directory, answering the physical place and what stands there. A piece
after a file asks for a directory and finds none. At a link `follow` goes on: the pieces of the
target stand in front of those left, from the root if the target is absolute. -/
def walkFrom (t : Tree) (follow : List Bytes → List Bytes → Except Absence (List Bytes × Node))
    (here : List Bytes) : List Bytes → Except Absence (List Bytes × Node)
  | [] => .ok (here, .directory)
  | piece :: rest =>
      if piece = [] ∨ piece = FilePath.dot then t.walkFrom follow here rest
      else if piece = FilePath.dotDot then t.walkFrom follow here.dropLast rest
      else
        match t.node? (here ++ [piece]) with
        | none => .error .notFound
        | some .directory => t.walkFrom follow (here ++ [piece]) rest
        | some (.file file) =>
            -- even an empty piece behind a file asks for a directory
            if rest = [] then .ok (here ++ [piece], .file file) else .error .notDirectory
        | some (.link target) =>
            follow (if target.isAbsolute then [] else here) (target.pieces ++ rest)

/-- Follows pieces from a directory through at most the given number of links. -/
def walk (t : Tree) : Nat → List Bytes → List Bytes → Except Absence (List Bytes × Node)
  | 0 => t.walkFrom fun _ _ => .error .tooManyLinks
  | links + 1 => t.walkFrom (t.walk links)

/-- Follows a path from the root. A relative path leads nowhere. -/
def find (t : Tree) (p : FilePath) : Except Absence (List Bytes × Node) :=
  if p.isAbsolute then t.walk linkLimit [] p.pieces else .error .notFound

/-- The text of a file. -/
def readText (t : Tree) (p : FilePath) : Except String String :=
  match t.find p with
  | .error absence => .error absence.message
  | .ok (_, .file file) => do
      match ofUtf8? (← file.content) with
      | some text => .ok text
      | none => .error "stream did not contain valid UTF-8"
  | .ok _ => .error "Is a directory (os error 21)"

/-- The physical path of what is at a path. -/
def canonicalize (t : Tree) (p : FilePath) : Except String FilePath :=
  match t.find p with
  | .error absence => .error absence.message
  | .ok (_, .file { canonical := some answer, .. }) => answer
  | .ok (names, _) => .ok (FilePath.ofPieces true names)

/-- The answers of a tree. -/
def fileSystem (t : Tree) : FileSystem where
  isPresent p := (t.find p).isOk
  isDir p :=
    match t.find p with
    | .ok (_, .directory) => true
    | _ => false
  readText := t.readText
  canonicalize := t.canonicalize

end Tree

end ModuleGraph
