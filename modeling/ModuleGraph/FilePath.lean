import ModuleGraph.Text.Split
import ModuleGraph.Text.Utf8

/-!
# File paths

A path is the octets it is spelled with. Its *pieces* are what stands between the separators;
a piece is *skipped* when it is empty or a dot, except for a dot that opens a relative path.
Two spellings with the same components name the same file, which `components` makes explicit,
while `parent?`, `ancestors` and `join` keep the spelling of what they do not touch.
-/

set_option autoImplicit false

namespace ModuleGraph

open Text

/-- A path as it is spelled. -/
structure FilePath where
  bytes : Bytes
  deriving DecidableEq, Inhabited

namespace FilePath

/-- The octet that separates pieces. -/
def separator : UInt8 := 0x2F

/-- The piece that stands for the directory itself. -/
def dot : Bytes := [0x2E]

/-- The piece that stands for the directory above. -/
def dotDot : Bytes := [0x2E, 0x2E]

/-- The path spelled by a text. -/
def ofString (s : String) : FilePath := ⟨utf8 s⟩

/-- The spelling as text, with U+FFFD for what is not UTF-8. -/
def display (p : FilePath) : String := lossy p.bytes

/-- Whether the path starts at the root. -/
def isAbsolute (p : FilePath) : Bool := p.bytes.head? == some separator

/-- The pieces below the root, or of the whole path when it is relative. -/
def pieces (p : FilePath) : List Bytes :=
  splitAll (· == separator) (if p.isAbsolute then p.bytes.tail else p.bytes)

/-- Spells pieces with a separator between them, below the root or not. -/
def ofPieces (rooted : Bool) (pieces : List Bytes) : FilePath :=
  ⟨(if rooted then [separator] else []) ++ List.intercalate [separator] pieces⟩

/-! ## Components -/

/-- What a piece of a path means. -/
inductive Component where
  | root
  | current
  | parent
  | normal (name : Bytes)
  deriving DecidableEq, Repr

/-- The meaning of a piece that is not the first, if it has one. -/
def Component.ofPiece? (piece : Bytes) : Option Component :=
  if piece = [] ∨ piece = dot then none
  else if piece = dotDot then some .parent
  else some (.normal piece)

/-- The components of a path. Empty pieces and dots vanish, except for a dot that opens a
relative path; `..` is kept as it stands. -/
def components (p : FilePath) : List Component :=
  let named := p.pieces.filterMap Component.ofPiece?
  if p.isAbsolute then .root :: named
  else if p.pieces.head? = some dot then .current :: named
  else named

/-! ## Parents -/

/-- Drops skipped pieces from a list that has the last piece first. -/
def dropSkipped (rooted : Bool) : List Bytes → List Bytes
  | [] => []
  | piece :: earlier =>
      if piece = [] ∨ (piece = dot ∧ (rooted = true ∨ earlier ≠ [])) then
        dropSkipped rooted earlier
      else
        piece :: earlier

/-- The name of the file or directory, absent for the root, for `..` and for a lone dot. -/
def fileName? (p : FilePath) : Option Bytes :=
  match dropSkipped p.isAbsolute p.pieces.reverse with
  | [] => none
  | piece :: _ => if piece = dotDot ∨ piece = dot then none else some piece

/-- The path without its last component, absent for the root and the empty path. -/
def parent? (p : FilePath) : Option FilePath :=
  match dropSkipped p.isAbsolute p.pieces.reverse with
  | [] => none
  | _ :: earlier =>
      some (ofPieces p.isAbsolute (dropSkipped p.isAbsolute earlier).reverse)

/-- The proper ancestors of the path spelled by pieces, last piece first, nearest first. -/
def properAncestors (rooted : Bool) : List Bytes → List FilePath
  | [] => []
  | piece :: earlier =>
      if piece = [] ∨ (piece = dot ∧ (rooted = true ∨ earlier ≠ [])) then
        properAncestors rooted earlier
      else
        ofPieces rooted (dropSkipped rooted earlier).reverse :: properAncestors rooted earlier

/-- The path itself, its parent, and so on up to the root or the empty path. -/
def ancestors (p : FilePath) : List FilePath :=
  p :: properAncestors p.isAbsolute p.pieces.reverse

/-! ## Building -/

/-- Follows `q` from the directory `p`: an absolute `q` stands for itself. -/
def join (p q : FilePath) : FilePath :=
  if q.isAbsolute then q
  else if p.bytes = [] ∨ p.bytes.getLast? = some separator then ⟨p.bytes ++ q.bytes⟩
  else ⟨p.bytes ++ separator :: q.bytes⟩

/-- `join` with a text. -/
def joinText (p : FilePath) (s : String) : FilePath := p.join (ofString s)

/-! ## Relative paths -/

/-- The names on the way down from the root once every `..` has taken back a name. -/
def normalNames (p : FilePath) : List Bytes :=
  p.components.foldl (fun names component =>
    match component with
    | .normal name => names ++ [name]
    | .parent => names.dropLast
    | .root | .current => names) []

/-- Drops the front two lists have in common. -/
def dropCommon : List Bytes → List Bytes → List Bytes × List Bytes
  | a :: as, b :: bs => if a = b then dropCommon as bs else (a :: as, b :: bs)
  | as, bs => (as, bs)

/-- The way from the directory `base` to `p`: one `..` for every name of `base` that `p` does not
share, then the names of `p` that are left. Equal places are joined by the empty path. -/
def relativeTo (p base : FilePath) : FilePath :=
  let (down, up) := dropCommon p.normalNames base.normalNames
  ofPieces false (up.map (fun _ => dotDot) ++ down)

end FilePath

end ModuleGraph
