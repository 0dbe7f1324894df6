import ModuleGraph.FilePath
import ModuleGraph.Text.Percent
import ModuleGraph.Url.Basic

/-!
# Locations of files

The passage between file paths and `file` locations: `Url.ofFilePath?` escapes the names of an
absolute path, `Url.toFilePath?` decodes the segments of a location. The second does not ask
for the scheme `file`: every location with segments and no foreign host has a path.
-/

set_option autoImplicit false

namespace ModuleGraph.Url

open Text

/-- The segment that stands for a component of a path. -/
def segmentOfComponent : FilePath.Component → Option String
  | .root => none
  | .current => some "."
  | .parent => some ".."
  | .normal name => some (String.ofList (percentEncodeBytes EscapeSet.fileName name))

/-- The location of an absolute path. A `..` of the path stays in the location. -/
def ofFilePath? (p : FilePath) : Option Url :=
  if p.isAbsolute then
    let segs := p.components.filterMap segmentOfComponent
    some
      { scheme := "file", authority := some { host := "" }
        path := .segments (if segs.isEmpty then [""] else segs) }
  else none

/-- The location of an absolute path with the final slash of a directory. -/
def ofDirPath? (p : FilePath) : Option Url :=
  (ofFilePath? p).map fun u =>
    match u.path with
    | .segments segs =>
        if segs.getLast? = some "" then u else { u with path := .segments (segs ++ [""]) }
    | .rootless _ => u

/-- Whether a location is on the local machine. -/
def isLocal (u : Url) : Bool :=
  match u.authority with
  | none => true
  | some a => a.host = "" || a.host = "localhost"

/-- Whether a spelling ends like a drive, which only a slash completes. -/
def endsLikeDrive (bs : Bytes) : Bool :=
  match bs.reverse with
  | mark :: letter :: _ :: _ =>
      (mark = 0x3A || mark = 0x7C) &&
        ((0x41 ≤ letter && letter ≤ 0x5A) || (0x61 ≤ letter && letter ≤ 0x7A))
  | _ => false

/-- The path a location denotes. -/
def toFilePath? (u : Url) : Option FilePath :=
  match u.path with
  | .rootless _ => none
  | .segments [] => none
  | .segments segs =>
      if u.isLocal then
        let bytes := segs.flatMap fun seg => FilePath.separator :: percentDecode (utf8 seg)
        some ⟨if endsLikeDrive bytes then bytes ++ [FilePath.separator] else bytes⟩
      else none

/-- The directory a location lies in: the location itself when it ends in a slash, its parent
otherwise. -/
def dirPath? (u : Url) : Option FilePath :=
  u.toFilePath?.bind fun p =>
    if u.pathText.toList.getLast? = some '/' then some p else p.parent?

end ModuleGraph.Url
