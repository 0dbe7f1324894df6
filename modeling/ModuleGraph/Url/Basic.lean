import ModuleGraph.Text.Split

/-!
# Locations

A URL in its parts. The text of a URL is `Url.href`; the parts are already escaped, so writing
a URL only sets its delimiters.
-/

set_option autoImplicit false

namespace ModuleGraph

open Text

namespace Url

/-- Who serves a location: the host in its written form, empty for the local machine, with the
user and the port that go with it. A port that is the default of its scheme is left out. -/
structure Authority where
  username : String := ""
  password : Option String := none
  host : String
  port : Option Nat := none
  deriving DecidableEq, Repr, Inhabited

/-- A path is a sequence of segments, each with a slash before it, or, in schemes without a
hierarchy, a text of its own that no relative reference can be followed from. -/
inductive Path where
  | segments (segs : List String)
  | rootless (text : String)
  deriving DecidableEq, Repr, Inhabited

/-- The written form of a path. -/
def Path.text : Path → String
  | .segments segs => String.join (segs.map ("/" ++ ·))
  | .rootless text => text

/-- The written form of an authority. -/
def Authority.text (a : Authority) : String :=
  let user :=
    match a.password with
    | some password => a.username ++ ":" ++ password ++ "@"
    | none => if a.username = "" then "" else a.username ++ "@"
  let port :=
    match a.port with
    | some port => ":" ++ toString port
    | none => ""
  user ++ a.host ++ port

end Url

/-- A location. -/
structure Url where
  scheme : String
  authority : Option Url.Authority := none
  path : Url.Path
  query : Option String := none
  fragment : Option String := none
  deriving DecidableEq, Repr, Inhabited

namespace Url

/-- The written form of the path alone. -/
def pathText (u : Url) : String := u.path.text

/-- What stands between the scheme and the path. A path that opens with an empty segment must
not look like an authority, so a dot segment is written before it. -/
def authorityText (u : Url) : String :=
  match u.authority with
  | some a => "//" ++ a.text
  | none => if startsWith u.pathText.toList ['/', '/'] then "/." else ""

/-- A delimiter and the part that follows it, nothing for an absent part. -/
def optionalPart (mark : String) : Option String → String
  | some text => mark ++ text
  | none => ""

/-- The written form of a location. -/
def href (u : Url) : String :=
  u.scheme ++ ":" ++ u.authorityText ++ u.pathText ++ optionalPart "?" u.query ++
    optionalPart "#" u.fragment

/-- Whether the location is a file. -/
def isFile (u : Url) : Bool := u.scheme = "file"

/-- Whether no relative reference can be followed from the location. -/
def isRootless (u : Url) : Bool :=
  match u.path with
  | .rootless _ => true
  | .segments _ => false

/-- The location without its query and fragment. -/
def bare (u : Url) : Url := { u with query := none, fragment := none }

/-- Whether the path holds the escape of a slash or a backslash, in either case. -/
def hasEncodedSeparator (u : Url) : Bool :=
  let rec search : List Char → Bool
    | '%' :: h :: l :: rest =>
        (h = '2' && (l = 'f' || l = 'F')) || (h = '5' && (l = 'c' || l = 'C')) ||
          search (h :: l :: rest)
    | _ :: rest => search rest
    | [] => false
  search u.pathText.toList

/-- What follows the last slash of the path. -/
def fileName (u : Url) : String :=
  match splitLast? (· == '/') u.pathText.toList with
  | some (_, name) => String.ofList name
  | none => u.pathText

/-- What follows the last dot of the file name. -/
def extension? (u : Url) : Option String :=
  (splitLast? (· == '.') u.fileName.toList).map fun (_, ext) => String.ofList ext

end Url

end ModuleGraph
