import ModuleGraph.Resolve.Error
import ModuleGraph.Text.Split

/-!
# Package names

A bare specifier is a package name and a way into the package. `PackageSpecifier.parse` cuts it
behind the name; the subpath keeps everything that is cut off, behind a dot.
-/

set_option autoImplicit false

namespace ModuleGraph

open Text

/-- A package and a place in it: `.` for the package itself, `./a` for the place `a`. -/
structure PackageSpecifier where
  name : String
  subpath : String
  deriving DecidableEq, Repr

namespace PackageSpecifier

/-- The subpath of the package itself. -/
def rootSubpath : String := "."

/-- Cuts in front of the first slash. -/
def cutAtSlash (cs : List Char) : List Char × List Char :=
  (cs.takeWhile (· != '/'), cs.dropWhile (· != '/'))

/-- Cuts behind a package name: in front of the first slash, or of the second if the name has a
scope. A scope without a slash is no name. -/
def cut? : List Char → Option (List Char × List Char)
  | '@' :: cs =>
      match cutAtSlash ('@' :: cs) with
      | (scope, slash :: rest) =>
          let (name, rest) := cutAtSlash rest
          some (scope ++ slash :: name, rest)
      | (_, []) => none
  | cs => some (cutAtSlash cs)

/-- Whether characters make a package name. -/
def isName (name : List Char) : Bool :=
  name.head? != some '.' && !name.contains '\\' && !name.contains '%'

/-- Cuts a bare specifier into package name and subpath. -/
def parse (specifier : String) : Except ResolveError PackageSpecifier :=
  match cut? specifier.toList with
  | some (name, rest) =>
      if isName name && rest.getLast? != some '/' then
        .ok { name := String.ofList name, subpath := String.ofList ('.' :: rest) }
      else .error ⟨.invalidSpecifier, specifier⟩
  | none => .error ⟨.invalidSpecifier, specifier⟩

end PackageSpecifier

end ModuleGraph
