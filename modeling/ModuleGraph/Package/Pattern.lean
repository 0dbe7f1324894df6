import ModuleGraph.Package.Target
import ModuleGraph.Resolve.Error
import ModuleGraph.Text.Split
import ModuleGraph.Text.Utf8

/-!
# Pattern keys

A key with a star stands for all keys that have something in the star's place. Of the patterns
that match a key the most specific one counts: the one with the most text in front of its star,
and then the longest one. Lengths are counted in octets.
-/

set_option autoImplicit false

namespace ModuleGraph

open Text

namespace Pattern

/-- The octets of a key up to and with its first star, or all of them if there is none. -/
def baseLength (key : List Char) : Nat :=
  match splitFirst? (· == '*') key with
  | some (front, _) => byteLength front + 1
  | none => byteLength key

/-- Orders keys by how specific they are, the most specific first: a longer base, then a longer
key. -/
def compareKeys (a b : String) : Ordering :=
  (compare (baseLength b.toList) (baseLength a.toList)).then
    (compare (byteLength b.toList) (byteLength a.toList))

/-- The keys of a list, the most specific first. Keys that are equally specific keep their
order. -/
def sortKeys (keys : List String) : List String :=
  keys.mergeSort fun a b => compareKeys a b != .gt

/-- The number of stars of a key. -/
def starCount (key : String) : Nat := key.toList.count '*'

/-- What the star of a pattern `front*back` stands for in a key: the text between `front` and
`back`, which must not be empty. -/
def capture? (pattern key : String) : Option String :=
  match splitFirst? (· == '*') pattern.toList with
  | none => none
  | some (front, back) =>
      match stripFront? front key.toList with
      | none => none
      | some rest =>
          if rest.length ≤ back.length then none
          else
            let middle := rest.take (rest.length - back.length)
            if rest.drop (rest.length - back.length) = back then some (String.ofList middle)
            else none

/-- The entry of a map that a key matches by pattern. -/
structure Match where
  target : Target
  /-- What the star stands for. -/
  captured : String

/-- The first of the given patterns that a key matches, with its entry of the map. -/
def firstMatch? (key : String) (map : TargetMap) : List String → Option Match
  | [] => none
  | pattern :: rest =>
      match capture? pattern key, map.lookup pattern with
      | some captured, some target => some { target, captured }
      | _, _ => firstMatch? key map rest

/-- The most specific pattern of a map that a key matches. A map with a key of more than one star
is refused, whether that key would match or not. -/
def match? (key : String) (map : TargetMap) : Except ResolveError (Option Match) :=
  let keys := map.map Prod.fst
  match keys.find? fun k => 1 < starCount k with
  | some k => .error ⟨.invalidConfiguration, quoted k ++ " contains more than one \"*\""⟩
  | none => .ok (firstMatch? key map (sortKeys (keys.filter fun k => starCount k = 1)))

end Pattern

end ModuleGraph
