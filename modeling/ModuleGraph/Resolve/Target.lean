import ModuleGraph.Package.Store
import ModuleGraph.Platform
import ModuleGraph.Text.Percent
import ModuleGraph.Url.Parser

/-!
# Resolving targets

Which location a target stands for. A conditional takes its first branch that holds and leads
anywhere, a list passes over items that are null or malformed, and a literal that starts with
`./` is followed from the directory of its package. Other literals name packages, which only
`imports` may do: there `TargetContext.enter` says how to resolve them.

Neither a literal nor what a star stands for may hold a segment that leaves the package or
enters the packages below it, however the segment is spelled.
-/

set_option autoImplicit false

namespace ModuleGraph

open Text

/-- Where a target stands and what may be done with it. -/
structure TargetContext where
  /-- The directory of the package, with its final slash. -/
  packageUrl : Url
  /-- What the star of the matched key stands for. -/
  captured : Option String
  conditions : ConditionSet
  /-- How a bare specifier is resolved, if the target may be one. -/
  enter : Option (String → Resolution Url)

/-- Either slash. -/
def isAnySlash (c : Char) : Bool := c = '/' || c = '\\'

/-- Segments that do not go further down in the package, in lower case. -/
def forbiddenSegments : List String := [".", "..", "node_modules"]

/-- The characters of a segment once its escapes are decoded, in lower case. -/
def plainSegment (seg : List Char) : String :=
  String.ofList ((lossy (percentDecode (encodeChars seg))).toList.map Char.toLower)

/-- Whether a path holds a segment that does not go further down, in any spelling. -/
def hasInvalidSegment (path : List Char) : Bool :=
  (splitAll isAnySlash path).any fun seg => forbiddenSegments.contains (plainSegment seg)

/-- Puts a text in the place of every star. -/
def substitute (captured : String) (cs : List Char) : List Char :=
  cs.flatMap fun c => if c = '*' then captured.toList else [c]

/-- Puts a text, if there is one, in the place of every star. -/
def substitute? (captured : Option String) (text : String) : String :=
  match captured with
  | some captured => String.ofList (substitute captured text.toList)
  | none => text

/-- The number a digit sequence denotes. -/
def digitsValue (cs : List Char) : Nat := cs.foldl (fun n c => n * 10 + (c.toNat - 0x30)) 0

/-- Whether a key is the decimal form of an array index: digits without leading zeros, below
`2 ^ 32 - 1`. -/
def isArrayIndex (key : String) : Bool :=
  let cs := key.toList
  !cs.isEmpty && !(1 < cs.length && cs.head? == some '0') && cs.all Char.isDigit &&
    digitsValue cs < 4294967295

namespace TargetContext

/-- The failure of a conditional with a key that looks like an array index. -/
def numericKey (ctx : TargetContext) (key : String) : ResolveError :=
  ⟨.invalidConfiguration, ctx.packageUrl.href ++
    "package.json \"exports\" cannot contain numeric property key " ++ quoted key⟩

/-- The failure of a capture that would leave the package. -/
def badCapture (ctx : TargetContext) (captured target : String) : ResolveError :=
  ⟨.invalidSpecifier, quoted captured ++ " is not a valid match in pattern " ++ quoted target ++
    " of " ++ ctx.packageUrl.href⟩

/-- Whether a literal without `./` could be more than the name of a package. -/
def isUnfitForPackage (target : String) : Bool :=
  target.toList.head? = some '/' ||
    (splitAll isAnySlash target.toList).any (· == ['.', '.']) || (Url.parse? target).isSome

/-- A literal that starts with `./`, of which `inner` is what follows: a file of the package. -/
def innerLocation (ctx : TargetContext) (target : String) (inner : List Char) :
    Except ResolveError Url :=
  if hasInvalidSegment inner then .error ⟨.invalidTarget, target⟩
  else
    match ctx.captured.filter fun captured => hasInvalidSegment captured.toList with
    | some captured => .error (ctx.badCapture captured target)
    | none =>
        let target := substitute? ctx.captured target
        match ctx.packageUrl.join? target with
        | some location => .ok location
        | none => .error ⟨.invalidTarget, target⟩

/-- The location a literal stands for. -/
def literal (ctx : TargetContext) (target : String) : Resolution Url :=
  match stripFront? ['.', '/'] target.toList with
  | some inner => Resolution.ofExcept (ctx.innerLocation target inner)
  | none =>
      match ctx.enter with
      | none => throw ⟨.invalidTarget, target⟩
      | some enter =>
          if isUnfitForPackage target then throw ⟨.invalidTarget, target⟩
          else enter (substitute? ctx.captured target)

end TargetContext

namespace Target

mutual

/-- The location a target stands for, or none if it offers nothing under the conditions. -/
def resolve (ctx : TargetContext) : Target → Resolution (Option Url)
  | .literal text => return some (← ctx.literal text)
  | .conditional branches =>
      match branches.find? fun branch => isArrayIndex branch.1 with
      | some (key, _) => throw (ctx.numericKey key)
      | none => resolveBranches ctx branches
  | .list items => resolveItems ctx items
  | .null => return none
  | .invalid text => throw ⟨.invalidTarget, text⟩

/-- The first branch that holds and leads anywhere. -/
def resolveBranches (ctx : TargetContext) : TargetMap → Resolution (Option Url)
  | [] => return none
  | (condition, target) :: rest =>
      if ctx.conditions.holds condition then do
        match ← resolve ctx target with
        | some location => return some location
        | none => resolveBranches ctx rest
      else resolveBranches ctx rest

/-- The first item that leads anywhere, malformed ones passed over. -/
def resolveItems (ctx : TargetContext) : List Target → Resolution (Option Url)
  | [] => return none
  | target :: rest => do
      match ← (resolve ctx target).outcome with
      | .ok (some location) => return some location
      | .ok none => resolveItems ctx rest
      | .error e => if e.kind = .invalidTarget then resolveItems ctx rest else throw e

end

end Target

end ModuleGraph
