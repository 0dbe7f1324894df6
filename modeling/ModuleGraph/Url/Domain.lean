import ModuleGraph.Text.Direction
import ModuleGraph.Text.Joining
import ModuleGraph.Text.Normalization
import ModuleGraph.Url.Domain.Mapping
import ModuleGraph.Url.Punycode

/-!
# Names of hosts

A name is a sequence of labels with dots between them. `toAscii?` gives names that a reader would
take for one and the same one form in ASCII, and refuses those that cannot be read with certainty:
with characters that are in no name, with marks or joiners that stand for nothing where they are,
or with numbers and letters whose order on the line is not their order in the name.
-/

set_option autoImplicit false

namespace ModuleGraph.Url.Domain

open Text

/-! ## Labels -/

/-- Whether a text is all ASCII. -/
def isAscii (cs : List Char) : Bool := cs.all (·.toNat < 0x80)

/-- What a label in code opens with. -/
def codeMark : List Char := ['x', 'n', '-', '-']

/-- The first character of a text that does not let its neighbours be joined over it. -/
def firstJoining (cs : List Char) : Joining :=
  ((cs.map joining).find? (· != .transparent)).getD .other

/-- Whether a joiner means something between the texts around it, the one before it with its last
character first. Both joiners change how consonants are written together; the other one keeps
letters apart that would be joined. -/
def joinerFits (c : Char) (before behind : List Char) : Bool :=
  before.head?.any (combiningClass · = viramaClass) ||
    (c = '\u200c' && [Joining.left, .dual].contains (firstJoining before) &&
      [Joining.right, .dual].contains (firstJoining behind))

/-- Whether all joiners of a label mean something, `before` being what has been looked at. -/
def joinersFit (before : List Char) : List Char → Bool
  | [] => true
  | c :: rest =>
      ((c != '\u200c' && c != '\u200d') || joinerFits c before rest) &&
        joinersFit (c :: before) rest

/-- Whether a label outside of ASCII can be read with certainty. It is in its one form, and no mark
goes with the dot before it. -/
def isSound (label : List Char) : Bool :=
  label.all (fun c => mapping? c == some [c]) && composed label == label &&
    !label.head?.any isMark && (stripFront? codeMark label).isNone && joinersFit [] label

/-- A label. -/
structure Label where
  /-- The text that is shown. -/
  shown : List Char
  /-- The form in ASCII. -/
  ascii : List Char
  deriving DecidableEq, Repr

/-- Reads a label whose characters have been mapped. What opens like a code has to be one, and of a
text that needs one. -/
def Label.ofText? (cs : List Char) : Option Label := do
  match stripFront? codeMark cs with
  | some code =>
      let shown ← Punycode.decode? code
      if isAscii cs && !isAscii shown && isSound shown then some { shown, ascii := cs } else none
  | none =>
      if isAscii cs then some { shown := cs, ascii := cs }
      else if isSound cs then some { shown := cs, ascii := codeMark ++ Punycode.encode cs }
      else none

/-! ## Directions -/

/-- Whether a text has characters that are written from right to left. -/
def hasRightToLeft (cs : List Char) : Bool :=
  cs.any fun c => [Direction.rightToLeft, .arabicNumber].contains (direction c)

/-- Whether the characters of a label are of some directions, and the last that is no mark of one
of some others. -/
def directionsWithin (directions inner last : List Direction) : Bool :=
  directions.all (fun d => d == .nonspacing || inner.contains d) &&
    (directions.reverse.find? (· != .nonspacing)).any last.contains

/-- Whether the order of a label on the line is certain beside text from right to left. -/
def hasCertainOrder (label : List Char) : Bool :=
  let directions := label.map direction
  match directions with
  | [] => true
  | .leftToRight :: _ =>
      directionsWithin directions [.leftToRight, .europeanNumber, .neutral]
        [.leftToRight, .europeanNumber]
  | .rightToLeft :: _ =>
      directionsWithin directions [.rightToLeft, .arabicNumber, .europeanNumber, .neutral]
          [.rightToLeft, .europeanNumber, .arabicNumber] &&
        !(directions.contains .europeanNumber && directions.contains .arabicNumber)
  | _ => false

/-! ## Names -/

/-- The form in ASCII of a name, if it has one. -/
def toAscii? (cs : List Char) : Option (List Char) := do
  let mapped := (← cs.mapM mapping?).flatten
  let labels ← (splitAll (· == '.') (composed mapped)).mapM Label.ofText?
  let isMixed := labels.any fun label => hasRightToLeft label.shown
  if isMixed && !labels.all fun label => hasCertainOrder label.shown then none
  else some (List.intercalate ['.'] (labels.map Label.ascii))

end ModuleGraph.Url.Domain
