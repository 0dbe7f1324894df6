import ModuleGraph.Text.Percent
import ModuleGraph.Url.Basic
import ModuleGraph.Url.Host

/-!
# Reading locations

A location is read in two steps. `Reference.ofString` cuts a text into scheme, body, query and
fragment; `Reference.resolve?` follows such a reference from a base, which only references
without a scheme of their own need. The segments of the body are laid on a `Trail` one by one,
which is where `.` and `..` are taken up.
-/

set_option autoImplicit false

namespace ModuleGraph.Url

open Text

/-! ## Cutting a text into its parts -/

/-- A reference cut at its delimiters, before anything is escaped. Of tabs and line ends the body
alone still has them: they count for nothing but where one follows a drive. -/
structure Reference where
  scheme : Option String
  body : List Char
  query : Option (List Char)
  fragment : Option (List Char)

/-- Whether a character is dropped at the ends of a reference. -/
def isControlOrSpace (c : Char) : Bool := c.toNat ≤ 0x20

/-- Whether a character is dropped wherever it stands. -/
def isTabOrNewline (c : Char) : Bool := c = '\t' || c = '\n' || c = '\r'

/-- A text without tabs and line ends. -/
def dropTabs (cs : List Char) : List Char := cs.filter fun c => !isTabOrNewline c

/-- Whether a character may stand in a scheme after the first letter. -/
def isSchemeChar (c : Char) : Bool := c.isAlphanum || c = '+' || c = '-' || c = '.'

/-- The scheme at the front, in lower case, and what follows its colon. -/
def splitScheme? : List Char → Option (String × List Char)
  | [] => none
  | c :: cs =>
      if c.isAlpha then
        match cs.dropWhile isSchemeChar with
        | ':' :: rest =>
            some (String.ofList ((c :: cs.takeWhile isSchemeChar).map Char.toLower), rest)
        | _ => none
      else none

/-- Cuts a text at the first of a mark. What follows the mark, if it is there, loses its tabs and
line ends. -/
def cutAt (mark : Char) (cs : List Char) : List Char × Option (List Char) :=
  match splitFirst? (· == mark) cs with
  | some (front, back) => (front, some (dropTabs back))
  | none => (cs, none)

/-- The scheme of a text, if it has one, and what follows its colon. -/
def cutScheme (cs : List Char) : Option String × List Char :=
  match splitScheme? (dropTabs cs) with
  | some (scheme, _) => (some scheme, (cs.dropWhile (· != ':')).tail)
  | none => (none, cs)

/-- Cuts a text into the parts of a reference. -/
def Reference.ofString (s : String) : Reference :=
  let (scheme, rest) := cutScheme (trimBoth isControlOrSpace s.toList)
  let (rest, fragment) := cutAt '#' rest
  let (body, query) := cutAt '?' rest
  { scheme, body, query, fragment }

/-- The body of a reference as most schemes see it. -/
def Reference.text (r : Reference) : List Char := dropTabs r.body

/-! ## Schemes -/

/-- The web schemes other than `file`, with their default ports. -/
def webSchemes : List (String × Nat) :=
  [("http", 80), ("https", 443), ("ws", 80), ("wss", 443), ("ftp", 21)]

/-- Whether a scheme has segments, hosts and backslashes as on the web. -/
def isSpecial (scheme : String) : Bool := scheme = "file" || (webSchemes.lookup scheme).isSome

/-- Either slash. -/
def isSlash (c : Char) : Bool := c = '/' || c = '\\'

/-- What separates the segments of a path: on the web a backslash counts as a slash. -/
def isSeparator (special : Bool) (c : Char) : Bool := c = '/' || (special && c = '\\')

/-! ## Segments -/

/-- Whether a segment names the directory itself; an escaped dot counts. -/
def isSingleDot (seg : List Char) : Bool :=
  [['.'], ['%', '2', 'e']].contains (seg.map Char.toLower)

/-- Whether a segment names the directory above; escaped dots count. -/
def isDoubleDot (seg : List Char) : Bool :=
  [['.', '.'], ['.', '%', '2', 'e'], ['%', '2', 'e', '.'], ['%', '2', 'e', '%', '2', 'e']].contains
    (seg.map Char.toLower)

/-- Whether a segment is a drive: a letter and a colon or a bar. -/
def isDrive : List Char → Bool
  | [letter, mark] => letter.isAlpha && (mark = ':' || mark = '|')
  | _ => false

/-- Whether a segment is a drive with a colon. -/
def isNormalDrive : List Char → Bool
  | [letter, ':'] => letter.isAlpha
  | _ => false

/-- Cuts a segment behind a drive with a colon, if a tab or a line end follows the drive and
anything else follows that. -/
def cutDrive? (seg : List Char) : Option (List Char × List Char) :=
  match seg.dropWhile isTabOrNewline with
  | [] => none
  | letter :: rest =>
      match rest.dropWhile isTabOrNewline with
      | ':' :: mark :: rest =>
          if letter.isAlpha && isTabOrNewline mark && !(dropTabs rest).isEmpty then
            some ([letter, ':'], dropTabs rest)
          else none
      | _ => none

/-- A path on the way from its first segment to its last: the finished segments, the text that
the segment now to come starts with, and whether a drive has taken the first place. -/
structure Trail where
  done : List String := []
  carry : String := ""
  drive : Bool := false

namespace Trail

/-- Closes the text carried over as a segment of its own. -/
def flush (t : Trail) : Trail :=
  if t.carry = "" then t else { t with done := t.done ++ [t.carry], carry := "" }

/-- Takes back the last segment. A drive stays where it is, and so does the root. -/
def up (t : Trail) : Trail :=
  match t.done.getLast? with
  | none => t
  | some last => if isDrive last.toList then t else { t with done := t.done.dropLast }

/-- The written form of an ordinary segment. -/
def segmentText (seg : List Char) : String :=
  String.ofList (percentEncode EscapeSet.path (dropTabs seg))

/-- Adds an ordinary segment in its escaped form. A drive at the front of a file path is written
with a colon. What stands behind it on another line is a segment of its own, whatever it is, and
the drive then says nothing about the host. -/
def push (file : Bool) (t : Trail) (seg : List Char) : Trail :=
  let isFront := file && t.done.isEmpty && t.carry = ""
  match if isFront then cutDrive? seg else none with
  | some (drive, rest) => { t with done := [String.ofList drive, segmentText rest] }
  | none =>
      let plain := dropTabs seg
      if isFront && isDrive plain then
        { t with done := [String.ofList (plain.take 1 ++ [':'])], drive := true }
      else { t with done := t.done ++ [t.carry ++ segmentText seg], carry := "" }

/-- Takes a segment that a separator follows. -/
def step (file : Bool) (t : Trail) (seg : List Char) : Trail :=
  if isDoubleDot (dropTabs seg) then if t.carry = "" then t.up else t.flush
  else if isSingleDot (dropTabs seg) then t.flush
  else t.push file seg

/-- Takes the last segment. A dot segment here leaves the directory with its slash. -/
def finish (file : Bool) (t : Trail) (seg : List Char) : Trail :=
  if isDoubleDot (dropTabs seg) then
    -- `..` behind a carried drive only ends the drive
    if t.carry = "" then { t.up with done := t.up.done ++ [""] } else t.flush
  else if isSingleDot (dropTabs seg) then { t.flush with done := t.flush.done ++ [""] }
  else t.push file seg

/-- Lays the segments of a path on the trail. -/
def walk (file : Bool) (t : Trail) : List (List Char) → Trail
  | [] => t
  | [seg] => t.finish file seg
  | seg :: rest => walk file (t.step file seg) rest

end Trail

/-- A file path never opens with empty segments. -/
def dropEmptyFront (segs : List String) : List String :=
  match segs.dropWhile (· == "") with
  | [] => [""]
  | rest => rest

/-! ## Resolving -/

/-- The query of a reference in its escaped form. -/
def Reference.queryText (r : Reference) (special : Bool) : Option String :=
  r.query.map fun q =>
    String.ofList (percentEncode (if special then EscapeSet.specialQuery else EscapeSet.query) q)

/-- The fragment of a reference in its escaped form. -/
def Reference.fragmentText (r : Reference) : Option String :=
  r.fragment.map fun f => String.ofList (percentEncode EscapeSet.fragment f)

/-- The location with the given place and the query and fragment of a reference. -/
def Reference.finish (r : Reference) (scheme : String) (authority : Option Authority)
    (path : Path) : Url :=
  { scheme, authority, path, query := r.queryText (isSpecial scheme), fragment := r.fragmentText }

/-- The location a reference without a body denotes: the base itself, with its own query unless
the reference brings one. -/
def Reference.onBase (r : Reference) (base : Url) : Url :=
  { base with
    query := if r.query.isSome then r.queryText (isSpecial base.scheme) else base.query
    fragment := r.fragmentText }

/-- The trail that starts in the directory of a base. A drive at the end of a file path is not
taken back: the next segment goes on where it ends, unless the drive is all there is. -/
def Trail.ofBase (base : Url) : Trail :=
  match base.path with
  | .rootless _ => {}
  | .segments segs =>
      match segs.getLast? with
      | some last =>
          if base.isFile && isNormalDrive last.toList then
            if segs.length = 1 then { done := segs } else { done := segs.dropLast, carry := last }
          else { done := segs.dropLast }
      | none => {}

/-- The place of a file on the local machine. -/
def localFile : Authority := { host := "" }

/-- A user and a password in front of a host, each in its escaped form. -/
def userinfo (cs : List Char) : String × Option String :=
  let enc (part : List Char) := String.ofList (percentEncode EscapeSet.userinfo part)
  match splitFirst? (· == ':') cs with
  | none => (enc cs, none)
  | some (user, []) => (enc user, none)
  | some (user, password) => (enc user, some (enc password))

/-- The host at the front of a text, up to a port or a path. Colons inside brackets belong to
the host. -/
def splitHost (special : Bool) : Bool → List Char → List Char × List Char
  | _, [] => ([], [])
  | inBrackets, c :: rest =>
      if (c = ':' && !inBrackets) || isSeparator special c then ([], c :: rest)
      else
        let inBrackets := if c = '[' then true else if c = ']' then false else inBrackets
        let (host, rest) := splitHost special inBrackets rest
        (c :: host, rest)

/-- The port at the front of a text. The default port of a scheme counts as none. -/
def splitPort? (scheme : String) (cs : List Char) : Option (Option Nat × List Char) :=
  let digits := cs.takeWhile Char.isDigit
  let rest := cs.dropWhile Char.isDigit
  let port := (Host.ofDigits? 10 digits).getD 0
  if 65535 < port then none
  else if rest.head?.any (fun c => !isSlash c) then none
  else if digits.isEmpty ∨ webSchemes.lookup scheme = some port then some (none, rest)
  else some (some port, rest)

/-- Cuts the user and the password off the front of an authority, which must not end with them. -/
def Reference.splitUser? (r : Reference) (special : Bool) (cs : List Char) :
    Option (String × Option String × List Char) :=
  match splitLast? (· == '@') (cs.takeWhile fun c => !isSeparator special c) with
  | none => some ("", none, cs)
  | some (user, host) =>
      let rest := host ++ cs.dropWhile fun c => !isSeparator special c
      if user.isEmpty then
        if host.isEmpty ∧ (rest ≠ [] ∨ r.query.isSome ∨ r.fragment.isSome) then none
        else some ("", none, rest)
      else
        let (username, password) := userinfo user
        some (username, password, rest)

/-- The segments of the path that follows an authority. -/
def pathSegments (special : Bool) (rest : List Char) : List String :=
  match rest with
  | [] => if special then [""] else []
  | c :: tail =>
      let body := if isSeparator special c then tail else rest
      (Trail.walk false {} (splitAll (isSeparator special) body)).done

/-- Reads what follows `//` outside of `file`: user, host, port and path. -/
def Reference.withAuthority? (r : Reference) (scheme : String) (cs : List Char) : Option Url :=
  let special := isSpecial scheme
  (r.splitUser? special cs).bind fun (username, password, rest) =>
    let (hostText, rest) := splitHost special false rest
    (if special then Host.ofDomain? hostText else Host.ofText? hostText).bind fun host =>
      let nextIsPort := rest.head? == some ':'
      if host = "" ∧ (nextIsPort ∨ username ≠ "" ∨ password.isSome) then none
      else
        (if nextIsPort then splitPort? scheme rest.tail else some (none, rest)).map
          fun (port, rest) =>
            r.finish scheme (some { username, password, host, port })
              (.segments (pathSegments special rest))

/-- Lays the segments of a file path on a trail. -/
def Trail.walkFile (t : Trail) (cs : List Char) : Trail := t.walk true (splitAll isSlash cs)

/-- The location of a file whose segments have been laid on a trail. -/
def Reference.file (r : Reference) (authority : Option Authority) (t : Trail) : Url :=
  r.finish "file" authority (.segments (dropEmptyFront t.done))

/-- Whether a text starts with a drive that is a segment of its own. -/
def startsWithDrive : List Char → Bool
  | [letter, mark] => isDrive [letter, mark]
  | letter :: mark :: next :: _ => isDrive [letter, mark] && isSlash next
  | _ => false

/-- What stands behind a slash, if one is next. -/
def behindSlash? (cs : List Char) : Option (List Char) :=
  match cs.dropWhile isTabOrNewline with
  | [] => none
  | c :: rest => if isSlash c then some rest else none

/-- Reads a `file` reference whose body starts with two slashes. An empty host and `localhost`
are the local machine, and there the slash after the host opens an empty segment. A path that
starts with a drive has no host. -/
def Reference.fileWithHost? (r : Reference) (cs : List Char) : Option Url :=
  let hostText := dropTabs (cs.takeWhile fun c => !isSlash c)
  let rest := cs.dropWhile fun c => !isSlash c
  if isDrive hostText then some (r.file (some localFile) (Trail.walkFile {} cs))
  else if hostText.isEmpty then some (r.file (some localFile) (Trail.walkFile {} rest))
  else
    (Host.ofDomain? hostText).map fun host =>
      if host = "localhost" then r.file (some localFile) (Trail.walkFile {} rest)
      else
        -- a drive cannot be on another host
        let t := Trail.walkFile {} rest.tail
        r.file (some (if t.drive then localFile else { host })) t

/-- Reads a `file` reference whose body starts with one slash: a path from the root of the
base's host, or from its drive. -/
def Reference.fileFromRoot (r : Reference) (base : Option Url) (cs : List Char) : Url :=
  if startsWithDrive (dropTabs cs) then r.file (some localFile) (Trail.walkFile {} cs)
  else
    match base with
    | none => r.file (some localFile) (Trail.walkFile {} cs)
    | some base =>
        match base.path with
        | .segments (first :: _) =>
            if isNormalDrive first.toList then
              r.file (some localFile) (Trail.walkFile { done := [first] } cs)
            else r.file base.authority (Trail.walkFile {} cs)
        | _ => r.file base.authority (Trail.walkFile {} cs)

/-- Reads a `file` reference, which a `file` base completes. -/
def Reference.file? (r : Reference) (base : Option Url) : Option Url :=
  if r.text.isEmpty then
    some ((base.map r.onBase).getD (r.file (some localFile) (Trail.walkFile {} [])))
  else
    match behindSlash? r.body with
    | some cs =>
        match behindSlash? cs with
        | some cs => r.fileWithHost? cs
        | none => some (r.fileFromRoot base cs)
    | none =>
        match base with
        | none => some (r.file (some localFile) (Trail.walkFile {} r.body))
        | some base =>
            if startsWithDrive r.text then
              some (r.file (some localFile) (Trail.walkFile {} r.body))
            else some (r.file base.authority (Trail.walkFile (Trail.ofBase base) r.body))

/-- Follows a reference from a base outside of `file`. Two slashes, of either kind, open an
authority. -/
def Reference.relative? (r : Reference) (base : Url) : Option Url :=
  let special := isSpecial base.scheme
  match r.text with
  | [] => some (r.onBase base)
  | '/' :: '/' :: rest => r.withAuthority? base.scheme rest
  | c :: cs =>
      if isSlash c then
        if cs.head?.any isSlash then r.withAuthority? base.scheme (cs.dropWhile isSlash)
        else
          let t := Trail.walk false {} (splitAll (isSeparator special) cs)
          some (r.finish base.scheme base.authority (.segments t.done))
      else
        let t := Trail.walk false (Trail.ofBase base) (splitAll (isSeparator special) r.text)
        some (r.finish base.scheme base.authority (.segments t.done))

/-- Reads a reference with a scheme outside the web. -/
def Reference.plain? (r : Reference) (scheme : String) : Option Url :=
  match r.text with
  | '/' :: '/' :: rest => r.withAuthority? scheme rest
  | '/' :: rest =>
      let t := Trail.walk false {} (splitAll (isSeparator false) rest)
      some (r.finish scheme none (.segments t.done))
  | body =>
      some (r.finish scheme none
        (.rootless (String.ofList (percentEncode EscapeSet.controls body))))

/-- Follows a reference from a base. -/
def Reference.resolve? (r : Reference) (base : Option Url) : Option Url :=
  match r.scheme with
  | some scheme =>
      if scheme = "file" then r.file? (base.filter Url.isFile)
      else if isSpecial scheme then
        match base with
        | some base =>
            if base.scheme = scheme ∧ (r.text.takeWhile isSlash).length < 2 then r.relative? base
            else r.withAuthority? scheme (r.text.dropWhile isSlash)
        | none => r.withAuthority? scheme (r.text.dropWhile isSlash)
      else r.plain? scheme
  | none =>
      match base with
      | none => none
      | some base =>
          if r.text.isEmpty ∧ r.query.isNone ∧ r.fragment.isSome then some (r.onBase base)
          else if base.isRootless then none
          else if base.isFile then r.file? (some base)
          else r.relative? base

/-- Reads an absolute location. -/
def parse? (s : String) : Option Url := (Reference.ofString s).resolve? none

/-- Follows a reference from the location `base`. -/
def join? (base : Url) (s : String) : Option Url := (Reference.ofString s).resolve? (some base)

end ModuleGraph.Url
