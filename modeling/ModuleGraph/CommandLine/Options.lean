import ModuleGraph.Platform
import ModuleGraph.Text.Split

/-!
# Options

The words of a command line and what they ask for. Words are read from left to right: one that
opens with a dash names options, every other one is a value of the option before it. The first
word that makes no sense, or that asks for help, ends the reading.
-/

set_option autoImplicit false

namespace ModuleGraph.CommandLine

open Text

/-- What a user asks for. -/
structure Options where
  /-- The directory to work in. -/
  cwd : Option String := none
  /-- The modules to start from. -/
  inputs : List String := []
  platform : Option Platform := none
  conditions : List String := []
  /-- A specifier to resolve in place of a scan. -/
  resolve : Option String := none
  deriving DecidableEq, Repr, Inhabited

/-- The options by name. -/
inductive Flag where
  | cwd
  | input
  | platform
  | condition
  | resolve
  /-- More is written to the log. -/
  | verbose
  /-- The log is written as JSON. -/
  | json
  | help
  | version
  deriving DecidableEq, Repr

namespace Flag

/-- The flag of a long name. -/
def ofLong? : String → Option Flag
  | "cwd" => some cwd
  | "input" => some input
  | "platform" => some platform
  | "condition" => some condition
  | "resolve" => some resolve
  | "verbose" => some verbose
  | "json" => some json
  | "help" => some help
  | "version" => some version
  | _ => none

/-- The flag of a letter. -/
def ofLetter? : Char → Option Flag
  | 'i' => some input
  | 'p' => some platform
  | 'C' => some condition
  | 'v' => some verbose
  | 'h' => some help
  | 'V' => some version
  | _ => none

/-- Whether values belong to a flag. -/
def takesValue : Flag → Bool
  | cwd | input | platform | condition | resolve => true
  | verbose | json | help | version => false

/-- Whether a flag takes all values up to the next flag. -/
def takesMany (flag : Flag) : Bool := flag == input

/-- Whether a flag may be given again. -/
def isRepeatable : Flag → Bool
  | input | condition | verbose => true
  | cwd | platform | resolve | json | help | version => false

end Flag

/-- What a command line asks for. -/
inductive Request where
  | run (options : Options)
  | help
  | version
  /-- Nothing that makes sense. -/
  | misuse
  deriving DecidableEq, Repr, Inhabited

/-- The options with a value for a flag. Paths are not empty, and platforms have names. -/
def Options.set? (o : Options) (flag : Flag) (value : String) : Option Options :=
  match flag with
  | .cwd => if value = "" then none else some { o with cwd := some value }
  | .input => if value = "" then none else some { o with inputs := o.inputs ++ [value] }
  | .platform => (Platform.ofName? value).map fun p => { o with platform := some p }
  | .condition => some { o with conditions := o.conditions ++ [value] }
  | .resolve => some { o with resolve := some value }
  | .verbose | .json | .help | .version => none

/-- What has been read of a command line. -/
structure Draft where
  options : Options := {}
  /-- The flags that have been given. -/
  given : List Flag := []
  /-- The flag that the next value belongs to. -/
  pending : Option Flag := none
  /-- Whether that flag can go without another value. -/
  isSatisfied : Bool := true

namespace Draft

/-- What follows from a word: the draft goes on, or the reading ends. -/
abbrev Step := Except Request Draft

/-- Takes a value. -/
def value (d : Draft) (text : String) : Step :=
  match d.pending with
  | none => .error .misuse
  | some flag =>
      match d.options.set? flag text with
      | none => .error .misuse
      | some options =>
          .ok { d with
            options, isSatisfied := true
            pending := if flag.takesMany then some flag else none }

/-- Takes a flag, with its value if one is attached to it. -/
def flag (d : Draft) (flag : Flag) (attached : Option String) : Step :=
  if d.given.contains flag && !flag.isRepeatable then .error .misuse
  else
    let d := { d with given := flag :: d.given, pending := none, isSatisfied := true }
    match flag, attached with
    | .help, none => .error .help
    | .version, none => .error .version
    | flag, none =>
        if flag.takesValue then .ok { d with pending := some flag, isSatisfied := false }
        else .ok d
    | flag, some text =>
        match d.options.set? flag text with
        | some options => .ok { d with options }
        | none => .error .misuse

/-- Takes letters that follow one dash. The first that has values takes the rest as one, an equals
sign in front of it left out. -/
def letters (d : Draft) : List Char → Step
  | [] => .ok d
  | c :: rest =>
      match Flag.ofLetter? c with
      | none => .error .misuse
      | some flag =>
          if flag.takesValue && !rest.isEmpty then
            let text := if rest.head? = some '=' then rest.tail else rest
            d.flag flag (some (String.ofList text))
          else
            match d.flag flag none with
            | .ok d => d.letters rest
            | .error request => .error request

/-- Takes a word that follows two dashes. -/
def long (d : Draft) (word : List Char) : Step :=
  let (name, attached) :=
    match splitFirst? (· == '=') word with
    | some (name, text) => (name, some (String.ofList text))
    | none => (word, none)
  match Flag.ofLong? (String.ofList name) with
  | none => .error .misuse
  | some flag => d.flag flag attached

/-- Takes a word. -/
def word (d : Draft) (text : String) : Step :=
  match text.toList with
  | '-' :: '-' :: rest => if d.isSatisfied then d.long rest else .error .misuse
  | '-' :: c :: rest => if d.isSatisfied then d.letters (c :: rest) else .error .misuse
  | _ => d.value text

/-- Reads the words that are left. Behind two dashes alone there may be values only, and no value
can stand there. -/
def finish (d : Draft) : List String → Request
  | [] => if d.isSatisfied then .run d.options else .misuse
  | "--" :: rest => if d.isSatisfied && rest.isEmpty then .run d.options else .misuse
  | text :: rest =>
      match d.word text with
      | .ok d => d.finish rest
      | .error request => request

end Draft

/-- What a command line asks for. -/
def Request.ofWords (words : List String) : Request := Draft.finish {} words

end ModuleGraph.CommandLine
