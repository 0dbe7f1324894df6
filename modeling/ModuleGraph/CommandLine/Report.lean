import ModuleGraph.Graph.Basic
import ModuleGraph.Resolve.Resolver

/-!
# Reports

What users see: modules with their imports, locations, remarks and failures, coloured for a
terminal.
-/

set_option autoImplicit false

namespace ModuleGraph.CommandLine

open Text

/-- The ways a text is set off from others. -/
inductive Style where
  | identity
  | aside
  | success
  | remark
  | failure
  | emphasis
  deriving DecidableEq, Repr

/-- The terminal code of a style. -/
def Style.code : Style → String
  | identity => "36"
  | aside => "2;37"
  | success => "32"
  | remark => "33"
  | failure => "31"
  | emphasis => "1;37"

/-- A text in a style. -/
def Style.paint (style : Style) (text : String) : String :=
  "\x1b[" ++ style.code ++ "m" ++ text ++ "\x1b[0m"

/-- A line. -/
def line (text : String) : String := text ++ "\n"

namespace Report

/-- The part a module plays. -/
def role : Module → String
  | .loaded m => if m.isEntry then "entry" else "module"
  | .external _ => "external"

/-- The width of a text, in octets. -/
def width (text : String) : Nat := byteLength text.toList

/-- A module, its identity filled up to a width. -/
def moduleLine (column : Nat) (m : Module) : String :=
  let fill := String.ofList (List.replicate (column - width m.stableId) ' ')
  line (Style.identity.paint m.stableId ++ fill ++ " " ++
    Style.aside.paint (role m ++ " │ format: ") ++ m.format.name)

/-- An import, on a branch that goes on below unless it is the last. -/
def importLine (g : Graph) (isLast : Bool) (record : ImportRecord) : String :=
  let target := (g.modules[record.target]?.map Module.stableId).getD ""
  line ("  " ++ Style.aside.paint (if isLast then "└─" else "├─") ++ " " ++ record.specifier ++
    " " ++ Style.aside.paint ("(" ++ record.kind.name ++ ")") ++ " " ++ Style.aside.paint "→" ++
    " " ++ target)

/-- The imports of a module. -/
def importLines (g : Graph) : List ImportRecord → String
  | [] => ""
  | [record] => importLine g true record
  | record :: rest => importLine g false record ++ importLines g rest

/-- The modules of a graph in the order of the table. -/
def modules (g : Graph) : String :=
  let column := (g.modules.map fun m => width m.stableId).foldl max 0
  String.join (g.modules.map fun m => moduleLine column m ++ importLines g m.imports)

/-- The remarks on a graph. -/
def warnings (g : Graph) : String :=
  String.join (g.warnings.map fun w => line (Style.remark.paint "Warning:" ++ " " ++ w.message))

/-- A graph and how long it took. -/
def graph (g : Graph) (elapsed : String) : String :=
  warnings g ++ modules g ++
    line ("\n" ++ Style.success.paint "✔" ++ " Scanned " ++ toString g.modules.length ++
      " modules in " ++ Style.emphasis.paint elapsed)

/-- A failure. -/
def error (message : String) : String := line (Style.failure.paint "Error:" ++ " " ++ message)

/-- A location with its format. -/
def location (r : Resolved) : String :=
  line (Style.identity.paint r.location.href ++ " " ++ Style.aside.paint r.format.name)

/-- A resolution that failed. -/
def resolveError (e : ResolveError) : String :=
  error ("[" ++ e.kind.code ++ "] " ++ e.message)

end Report

end ModuleGraph.CommandLine
