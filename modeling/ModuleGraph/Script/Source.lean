import ModuleGraph.Script.Grammar.Statement

/-!
# Source texts

The grammar as a whole, and the summary of a source text that follows it.
-/

set_option autoImplicit false

namespace ModuleGraph.Script

open ModuleGraph.Script.Parser

namespace Grammar

/-- The parser of a construct, given parsers for the constructs in it. -/
def step (g : Grammar) : Rule → Parser Shape
  | .expression => expression g
  | .assignment => assignment g
  | .operand degree => operand g degree
  | .unary => unary g
  | .access => access g
  | .pattern => pattern g
  | .statement isBody => statement g isBody
  | .block => block g
  | .statements => statements g
  | .type => type g
  | .unionType => unionType g

/-- The grammar for constructs that are nested at most so deep. -/
def ofDepth : Nat → Grammar
  | 0 => fun _ => failure
  | depth + 1 => step (ofDepth depth)

/-- How deep constructs can be nested, for every character of a source, before it has to be
read. -/
def depthPerCharacter : Nat := 16

end Grammar

namespace Source

/-- The setting at the top of a source. -/
def setting (dialect : Dialect) (limit : Nat) : Setting where
  lexis := { hasMarkupComments := dialect == .script, limit }
  isTyped := dialect == .typed
  await := dialect != .script

/-- The statements of a source, with what each of them imports and whether it exports. -/
def clauses (g : Grammar) : Parser (List (Option Import × Bool)) :=
  collect do
    match ← Grammar.statementOfBody? g atEnd with
    | none => return none
    | some (.clause source isExport) => return some (source, isExport)
    | some _ => return some (none, false)

end Source

/-- The summary of a source text, none if the text does not follow the grammar or is refused for
a mistake. -/
def Summary.ofSource? (dialect : Dialect) (source : String) : Option Summary :=
  let cs := source.toList
  let setting := Source.setting dialect (cs.length + 2)
  let g := Grammar.ofDepth (Grammar.depthPerCharacter * (cs.length + 2))
  let start : Progress := { token := Token.first setting.lexis cs }
  match ((Source.clauses g) setting).run start with
  | (some clauses, progress) =>
      if progress.hasMistake || !progress.unassigned.isEmpty then none
      else
        some
          { imports := clauses.filterMap Prod.fst
            hasExports := clauses.any Prod.snd }
  | (none, _) => none

end ModuleGraph.Script
