import Scriptlet.Text.Quoted
import Scriptlet.Text.Words
import Scriptlet.Token.Segment

/-!
# Node grammars

A node grammar lists the kinds of syntax tree nodes of a language, in two families: expressions and
statements. It is written for a Go package, so the names in it have to be Go identifiers. Checking a
family turns what is written into nodes with typed fields, or says what is wrong with it.
-/

namespace Scriptlet

/-- A kind of node as it is written: each field is a name and a type with a blank between them, and
`line` says where a node keeps its line. -/
structure NodeSpec where
  name : Text := []
  fields : List Text := []
  line : Text := []
  deriving DecidableEq

/-- The kinds of nodes of a language. -/
structure NodeGrammar where
  package : Text := []
  expressions : List NodeSpec := []
  statements : List NodeSpec := []
  deriving DecidableEq

/-- A field of a node. -/
structure NodeField where
  name : Text
  type : Text
  deriving DecidableEq

/-- A checked kind of node. -/
structure NodeKind where
  type : Text
  fields : List NodeField
  line : Text
  deriving DecidableEq

/-- The two families of nodes. -/
inductive NodeFamily where
  | expression
  | statement
  deriving DecidableEq, Repr

/-- What the names of a family's types end in. -/
def NodeFamily.suffix : NodeFamily → Text
  | .expression => text "Expr"
  | .statement => text "Stmt"

/-- The short name of a family. -/
def NodeFamily.shortName : NodeFamily → Text
  | .expression => text "expr"
  | .statement => text "stmt"

namespace NodeGrammar

/-- The grammar that is used when none is given. -/
def standard : NodeGrammar where
  package := text "lax"
  expressions := [
    { name := text "Binary", line := text "Operator.Line"
      fields := [text "Left Expression", text "Operator Token", text "Right Expression"] },
    { name := text "Grouping", fields := [text "Expression Expression"]
      line := text "Expression.Line()" },
    { name := text "Literal", fields := [text "Value *Value", text "position int"]
      line := text "position" },
    { name := text "Unary", fields := [text "Operator Token", text "Right Expression"]
      line := text "Operator.Line" }]
  statements := [
    { name := text "Expr", fields := [text "Expression Expression"]
      line := text "Expression.Line()" },
    { name := text "Print", fields := [text "Expression Expression", text "position int"]
      line := text "position" }]

/-- The kinds of nodes that a grammar lists for a family. -/
def specs (grammar : NodeGrammar) : NodeFamily → List NodeSpec
  | .expression => grammar.expressions
  | .statement => grammar.statements

/-- The words of Go that cannot be names. -/
def reservedWords : List String :=
  ["break", "case", "chan", "const", "continue", "default", "defer", "else", "fallthrough", "for",
    "func", "go", "goto", "if", "import", "interface", "map", "package", "range", "return",
    "select", "struct", "switch", "type", "var"]

/-- Whether a text is a Go identifier. -/
def isIdentifier (name : Text) : Bool :=
  match name.glyphs with
  | [] => false
  | first :: rest =>
      first.startsName && rest.all Glyph.continuesName &&
        !reservedWords.any fun word => text word = name

/-- What is wrong with a grammar. -/
inductive Problem where
  | invalidPackage (name : Text)
  | noNodes (family : NodeFamily)
  | invalidName (name : Text)
  | duplicate (type : Text)
  | malformedField (type written : Text)
  deriving DecidableEq

/-- The wording of what is wrong with a grammar. -/
def Problem.message : Problem → Text
  | .invalidPackage name => text "grammar: invalid package name " ++ Quoted.ofText name
  | .noNodes family => text "grammar: no " ++ family.shortName ++ text " nodes defined"
  | .invalidName name => text "grammar: invalid node name " ++ Quoted.ofText name
  | .duplicate type => text "grammar: duplicate node " ++ type
  | .malformedField type written =>
      text "grammar: " ++ type ++ text ": field " ++ Quoted.ofText written ++
        text " must be written as \"Name Type\""

/-- Checks a field of a node of the given type. -/
def checkField (type written : Text) : Except Problem NodeField :=
  match written.words with
  | [name, fieldType] =>
      if isIdentifier name then .ok ⟨name, fieldType⟩ else .error (.malformedField type written)
  | _ => .error (.malformedField type written)

/-- Checks a kind of node, given the types that its family has already. -/
def checkSpec (family : NodeFamily) (earlier : List Text) (spec : NodeSpec) :
    Except Problem NodeKind :=
  let type := spec.name ++ family.suffix
  if !isIdentifier spec.name then .error (.invalidName spec.name)
  else if earlier.contains type then .error (.duplicate type)
  else
    match spec.fields.mapM (checkField type) with
    | .error problem => .error problem
    | .ok fields => .ok { type, fields, line := spec.line }

/-- Checks kinds of nodes one after the other; the first problem counts. -/
def checkSpecs (family : NodeFamily) (earlier : List Text) :
    List NodeSpec → Except Problem (List NodeKind)
  | [] => .ok []
  | spec :: rest =>
      match checkSpec family earlier spec with
      | .error problem => .error problem
      | .ok kind =>
          match checkSpecs family (kind.type :: earlier) rest with
          | .error problem => .error problem
          | .ok kinds => .ok (kind :: kinds)

/-- The checked kinds of nodes of a family; there has to be one. -/
def kinds (grammar : NodeGrammar) (family : NodeFamily) : Except Problem (List NodeKind) :=
  match grammar.specs family with
  | [] => .error (.noNodes family)
  | specs => checkSpecs family [] specs

end NodeGrammar

end Scriptlet
