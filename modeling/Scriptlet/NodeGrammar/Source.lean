import Scriptlet.NodeGrammar.Basic
import Scriptlet.NodeGrammar.PhraseReading

/-!
# Go sources of node grammars

The Go file that declares one family of nodes: an interface, a struct with its methods for every
kind, a visitor, and a function that hands a node to a visitor. The file is laid out as the Go
formatter lays it out: field types stand in one column, and a function stands on one line as long as
it is short enough. The formatter refuses what is no Go at all, as the types of fields may make of a
file; what it objects to is not worked out here but given.
-/

namespace Scriptlet.NodeGrammar

/-- The interface that all nodes of a family have in common. -/
def baseName : NodeFamily → Text
  | .expression => text "Expression"
  | .statement => text "Statement"

/-- The method that marks the nodes of a family. -/
def markerName (family : NodeFamily) : Text :=
  family.shortName ++ text "Node"

/-- The interface of a family's visitors. -/
def visitorName (family : NodeFamily) : Text :=
  family.suffix ++ text "Visitor"

/-- What the nodes of a family are called in messages. -/
def familyNoun : NodeFamily → Text
  | .expression => text "expression"
  | .statement => text "statement"

/-- The longest head and body that stand together on one line. -/
def lineLimit : Nat := 99

/-- A function with at most one statement: on one line if head and body are short enough. -/
def functionLines (head body : Text) : List Text :=
  if head.length + body.length ≤ lineLimit then
    [head ++ text " \x7b" ++ (if body.isEmpty then [] else text " " ++ body ++ text " ") ++
      text "\x7d"]
  else
    [head ++ text " \x7b"] ++ (if body.isEmpty then [] else [text "\t" ++ body]) ++ [text "\x7d"]

/-- The struct and the methods of a kind of node. -/
def kindLines (family : NodeFamily) (kind : NodeKind) : List Text :=
  let fields := kind.fields.map fun field => Phrase.ofField field.name field.type
  let receiver := text "func (n *" ++ kind.type ++ text ") "
  [[], text "type " ++ kind.type ++ text " struct \x7b"] ++
    (Phrase.fieldLines fields).map (text "\t" ++ ·) ++
    [text "\x7d", []] ++
    functionLines (receiver ++ markerName family ++ text "()") [] ++
    (if kind.line.isEmpty then []
      else functionLines (receiver ++ text "Line() int")
        (text "return " ++ Phrase.usualExpressions (text "n." ++ kind.line)))

/-- The head of the file; the interface of all nodes is declared with the expressions. -/
def headLines (package : Text) (family : NodeFamily) : List Text :=
  [text "// Code generated by \"lax ast\"; DO NOT EDIT.", [], text "package " ++ package, [],
    text "import \"fmt\"", []] ++
    (match family with
      | .expression => [text "type Node interface \x7b", text "\tLine() int", text "\x7d", []]
      | .statement => []) ++
    [text "type " ++ baseName family ++ text " interface \x7b", text "\tNode",
      text "\t" ++ markerName family ++ text "()", text "\x7d"]

/-- The interface of visitors: one method for every kind. -/
def visitorLines (family : NodeFamily) (kinds : List NodeKind) : List Text :=
  [[], text "type " ++ visitorName family ++ text "[R any] interface \x7b"] ++
    kinds.map (fun kind =>
      text "\tVisit" ++ kind.type ++ text "(*" ++ kind.type ++ text ") (R, error)") ++
    [text "\x7d"]

/-- The function that hands a node to the method for its kind. -/
def acceptLines (family : NodeFamily) (kinds : List NodeKind) : List Text :=
  [[], text "func Accept" ++ family.suffix ++ text "[R any](node " ++ baseName family ++
      text ", v " ++ visitorName family ++ text "[R]) (R, error) \x7b",
    text "\tswitch n := node.(type) \x7b"] ++
    kinds.flatMap (fun kind =>
      [text "\tcase *" ++ kind.type ++ text ":",
        text "\t\treturn v.Visit" ++ kind.type ++ text "(n)"]) ++
    [text "\tdefault:", text "\t\tvar zero R",
      text "\t\treturn zero, fmt.Errorf(\"unsupported " ++ familyNoun family ++
        text " %T\", node)",
      text "\t\x7d", text "\x7d"]

/-- The file that declares a family of nodes. -/
def source (package : Text) (family : NodeFamily) (kinds : List NodeKind) : Text :=
  (headLines package family ++ kinds.flatMap (kindLines family) ++ visitorLines family kinds ++
    acceptLines family kinds).flatMap fun line => line ++ [Text.newline]

/-- What the formatter objects to in the file that declares a family of a package, if it refuses to
lay it out. -/
abbrev Objection := Text → NodeFamily → List NodeKind → Option Text

/-- Whether the types of a kind of node, and where it keeps its line, can be read. Comments are not
read, nor a second field behind a semicolon, nor the body of a function. -/
def isReadable (kind : NodeKind) : Bool :=
  kind.fields.all (fun field => (Phrase.ofField? field.name field.type).isSome) &&
    (kind.line.isEmpty || (Phrase.usualExpressions? (text "n." ++ kind.line)).isSome)

/-- Objects to the first kind of node that cannot be read. The formatter words this in its own way,
and it names the place where reading fails. -/
def unreadable : Objection :=
  fun _ _ kinds =>
    (kinds.find? fun kind => !isReadable kind).map fun kind => text "cannot read " ++ kind.type

end Scriptlet.NodeGrammar
