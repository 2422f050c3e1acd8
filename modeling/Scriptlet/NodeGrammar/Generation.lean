import Scriptlet.FileTree
import Scriptlet.NodeGrammar.Source
import Scriptlet.Yaml.Decoding

/-!
# Generating from node grammars

Reading a grammar from a file, and writing one Go file for each of its families into a folder. The
folder is made first; the families are then checked, laid out and written one after the other, so
the file of the expressions is there even if the statements turn out to be wrong. What the formatter
objects to is a parameter; unless it is given, it is what cannot be read.
-/

namespace Scriptlet.NodeGrammar

/-- How a kind of node is written in a file. -/
def specFormat : Yaml.RecordFormat NodeSpec where
  type := "main.nodeSpec"
  fields := [
    .of "name" Yaml.toText fun name spec => { spec with name },
    .of "fields" (Yaml.toList "[]string" Yaml.toText) fun fields spec => { spec with fields },
    .of "line" Yaml.toText fun line spec => { spec with line }]

/-- How a list of kinds of nodes is written in a file. -/
def toSpecs (node : Yaml) : Yaml.Decoded (List NodeSpec) :=
  Yaml.toList "[]main.nodeSpec" (Yaml.toRecord specFormat {}) node

/-- How a grammar is written in a file. -/
def format : Yaml.RecordFormat NodeGrammar where
  type := "main.grammar"
  fields := [
    .of "package" Yaml.toText fun package grammar => { grammar with package },
    .of "expressions" toSpecs fun expressions grammar => { grammar with expressions },
    .of "statements" toSpecs fun statements grammar => { grammar with statements }]

/-- Reads a grammar. -/
def ofSource (source : Text) : Except Yaml.Unreadable NodeGrammar :=
  Yaml.readRecord format {} source

/-- Why nothing, or not everything, is generated. -/
inductive Ungenerated where
  | problem (found : Problem)
  | unformatted (family : NodeFamily) (complaint : Text)
  | folder (written : Text) (found : Obstacle)
  | file (written : Text) (found : Obstacle)

/-- The wording of why not everything is generated. -/
def Ungenerated.message : Ungenerated → Text
  | .problem found => found.message
  | .unformatted family complaint =>
      text "format " ++ familyNoun family ++ text " nodes: " ++ complaint
  | .folder written found =>
      text "create output directory: mkdir " ++ written ++ text ": " ++ found.message
  | .file written found =>
      text "write " ++ written ++ text ": open " ++ written ++ text ": " ++ found.message

/-- The file of a family in a folder, as it is written on the command line. -/
def filePath (out : Text) (family : NodeFamily) : Text :=
  Path.clean (out ++ [Path.separator] ++ family.shortName ++ text ".go")

/-- Checks a family, lays it out and writes its file. -/
def generateFamily (grammar : NodeGrammar) (objection : Objection) (tree : FileTree)
    (folder : Path) (out : Text) (family : NodeFamily) : Except Ungenerated FileTree :=
  match grammar.kinds family with
  | .error found => .error (.problem found)
  | .ok kinds =>
      match objection grammar.package family kinds with
      | some complaint => .error (.unformatted family complaint)
      | none =>
          let written := filePath out family
          match tree.save folder written (source grammar.package family kinds) with
          | .error found => .error (.file written found)
          | .ok next => .ok next

/-- Generates the files of the given families. What was written before a problem stays. -/
def generateFamilies (grammar : NodeGrammar) (objection : Objection) (tree : FileTree)
    (folder : Path) (out : Text) : List NodeFamily → FileTree × Option Ungenerated
  | [] => (tree, none)
  | family :: rest =>
      match grammar.generateFamily objection tree folder out family with
      | .ok next => generateFamilies grammar objection next folder out rest
      | .error found => (tree, some found)

/-- The families in the order in which they are generated. -/
def families : List NodeFamily :=
  [.expression, .statement]

/-- Generates the files of a grammar into the folder at a written path. -/
def generate (grammar : NodeGrammar) (tree : FileTree) (folder : Path) (out : Text)
    (objection : Objection := unreadable) : FileTree × Option Ungenerated :=
  if !isIdentifier grammar.package then (tree, some (.problem (.invalidPackage grammar.package)))
  else match tree.ensureFolders folder out with
    | (made, some (written, found)) => (made, some (.folder written found))
    | (made, none) => grammar.generateFamilies objection made folder out families

end Scriptlet.NodeGrammar
