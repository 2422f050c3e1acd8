import Scriptlet.Yaml.Basic
import Scriptlet.Yaml.Signs

/-!
# Reading nodes

The signs of a source are read as one document, from the first to the last sign of its node; what
follows the document is not looked at. The readers of collections take the reader of their parts as
an argument, so that only the reader of nodes calls itself; its fuel bounds the nesting, and the
fuel of the others the number of parts.
-/

namespace Scriptlet.Yaml

/-- How far a source is read: the signs to come, the nodes with names, oldest first, and what the
handles of tags stand for. -/
structure Progress where
  signs : Signs
  anchors : List (Text × Yaml) := []
  handles : List (Text × Text) := []

/-- What reads a part of a source. -/
abbrev Reader (α : Type) := StateT Progress (Except Malformed) α

namespace Reader

/-- The next sign, which stays where it is. -/
def peek : Reader PlacedSign := fun progress =>
  match progress.signs.settle with
  | .error malformed => .error malformed
  | .ok signs => .ok (signs.first, { progress with signs })

/-- Passes over the next sign. -/
def skip : Reader Unit :=
  modify fun progress => { progress with signs := progress.signs.rest }

/-- Gives up, because of a defect in a part that began on a line. -/
def refuse (defect : Defect) (beginning own : Nat) : Reader α :=
  throw (.structural defect beginning own)

/-- Nothing, on a line counted from zero. -/
def nothing (line : Nat) : Yaml :=
  null (line + 1)

/-- Reads a node, or nothing if one of the given signs comes first. -/
def orNothing (ends : List Sign) (line : Nat) (read : Reader Yaml) : Reader Yaml := do
  let next ← peek
  if ends.contains next.sign then return nothing line else read

/-- What a node is called, how it is tagged, and the line it starts on. -/
structure Properties where
  anchor : Option Text
  /-- The tag in full. -/
  tag : Option Text
  line : Nat

/-- The beginning of the tags of the format itself. -/
def standardTags : Text :=
  text "tag:yaml.org,2002:"

/-- The handles that every document has. -/
def standardHandles : List (Text × Text) :=
  [(text "!", text "!"), (text "!!", standardTags)]

/-- A tag in full, if its handle is known. -/
def fullTag? (handles : List (Text × Text)) (written : WrittenTag) : Option Text :=
  if written.handle.isEmpty then some written.suffix
  else match (handles ++ standardHandles).find? fun (handle, _) => handle = written.handle with
    | none => none
    | some (_, address) =>
        let full := address ++ written.suffix
        if full.isEmpty then none else some full

/-- The short form of a tag; the tag without a name says nothing. -/
def shortTag? (full : Text) : Option Text :=
  if full = text "!" then none
  else if standardTags.isPrefixOf full then some (text "!!" ++ full.drop standardTags.length)
  else some full

/-- Reads an anchor, if there is one. -/
def anchor? : Reader (Option Text) := do
  let next ← peek
  match next.sign with
  | .anchor name =>
      skip
      return some name
  | _ => return none

/-- Reads a tag, if there is one, with its line. -/
def tag? : Reader (Option (WrittenTag × Nat)) := do
  let next ← peek
  match next.sign with
  | .tag written =>
      skip
      return some (written, next.line)
  | _ => return none

/-- Reads an anchor and a tag, in either order. -/
def properties : Reader Properties := do
  let line := (← peek).line
  let before ← anchor?
  let tag ← tag?
  let anchor ← if before.isNone && tag.isSome then anchor? else pure before
  let _ ← peek
  match tag with
  | none => return { anchor, tag := none, line }
  | some (written, own) =>
      match fullTag? (← get).handles written with
      | none => refuse .unknownHandle line own
      | some full => return { anchor, tag := some full, line }

/-- Reads a node under its name. While it is read, the name stands for an empty node; the name may
be given to another node on the way, and then keeps standing for that. -/
def named (anchor : Option Text) (empty : Yaml) (read : Reader Yaml) : Reader Yaml := do
  match anchor with
  | none => read
  | some name =>
      let position := (← get).anchors.length
      modify fun progress => { progress with anchors := progress.anchors ++ [(name, empty)] }
      let node ← read
      modify fun progress =>
        { progress with anchors := progress.anchors.set position (name, node) }
      return node

/-- The node that a name stands for. -/
def resolveAlias (name : Text) (line : Nat) : Reader Yaml := do
  match (← get).anchors.reverse.find? fun (anchor, _) => anchor = name with
  | some (_, target) => return .alias name line target
  | none => throw { defect := .unknownAnchor name }

/-- Reads a node: whether it may be a block collection, and whether it may be a block sequence that
is not indented. -/
abbrev NodeReader := Bool → Bool → Reader Yaml

/-- Reads the items of a block sequence. -/
def blockItems (node : NodeReader) (start : Nat) (done : List Yaml) : Nat → Reader (List Yaml)
  | 0 => refuse .expectedItem start start
  | fuel + 1 => do
      let next ← peek
      match next.sign with
      | .dash =>
          skip
          let item ← orNothing [.dash, .blockEnd] next.line (node true false)
          blockItems node start (item :: done) fuel
      | .blockEnd =>
          skip
          return done.reverse
      | _ => refuse .expectedItem start next.line

/-- Reads the items of a block sequence that is not indented: it has no sign for its end. -/
def plainItems (node : NodeReader) (done : List Yaml) : Nat → Reader (List Yaml)
  | 0 => return done.reverse
  | fuel + 1 => do
      let next ← peek
      match next.sign with
      | .dash =>
          skip
          let item ← orNothing [.dash, .key, .value, .blockEnd] next.line (node true false)
          plainItems node (item :: done) fuel
      | _ => return done.reverse

/-- Reads the value of an entry, if there is one; the signs are those that follow an empty one. -/
def entryValue (ends : List Sign) (node : Reader Yaml) : Reader Yaml := do
  let next ← peek
  match next.sign with
  | .value =>
      skip
      orNothing ends next.line node
  | _ => return nothing next.line

/-- The signs that follow an empty key or value of a block mapping. -/
def blockEnds : List Sign :=
  [.key, .value, .blockEnd]

/-- Reads the entries of a block mapping. -/
def blockEntries (node : NodeReader) (start : Nat) (done : List (Yaml × Yaml)) :
    Nat → Reader (List (Yaml × Yaml))
  | 0 => refuse .expectedKey start start
  | fuel + 1 => do
      let next ← peek
      match next.sign with
      | .key =>
          skip
          let key ← orNothing blockEnds next.line (node true true)
          let value ← entryValue blockEnds (node true true)
          blockEntries node start ((key, value) :: done) fuel
      | .blockEnd =>
          skip
          return done.reverse
      | _ => refuse .expectedKey start next.line

/-- Passes over the comma before a part that is not the first one. -/
def comma (first : Bool) (defect : Defect) (start : Nat) : Reader Unit := do
  let next ← peek
  if first then return ()
  else if next.sign = .comma then skip
  else refuse defect start next.line

/-- Reads a mapping of one entry that is an item in brackets. An empty key takes the sign behind it
along. -/
def flowPair (node : NodeReader) : Reader (Yaml × Yaml) := do
  let next ← peek
  if [Sign.value, .comma, .closeSequence].contains next.sign then
    skip
    let value ← entryValue [.comma, .closeSequence] (node false false)
    return (nothing next.line, value)
  else
    let key ← node false false
    let value ← entryValue [.comma, .closeSequence] (node false false)
    return (key, value)

/-- Reads the items of a sequence in brackets. -/
def flowItems (node : NodeReader) (start : Nat) (first : Bool) (done : List Yaml) :
    Nat → Reader (List Yaml)
  | 0 => refuse .expectedFlowItem start start
  | fuel + 1 => do
      if (← peek).sign = .closeSequence then
        skip
        return done.reverse
      else
        comma first .expectedFlowItem start
        let next ← peek
        match next.sign with
        | .closeSequence =>
            skip
            return done.reverse
        | .key =>
            skip
            let pair ← flowPair node
            flowItems node start false (.mapping [pair] none (next.line + 1) :: done) fuel
        | _ =>
            let item ← node false false
            flowItems node start false (item :: done) fuel

/-- Reads the entries of a mapping in braces; a node without a colon is a key without a value. -/
def flowEntries (node : NodeReader) (start : Nat) (first : Bool) (done : List (Yaml × Yaml)) :
    Nat → Reader (List (Yaml × Yaml))
  | 0 => refuse .expectedFlowEntry start start
  | fuel + 1 => do
      if (← peek).sign = .closeMapping then
        skip
        return done.reverse
      else
        comma first .expectedFlowEntry start
        let next ← peek
        match next.sign with
        | .closeMapping =>
            skip
            return done.reverse
        | .key =>
            skip
            let key ← orNothing [.value, .comma, .closeMapping] next.line (node false false)
            let value ← entryValue [.comma, .closeMapping] (node false false)
            flowEntries node start false ((key, value) :: done) fuel
        | _ =>
            let key ← node false false
            let value := nothing (← peek).line
            flowEntries node start false ((key, value) :: done) fuel

/-- Reads the content of a node behind its name and tag. -/
def content (node : NodeReader) (block indentless : Bool) (own : Properties) (fuel : Nat) :
    Reader Yaml := do
  let next ← peek
  let tag := own.tag.bind shortTag?
  let line := own.line + 1
  let sequence (items : Reader (List Yaml)) : Reader Yaml :=
    named own.anchor (.sequence [] tag line) do return .sequence (← items) tag line
  let mapping (entries : Reader (List (Yaml × Yaml))) : Reader Yaml :=
    named own.anchor (.mapping [] tag line) do return .mapping (← entries) tag line
  let scalar (content : Text) (quoted : Bool) : Reader Yaml :=
    let node := Yaml.scalar { content, quoted, tag, line }
    named own.anchor node (return node)
  match next.sign, block, indentless with
  | .dash, _, true => sequence (plainItems node [] fuel)
  | .scalar content quoted, _, _ =>
      skip
      scalar content quoted
  | .openSequence, _, _ =>
      skip
      sequence (flowItems node next.line true [] fuel)
  | .openMapping, _, _ =>
      skip
      mapping (flowEntries node next.line true [] fuel)
  | .blockSequence, true, _ =>
      skip
      sequence (blockItems node next.line [] fuel)
  | .blockMapping, true, _ =>
      skip
      mapping (blockEntries node next.line [] fuel)
  | _, _, _ =>
      if own.anchor.isSome || own.tag.isSome then scalar [] false
      else refuse .expectedContent own.line next.line

/-- Reads a node. -/
def node (fuel : Nat) (block indentless : Bool) : Reader Yaml :=
  match fuel with
  | 0 => refuse .expectedContent 0 0
  | fuel + 1 => do
      let next ← peek
      match next.sign with
      | .alias name =>
          skip
          resolveAlias name (next.line + 1)
      | _ => content (node fuel) block indentless (← properties) fuel

/-- Reads the directives of a document; there is one version of the format, and no handle is given
two meanings. -/
def directives (versioned : Bool) : Nat → Reader Unit
  | 0 => return ()
  | fuel + 1 => do
      let next ← peek
      match next.sign with
      | .directive (.version major minor) =>
          if versioned then refuse .repeatedVersion 0 next.line
          else if major ≠ 1 || minor ≠ 1 then refuse .unknownVersion 0 next.line
          else
            skip
            directives true fuel
      | .directive (.shorthand handle address) =>
          if (← get).handles.any fun (known, _) => known = handle then
            refuse .repeatedHandle 0 next.line
          else
            modify fun progress =>
              { progress with handles := progress.handles ++ [(handle, address)] }
            skip
            directives versioned fuel
      | _ => return ()

/-- Whether a sign belongs to the next document. -/
def leavesDocument : Sign → Bool
  | .directive _ => true
  | .documentStart => true
  | .documentEnd => true
  | .sourceEnd => true
  | _ => false

/-- Reads a document that starts with directives or with its mark. -/
def markedDocument (fuel : Nat) : Reader Yaml := do
  directives false fuel
  let start ← peek
  if start.sign ≠ .documentStart then refuse .expectedDocument 0 start.line
  else
    skip
    let next ← peek
    if leavesDocument next.sign then return nothing next.line else node fuel true false

/-- Reads the first document of a source, if there is one. -/
def document (fuel : Nat) : Reader (Option Yaml) := do
  let next ← peek
  match next.sign with
  | .sourceEnd => return none
  | .directive _ | .documentStart =>
      let root ← markedDocument fuel
      let _ ← peek
      return some root
  | _ =>
      let root ← node fuel true false
      let _ ← peek
      return some root

end Reader

/-- Reads a source; one without content holds no document. No character makes more than four
signs. -/
def ofSource (source : Text) : Except Malformed (Option Yaml) :=
  match Signs.ofSource source with
  | .error malformed => .error malformed
  | .ok signs =>
      match (Reader.document (4 * signs.extent + 8)).run { signs } with
      | .error malformed => .error malformed
      | .ok (document, _) => .ok document

end Scriptlet.Yaml
