import Scriptlet.Text.Quoted
import Scriptlet.Yaml.Reading

/-!
# Decoding YAML

Taking values out of nodes. A decoder says what a node holds, or that it holds nothing, and lists
everything that does not fit, so that one reading of a source reports all of it; only a mismatch
that leaves nothing to go on with is reported alone. Decoders of collections take the decoder of
their parts as an argument. A mapping may ask for others to be merged into it, and these for more.
-/

namespace Scriptlet.Yaml

/-- Something in a source that does not fit where it stands. -/
inductive Mismatch where
  | kind (line : Nat) (tag : Text) (content : Text) (type : String)
  | unknownField (line : Nat) (name : Text) (type : String)
  | repeatedField (line : Nat) (name : Text) (type : String)
  | repeatedKey (line : Nat) (name : Text) (first : Nat)
  | wrongTag (found : String) (content given : Text)
  | misspelledBytes
  | unmergeable
  deriving DecidableEq

namespace Mismatch

/-- A scalar as a mismatch shows it: only the beginning of a long one. -/
def excerpt (content : Text) : Text :=
  text " \x60" ++ (if 10 < content.length then content.take 7 ++ text "..." else content) ++
    text "\x60"

/-- Whether a tag is that of a collection, whose content is not shown. -/
def isCollectionTag (tag : Text) : Bool :=
  tag = text "!!seq" || tag = text "!!map"

/-- Whether a mismatch leaves nothing to go on with. -/
def isFatal : Mismatch → Bool
  | .wrongTag .. => true
  | .misspelledBytes => true
  | .unmergeable => true
  | _ => false

/-- The wording of a mismatch. -/
def message : Mismatch → Text
  | .kind line tag content type =>
      text "line " ++ Text.ofNat line ++ text ": cannot unmarshal " ++ tag ++
        (if isCollectionTag tag then content else excerpt content) ++ text " into " ++ text type
  | .unknownField line name type =>
      text "line " ++ Text.ofNat line ++ text ": field " ++ name ++
        text " not found in type " ++ text type
  | .repeatedField line name type =>
      text "line " ++ Text.ofNat line ++ text ": field " ++ name ++
        text " already set in type " ++ text type
  | .repeatedKey line name first =>
      text "line " ++ Text.ofNat line ++ text ": mapping key " ++ Quoted.ofText name ++
        text " already defined at line " ++ Text.ofNat first
  | .wrongTag found content given =>
      text "cannot decode " ++ text found ++ text " \x60" ++ content ++ text "\x60 as a " ++ given
  | .misspelledBytes => text "!!binary value contains invalid base64 data"
  | .unmergeable => text "map merge requires map or sequence of maps as the value"

end Mismatch

/-- Why a source gives no value. -/
inductive Unreadable where
  | malformed (found : Malformed)
  | mismatched (found : List Mismatch)

/-- The wording of why a source gives no value: the first mismatch that leaves nothing to go on
with, or else each mismatch on a line of its own. -/
def Unreadable.message : Unreadable → Text
  | .malformed found => found.message
  | .mismatched found =>
      match found.find? Mismatch.isFatal with
      | some mismatch => text "yaml: " ++ mismatch.message
      | none =>
          text "yaml: unmarshal errors:\n  " ++
            Text.joinWith (text "\n  ") (found.map Mismatch.message)

/-- What decoding a node gives: a value, if the node holds one, and all that does not fit. -/
structure Decoded (α : Type) where
  value : Option α := none
  mismatches : List Mismatch := []

namespace Decoded

/-- The node holds a value. -/
def pure (value : α) : Decoded α :=
  { value := some value }

/-- The node holds nothing. -/
def nothing : Decoded α :=
  {}

/-- Something does not fit. -/
def mismatch (found : Mismatch) : Decoded α :=
  { mismatches := [found] }

end Decoded

/-- The mismatch between a node and the type asked for. -/
def mismatch (type : String) : Yaml → Mismatch
  | .scalar value => .kind value.line value.ownTag value.content type
  | .sequence _ tag line => .kind line (tag.getD (text "!!seq")) [] type
  | .mapping _ tag line => .kind line (tag.getD (text "!!map")) [] type
  | .alias _ _ target => mismatch type target

/-- The text that a key is compared by; an alias has its name, and collections have none. -/
def keyText : Yaml → Text
  | .scalar value => value.content
  | .alias name _ _ => name
  | _ => []

/-- Whether two nodes are of the same shape. -/
def sameShape : Yaml → Yaml → Bool
  | .scalar _, .scalar _ => true
  | .sequence .., .sequence .. => true
  | .mapping .., .mapping .. => true
  | .alias .., .alias .. => true
  | _, _ => false

/-- Each pair of equal keys of a mapping, in the order of the earlier key. -/
def repeatedKeys : List (Yaml × Yaml) → List Mismatch
  | [] => []
  | (key, _) :: rest =>
      (rest.filter fun (later, _) => key.sameShape later && key.keyText = later.keyText).map
          (fun (later, _) => .repeatedKey later.line later.keyText key.line) ++
        repeatedKeys rest

/-- The mismatch of a node that is no scalar; repeated keys count before that. -/
def collectionMismatch (type : String) (node : Yaml) : Decoded α :=
  match node with
  | .mapping entries _ _ =>
      match repeatedKeys entries with
      | [] => .mismatch (node.mismatch type)
      | found => { mismatches := found }
  | _ => .mismatch (node.mismatch type)

/-- Decodes a scalar by what it stands for; one that is not what its tag says fits nowhere. -/
def ofScalar (value : Scalar) (decode : Resolved → Decoded α) : Decoded α :=
  match value.resolve with
  | .null => .nothing
  | .misfit found => .mismatch (.wrongTag found value.content value.ownTag)
  | .misspelled => .mismatch .misspelledBytes
  | resolved => decode resolved

/-- Decodes a text: any scalar, as it is written. -/
def toText (node : Yaml) : Decoded Text :=
  match node.target with
  | .scalar value => ofScalar value fun
      | .string content => .pure content
      | _ => .pure value.content
  | target => target.collectionMismatch "string"

/-- The whole part of a number as an integer of 64 bits; below their range it is the least one. -/
def wholePart? (number : Number) : Option Int :=
  let least : Int := -(Nat.pow 2 63 : Nat)
  match number with
  | .nan => none
  | .infinite negative => if negative then some least else none
  | .finite negative magnitude _ =>
      let whole : Nat := magnitude / one
      if negative then
        if whole ≤ Nat.pow 2 63 then some (-(whole : Int)) else some least
      else if whole < Nat.pow 2 63 then some whole
      else if magnitude = Nat.pow 2 63 * one then some least
      else none

/-- Decodes an integer of 64 bits; a fraction is cut off. -/
def toInt (node : Yaml) : Decoded Int :=
  match node.target with
  | .scalar value =>
      let misfit := Decoded.mismatch (node.mismatch "int")
      ofScalar value fun
        | .int whole => if whole < (Nat.pow 2 63 : Nat) then .pure whole else misfit
        | .float number =>
            match wholePart? number with
            | some whole => .pure whole
            | none => misfit
        | _ => misfit
  | target => target.collectionMismatch "int"

/-- The words that stand for a truth value where one is asked for. -/
def switchWord? (content : Text) : Option Bool :=
  let isOneOf (words : List String) : Bool := words.any fun word => text word = content
  if isOneOf ["y", "Y", "yes", "Yes", "YES", "on", "On", "ON"] then some true
  else if isOneOf ["n", "N", "no", "No", "NO", "off", "Off", "OFF"] then some false
  else none

/-- Decodes a truth value. -/
def toBool (node : Yaml) : Decoded Bool :=
  match node.target with
  | .scalar value =>
      let misfit := Decoded.mismatch (node.mismatch "bool")
      ofScalar value fun
        | .bool truth => .pure truth
        | .string content =>
            match switchWord? content with
            | some truth => .pure truth
            | none => misfit
        | _ => misfit
  | target => target.collectionMismatch "bool"

/-- Decodes a list; items that hold nothing are left out. -/
def toList (type : String) (item : Yaml → Decoded α) (node : Yaml) : Decoded (List α) :=
  match node.target with
  | .sequence items _ _ =>
      let decoded := items.map item
      { value := some (decoded.filterMap Decoded.value)
        mismatches := decoded.flatMap Decoded.mismatches }
  | .scalar value =>
      match value.resolve with
      | .null => .pure []
      | _ => ofScalar value fun _ => .mismatch (node.mismatch type)
  | target => target.collectionMismatch type

/-- A named part of a record, and what a node does to it. -/
structure Field (σ : Type) where
  name : String
  update : Yaml → σ → σ × List Mismatch

/-- The field that a decoder and a setter make; a node that holds nothing changes nothing. -/
def Field.of (name : String) (decode : Yaml → Decoded α) (set : α → σ → σ) : Field σ where
  name
  update node record :=
    let decoded := decode node
    ((decoded.value.map (set · record)).getD record, decoded.mismatches)

/-- How records of a type are decoded: the name of the type, whether other keys are refused, and the
fields. -/
structure RecordFormat (σ : Type) where
  type : String
  strict : Bool := false
  fields : List (Field σ)

/-- A record while entries of a mapping are read into it. -/
structure Filling (σ : Type) where
  record : σ
  mismatches : List Mismatch := []
  /-- The fields that the mapping has set. -/
  done : List Text := []
  /-- In a mapping that is merged, the names that count no more. -/
  passed : Option (List Text) := none

namespace Filling

/-- Adds mismatches. -/
def report (filling : Filling σ) (found : List Mismatch) : Filling σ :=
  { filling with mismatches := filling.mismatches ++ found }

/-- Gives a field what an entry holds. -/
def set (filling : Filling σ) (format : RecordFormat σ) (key node : Yaml) (name : Text) :
    Filling σ :=
  match format.fields.find? fun field => text field.name = name with
  | some field =>
      if filling.done.contains name then
        filling.report [.repeatedField key.line name format.type]
      else
        let (record, found) := field.update node filling.record
        { filling with record, done := name :: filling.done }.report found
  | none =>
      if format.strict then filling.report [.unknownField key.line name format.type] else filling

/-- Reads an entry; a key that holds nothing is passed over, and so is one that counts no more. -/
def take (filling : Filling σ) (format : RecordFormat σ) (key node : Yaml) : Filling σ :=
  let decoded := key.toText
  match decoded.value with
  | none => filling.report decoded.mismatches
  | some name =>
      if filling.passed.any fun passed => passed.contains name then filling
      else { filling with passed := filling.passed.map (name :: ·) }.set format key node name

end Filling

/-- Whether a key asks for mappings to be merged. -/
def isMergeKey : Yaml → Bool
  | .scalar value => value.isMerge
  | _ => false

/-- Reads the entries of a mapping into a record. -/
def fill (format : RecordFormat σ) (filling : Filling σ) (entries : List (Yaml × Yaml)) :
    Filling σ :=
  entries.foldl
    (fun filling (key, node) =>
      if key.isMergeKey then filling else filling.take format key node)
    { filling with done := [] }

/-- The names that the keys of a mapping spell. -/
def keyNames (entries : List (Yaml × Yaml)) : List Text :=
  entries.filterMap fun (key, _) =>
    match key.target with
    | .scalar value =>
        match value.resolve with
        | .string content => some content
        | _ => none
    | _ => none

mutual

/-- Merges what a node holds into a record: a mapping, or several in the order of their rank. -/
def mergeNode (format : RecordFormat σ) (filling : Filling σ) : Yaml → Filling σ
  | .sequence items _ _ => mergeItems format filling items
  | .mapping entries _ _ =>
      match repeatedKeys entries with
      | [] => mergeEntry format (fill format filling entries) entries
      | found => filling.report found
  | .alias _ _ (.mapping entries _ _) =>
      match repeatedKeys entries with
      | [] => mergeEntry format (fill format filling entries) entries
      | found => filling.report found
  | _ => filling.report [.unmergeable]

/-- Merges mappings into a record. -/
def mergeItems (format : RecordFormat σ) (filling : Filling σ) : List Yaml → Filling σ
  | [] => filling
  | item :: rest =>
      let merged := match item with
        | .sequence .. => filling.report [.unmergeable]
        | item => mergeNode format filling item
      mergeItems format merged rest

/-- Merges what the entries of a mapping ask for. -/
def mergeEntry (format : RecordFormat σ) (filling : Filling σ) :
    List (Yaml × Yaml) → Filling σ
  | [] => filling
  | (key, node) :: rest =>
      if key.isMergeKey then mergeNode format filling node else mergeEntry format filling rest

end

/-- Decodes a record, starting from what it holds when nothing is said. -/
def toRecord (format : RecordFormat σ) (start : σ) (node : Yaml) : Decoded σ :=
  match node.target with
  | .mapping entries _ _ =>
      match repeatedKeys entries with
      | [] =>
          let filled := fill format { record := start } entries
          let merged := mergeEntry format { filled with passed := some (keyNames entries) } entries
          { value := some merged.record, mismatches := merged.mismatches }
      | found => { mismatches := found }
  | .scalar value => ofScalar value fun _ => .mismatch (node.mismatch format.type)
  | target => .mismatch (target.mismatch format.type)

/-- Reads a source as a record; a source without content says nothing. -/
def readRecord (format : RecordFormat σ) (start : σ) (source : Text) : Except Unreadable σ :=
  match ofSource source with
  | .error found => .error (.malformed found)
  | .ok none => .ok start
  | .ok (some node) =>
      let decoded := toRecord format start node
      match decoded.mismatches with
      | [] => .ok (decoded.value.getD start)
      | found => .error (.mismatched found)

end Scriptlet.Yaml
