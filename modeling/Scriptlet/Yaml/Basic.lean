import Scriptlet.Number.Integer
import Scriptlet.Text.Base64
import Scriptlet.Yaml.Timestamp

/-!
# YAML nodes

Scalars, sequences and mappings, each with the line it starts on and the tag it is given, and
aliases, which stand for a node that has a name. What a scalar stands for is decided by
`Scalar.resolve`: its tag comes first; without one, a quoted scalar is a text and a plain scalar
whatever it looks like.
-/

namespace Scriptlet

/-- A scalar as written. -/
structure Scalar where
  content : Text
  quoted : Bool := false
  /-- The tag it is given, in its short form. -/
  tag : Option Text := none
  line : Nat
  deriving DecidableEq, Repr

/-- A YAML node. -/
inductive Yaml where
  | scalar (value : Scalar)
  | sequence (items : List Yaml) (tag : Option Text) (line : Nat)
  | mapping (entries : List (Yaml × Yaml)) (tag : Option Text) (line : Nat)
  | alias (name : Text) (line : Nat) (target : Yaml)
  deriving Inhabited

/-- What a scalar stands for. -/
inductive Resolved where
  | null
  | bool (truth : Bool)
  | int (value : Int)
  | float (value : Number)
  | date
  | string (content : Text)
  /-- Something else than its tag says. -/
  | misfit (found : String)
  /-- Bytes that are not spelled as bytes are. -/
  | misspelled
  deriving DecidableEq

namespace Resolved

/-- The tag of what a scalar stands for. -/
def tag : Resolved → String
  | .null => "!!null"
  | .bool _ => "!!bool"
  | .int _ => "!!int"
  | .float _ => "!!float"
  | .date => "!!timestamp"
  | .string _ => "!!str"
  | .misfit found => found
  | .misspelled => "!!binary"

end Resolved

namespace Scalar

/-- The words with a meaning of their own. -/
def words : List (String × Resolved) :=
  [("", .null), ("~", .null), ("null", .null), ("Null", .null), ("NULL", .null),
    ("true", .bool true), ("True", .bool true), ("TRUE", .bool true),
    ("false", .bool false), ("False", .bool false), ("FALSE", .bool false),
    (".nan", .float .nan), (".NaN", .float .nan), (".NAN", .float .nan),
    (".inf", .float (.infinite false)), (".Inf", .float (.infinite false)),
    (".INF", .float (.infinite false)), ("+.inf", .float (.infinite false)),
    ("+.Inf", .float (.infinite false)), ("+.INF", .float (.infinite false)),
    ("-.inf", .float (.infinite true)), ("-.Inf", .float (.infinite true)),
    ("-.INF", .float (.infinite true))]

/-- The integer that a text spells with a sign between the mark of its base and its digits. -/
def signedBehindMark? (source : Text) : Option Int :=
  let inBase (base : Nat) (rest : Text) : Option Int :=
    let (negative, digits) := Numeral.splitSign rest
    if digits.isEmpty || digits.length = rest.length then none
    else match Integer.readDigits false base 0 digits with
      | .error _ => none
      | .ok value => (Integer.signed negative value).toOption
  match source with
  | 48 :: 98 :: rest => inBase 2 rest
  | 48 :: 111 :: rest => inBase 8 rest
  | _ => none

/-- The integer that a text without separators spells, signed or below 2⁶⁴. -/
def integer? (source : Text) : Option Int :=
  match Integer.read source with
  | .ok value => some value
  | .error _ =>
      match Integer.readUnsigned source with
      | .ok value => some value
      | .error _ => none

/-- The number that a text spells with decimal digits. -/
def float? (source : Text) : Option Number :=
  match Numeral.ofText? source with
  | some (.decimal negative magnitude) =>
      match (Numeral.decimal negative magnitude).value with
      | .infinite _ => none
      | number => some number
  | _ => none

/-- What a text that starts like a number stands for; it is taken for a point in time only where
one may stand. -/
def resolveNumber (dates : Bool) (source : Text) : Resolved :=
  let digits := source.filter (· ≠ byte '_')
  if dates && Yaml.isTimestamp source then .date
  else match integer? digits with
    | some value => .int value
    | none =>
        match float? digits with
        | some value => .float value
        | none =>
            match signedBehindMark? digits with
            | some value => .int value
            | none => .string source

/-- Whether a byte may start a number. -/
def startsNumber (first : UInt8) : Bool :=
  Numeral.isDigit first || first = byte '+' || first = byte '-'

/-- What a text looks like. -/
def resolveText (dates : Bool) (source : Text) : Resolved :=
  match words.find? fun word => text word.1 = source with
  | some word => word.2
  | none =>
      match source with
      | [] => .null
      | first :: _ =>
          if startsNumber first then resolveNumber dates source
          else if first = byte '.' then
            match float? source with
            | some value => .float value
            | none => .string source
          else .string source

/-- What a text stands for that has to be of the kind a tag names; a signed integer of 64 bits is
also a number with a fraction. -/
def resolveAs (tag source : Text) : Resolved :=
  let found := resolveText (tag = text "!!timestamp") source
  if text found.tag = tag then found
  else match found with
    | .int value =>
        if tag = text "!!float" && value < (Nat.pow 2 63 : Nat) then
          .float (.ofRatio (value < 0) (value.natAbs * one) 1)
        else .misfit found.tag
    | _ => .misfit found.tag

/-- The tags whose scalars have to look like what they are. -/
def checkedTags : List String :=
  ["!!bool", "!!int", "!!float", "!!null", "!!timestamp"]

/-- The plain scalar that asks for another mapping to be merged. -/
def isMerge (scalar : Scalar) : Bool :=
  scalar.content = text "<<" &&
    match scalar.tag with
    | none => !scalar.quoted
    | some tag => tag = text "!!merge"

/-- What a scalar stands for. -/
def resolve (scalar : Scalar) : Resolved :=
  match scalar.tag with
  | none => if scalar.quoted then .string scalar.content else resolveText true scalar.content
  | some tag =>
      if checkedTags.any fun checked => text checked = tag then resolveAs tag scalar.content
      else if tag = text "!!binary" then
        match Base64.decode? scalar.content with
        | some content => .string content
        | none => .misspelled
      else .string scalar.content

/-- The tag of a scalar: the one it is given, or that of what it stands for. -/
def ownTag (scalar : Scalar) : Text :=
  match scalar.tag with
  | some tag => tag
  | none => if scalar.isMerge then text "!!merge" else text scalar.resolve.tag

end Scalar

namespace Yaml

/-- The line a node starts on. -/
def line : Yaml → Nat
  | .scalar value => value.line
  | .sequence _ _ line => line
  | .mapping _ _ line => line
  | .alias _ line _ => line

/-- The node that a node stands for. -/
def target : Yaml → Yaml
  | .alias _ _ target => target
  | node => node

/-- What nothing stands for. -/
def null (line : Nat) : Yaml :=
  .scalar { content := [], line }

end Yaml

end Scriptlet
