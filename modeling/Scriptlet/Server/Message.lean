import Scriptlet.Json.Reading
import Scriptlet.Number.Numeral

/-!
# Messages of the language server

Inbound messages are read from JSON objects field by field. The name of a field is recognised in
any case, a field that is given twice takes its later value, null leaves a field as it is, unknown
fields are ignored, and a value of the wrong type makes the whole reading fail.
-/

namespace Scriptlet.Server

/-- One case for all spellings of a name: capitals, and the two characters beyond ASCII that have
an ASCII capital. -/
def foldedName (name : Text) : Text :=
  name.glyphs.flatMap fun glyph =>
    match glyph with
    | .char '\u017f' => [byte 'S']
    | .char '\u212a' => [byte 'K']
    | .char character => if character.isLower then [byte character.toUpper] else glyph.bytes
    | .stray _ => glyph.bytes

/-- Whether the spelled name of a member is the given one. -/
def isNamed (name : String) (spelling : Text) : Bool :=
  foldedName (Json.unescape spelling) = foldedName (text name)

/-- Reads a text over an older one. -/
def takeText (old : Text) : Json → Option Text
  | .null => some old
  | .string spelling => some (Json.unescape spelling)
  | _ => none

/-- The integer of a literal without point and exponent that fits 64 bits. -/
def integer? (literal : Text) : Option Int :=
  let (negative, digits) := Numeral.splitSign literal
  if digits.all Json.isDigit then
    let magnitude : Int := Numeral.ofDigits 10 digits
    let number := if negative then -magnitude else magnitude
    if -(Nat.pow 2 63 : Nat) ≤ number ∧ number < (Nat.pow 2 63 : Nat) then some number else none
  else
    none

/-- Reads an integer over an older one. -/
def takeInt (old : Int) : Json → Option Int
  | .null => some old
  | .number literal => integer? literal
  | _ => none

/-- Reads an object over an older record, member by member. -/
def takeObject (member : α → Text → Json → Option α) (old : α) : Json → Option α
  | .null => some old
  | .object members => members.foldlM (fun record (name, value) => member record name value) old
  | _ => none

/-- A message from the client. A message without an identifier expects no answer. -/
structure Inbound where
  method : Text := []
  id : Option Json := none
  params : Option Json := none

/-- Reads one member of a message. -/
def Inbound.member (message : Inbound) (name : Text) (value : Json) : Option Inbound :=
  if isNamed "jsonrpc" name then (takeText [] value).map fun _ => message
  else if isNamed "id" name then
    some { message with id := match value with
      | .null => none
      | _ => some value }
  else if isNamed "method" name then
    (takeText message.method value).map fun method => { message with method }
  else if isNamed "params" name then some { message with params := some value }
  else some message

/-- Reads a message. -/
def Inbound.ofJson? (value : Json) : Option Inbound :=
  takeObject Inbound.member {} value

/-- A document that a client names, with its text. -/
structure Document where
  uri : Text := []
  content : Text := []

/-- Reads one member of a document. -/
def Document.member (document : Document) (name : Text) (value : Json) : Option Document :=
  if isNamed "uri" name then (takeText document.uri value).map fun uri => { document with uri }
  else if isNamed "text" name then
    (takeText document.content value).map fun content => { document with content }
  else some document

/-- Reads the name of a document and nothing else. -/
def uriMember (uri : Text) (name : Text) (value : Json) : Option Text :=
  if isNamed "uri" name then takeText uri value else some uri

/-- The document that opening parameters hold. -/
def opened? (params : Json) : Option Document :=
  takeObject
    (fun document name value =>
      if isNamed "textDocument" name then takeObject Document.member document value
      else some document)
    {} params

/-- The name of the document that closing parameters hold. -/
def closed? (params : Json) : Option Text :=
  takeObject
    (fun uri name value =>
      if isNamed "textDocument" name then takeObject uriMember uri value else some uri)
    [] params

/-- Reads texts over older ones, each from an object. -/
def takeContents : List Text → List Json → Option (List Text)
  | _, [] => some []
  | old, item :: rest => do
      let content ← takeObject
        (fun content name value =>
          if isNamed "text" name then takeText content value else some content)
        (old.headD []) item
      let contents ← takeContents old.tail rest
      return content :: contents

/-- A list of texts. One that is given again is read over the older one: what an item leaves out it
takes from the item that stood in its place before, even if the list was shorter in between. -/
structure Listing where
  /-- The texts that have stood in each place. -/
  places : List Text := []
  /-- How many places the list has now. -/
  count : Nat := 0

/-- The texts of a list. -/
def Listing.contents (listing : Listing) : List Text :=
  listing.places.take listing.count

/-- Reads a list of texts over an older one; null and the empty list forget all older texts. -/
def takeListing (old : Listing) : Json → Option Listing
  | .null => some {}
  | .array [] => some {}
  | .array items =>
      (takeContents old.places items).map fun contents =>
        { places := contents ++ old.places.drop items.length, count := items.length }
  | _ => none

/-- The texts that a change brings, for the document with a name. -/
structure Change where
  uri : Text := []
  listing : Listing := {}

/-- The texts of a change. -/
def Change.contents (change : Change) : List Text :=
  change.listing.contents

/-- Reads one member of a change. -/
def Change.member (change : Change) (name : Text) (value : Json) : Option Change :=
  if isNamed "textDocument" name then
    (takeObject uriMember change.uri value).map fun uri => { change with uri }
  else if isNamed "contentChanges" name then
    (takeListing change.listing value).map fun listing => { change with listing }
  else some change

/-- The change that changing parameters hold. -/
def changed? (params : Json) : Option Change :=
  takeObject Change.member {} params

/-- A place in the document with a name. -/
structure Position where
  uri : Text := []
  line : Int := 0
  character : Int := 0

/-- Reads the line and the character of a place. -/
def Position.place (position : Position) (name : Text) (value : Json) : Option Position :=
  if isNamed "line" name then
    (takeInt position.line value).map fun line => { position with line }
  else if isNamed "character" name then
    (takeInt position.character value).map fun character => { position with character }
  else some position

/-- Reads one member of a position. -/
def Position.member (position : Position) (name : Text) (value : Json) : Option Position :=
  if isNamed "textDocument" name then
    (takeObject uriMember position.uri value).map fun uri => { position with uri }
  else if isNamed "position" name then takeObject Position.place position value
  else some position

/-- The position that parameters hold. -/
def position? (params : Json) : Option Position :=
  takeObject Position.member {} params

/-- A message to the client. -/
inductive Outbound where
  | result (id : Option Json) (value : Option Json)
  | error (id : Option Json) (code : Int) (wording : Text)
  | notification (method : Text) (params : Json)

/-- The JSON object of a message; fields without a value are left out. -/
def Outbound.toJson : Outbound → Json
  | .result id value =>
      .ofMembers ([("jsonrpc", .ofText (text "2.0"))] ++ (id.map fun id => ("id", id)).toList ++
        (value.map fun value => ("result", value)).toList)
  | .error id code wording =>
      .ofMembers ([("jsonrpc", .ofText (text "2.0"))] ++ (id.map fun id => ("id", id)).toList ++
        [("error", .ofMembers [("code", .ofInt code), ("message", .ofText wording)])])
  | .notification method params =>
      .ofMembers [("jsonrpc", .ofText (text "2.0")), ("method", .ofText method), ("params", params)]

end Scriptlet.Server
