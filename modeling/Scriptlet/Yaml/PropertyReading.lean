import Scriptlet.Yaml.ScalarReading

/-!
# Reading names, tags and directives

Anchors and aliases have names. A tag is written in full between angle brackets, or as a suffix
behind a handle that stands for the beginning of many tags. Directives, on lines that start with a
percent sign, give the version of the format and define handles.
-/

namespace Scriptlet.Yaml

/-- Whether a name may end before what comes next. -/
def endsName (rest : List Char) : Bool :=
  endsWord rest ||
    match rest with
    | [] => true
    | next :: _ =>
        next = '?' || next = ':' || next = ',' || next = ']' || next = '\x7d' || next = '%' ||
          next = '@' || next = '\x60'

/-- Reads the name of an anchor or an alias from its mark on. -/
def readName (cursor : Cursor) : Except Malformed (Text × Cursor) :=
  let name := (cursor.rest.drop 1).takeWhile isNameCharacter
  let after := cursor.ahead (name.length + 1)
  if name.isEmpty || !endsName after.rest then after.malformed cursor.place .anchorName
  else .ok (Text.ofChars name, after)

/-- The characters that may stand in a tag. -/
def isTagCharacter (character : Char) : Bool :=
  isNameCharacter character ||
    [';', '/', '?', ':', '@', '&', '=', '+', '$', ',', '.', '!', '~', '*', '\'', '(', ')', '[', ']',
      '%'].contains character

/-- The byte that a percent sign and two hexadecimal digits stand for. -/
def escapedByte? (rest : List Char) : Option UInt8 :=
  match rest with
  | '%' :: digits => (hexNumber? 0 2 digits).map UInt8.ofNat
  | _ => none

/-- Reads a number of escaped bytes that continue a character. -/
def trailingBytes : Nat → List Char → Except Defect Text
  | 0, _ => .ok []
  | count + 1, rest =>
      match escapedByte? rest with
      | none => .error .escapedByte
      | some next =>
          if !Glyph.isContinuation next then .error .escapedTrailingByte
          else match trailingBytes count (rest.drop 3) with
            | .ok bytes => .ok (next :: bytes)
            | .error defect => .error defect

/-- Reads a character that is written as escaped bytes. -/
def escapedBytes (rest : List Char) : Except Defect Text :=
  match escapedByte? rest with
  | none => .error .escapedByte
  | some lead =>
      match Source.width? lead with
      | none => .error .escapedLeadByte
      | some width =>
          match trailingBytes (width - 1) (rest.drop 3) with
          | .ok bytes => .ok (lead :: bytes)
          | .error defect => .error defect

/-- Reads the characters of a tag; every step takes a character, which the fuel counts. -/
def tagCharacters (start : Place) (content : Text) (cursor : Cursor) :
    Nat → Except Malformed (Text × Cursor)
  | 0 => .ok (content, cursor)
  | fuel + 1 =>
      match cursor.rest with
      | [] => .ok (content, cursor)
      | character :: _ =>
          if !isTagCharacter character then .ok (content, cursor)
          else if character = '%' then
            match escapedBytes cursor.rest with
            | .error defect => cursor.malformed start defect
            | .ok bytes =>
                tagCharacters start (content ++ bytes) (cursor.ahead (3 * bytes.length)) fuel
          else
            tagCharacters start (content ++ Text.ofChars [character]) (cursor.ahead 1) fuel

/-- Reads a tag or the rest of one; if nothing of it is read yet, it may not be empty. -/
def readAddress (start : Place) (fresh : Bool) (content : Text) (cursor : Cursor) :
    Except Malformed (Text × Cursor) :=
  match tagCharacters start content cursor cursor.rest.length with
  | .error malformed => .error malformed
  | .ok (address, after) =>
      if fresh && after.place.index = cursor.place.index then after.malformed start .tagAddress
      else .ok (address, after)

/-- The handle that a source starts with behind an exclamation mark: its characters with both marks,
and whether the second mark is there. -/
def handle (rest : List Char) : List Char × Bool :=
  let name := (rest.drop 1).takeWhile isNameCharacter
  if (rest.drop (name.length + 1)).head? = some '!' then ('!' :: name ++ ['!'], true)
  else ('!' :: name, false)

/-- A tag as written: a handle, which may be empty, and a suffix. -/
structure WrittenTag where
  handle : Text
  suffix : Text
  deriving DecidableEq, Repr

/-- Reads a tag without checking what follows it. -/
def readTagBody (cursor : Cursor) : Except Malformed (WrittenTag × Cursor) :=
  let start := cursor.place
  match cursor.rest with
  | _ :: '<' :: _ =>
      match readAddress start true [] (cursor.ahead 2) with
      | .error malformed => .error malformed
      | .ok (suffix, after) =>
          if after.rest.head? = some '>' then .ok ({ handle := [], suffix }, after.ahead 1)
          else after.malformed start .tagBracket
  | rest =>
      let (found, closed) := handle rest
      let behind := cursor.ahead found.length
      if closed then
        match readAddress start true [] behind with
        | .error malformed => .error malformed
        | .ok (suffix, after) => .ok ({ handle := Text.ofChars found, suffix }, after)
      else
        match readAddress start false (Text.ofChars (found.drop 1)) behind with
        | .error malformed => .error malformed
        | .ok (suffix, after) =>
            if suffix.isEmpty then .ok ({ handle := [], suffix := text "!" }, after)
            else .ok ({ handle := text "!", suffix }, after)

/-- Reads a tag from its exclamation mark on. -/
def readTag (cursor : Cursor) : Except Malformed (WrittenTag × Cursor) :=
  match readTagBody cursor with
  | .error malformed => .error malformed
  | .ok (tag, after) =>
      if endsWord after.rest then .ok (tag, after) else after.malformed cursor.place .tagEnd

/-- A directive: the version of the format, or what a handle stands for. -/
inductive Directive where
  | version (major minor : Nat)
  | shorthand (handle address : Text)
  deriving DecidableEq, Repr

/-- Reads a number of a version. -/
def readVersionNumber (start : Place) (cursor : Cursor) : Except Malformed (Nat × Cursor) :=
  let digits := cursor.rest.takeWhile Char.isDigit
  if digits.isEmpty then cursor.malformed start .versionNumber
  else if 2 < digits.length then cursor.malformed start .longVersion
  else
    let number := digits.foldl (fun value digit => value * 10 + (digit.toNat - '0'.toNat)) 0
    .ok (number, cursor.ahead digits.length)

/-- Reads a version. -/
def readVersion (start : Place) (cursor : Cursor) : Except Malformed (Directive × Cursor) :=
  match readVersionNumber start (cursor.skipWhile isBlank) with
  | .error malformed => .error malformed
  | .ok (major, behind) =>
      if behind.rest.head? ≠ some '.' then behind.malformed start .versionPoint
      else match readVersionNumber start (behind.ahead 1) with
        | .error malformed => .error malformed
        | .ok (minor, after) => .ok (.version major minor, after)

/-- Reads what a handle stands for. -/
def readShorthand (start : Place) (cursor : Cursor) : Except Malformed (Directive × Cursor) :=
  let cursor := cursor.skipWhile isBlank
  let (found, closed) := handle cursor.rest
  if cursor.rest.head? ≠ some '!' || (!closed && found ≠ ['!']) then cursor.malformed start .tagMark
  else
    let behind := cursor.ahead found.length
    if !(behind.rest.head?.any isBlank) then behind.malformed start .handleEnd
    else match readAddress start true [] (behind.skipWhile isBlank) with
      | .error malformed => .error malformed
      | .ok (address, after) =>
          if endsWord after.rest then .ok (.shorthand (Text.ofChars found) address, after)
          else after.malformed start .tagEnd

/-- Reads what a directive says behind its name. -/
def readDirectiveBody (start : Place) (name : String) (cursor : Cursor) :
    Except Malformed (Directive × Cursor) :=
  if name = "YAML" then readVersion start cursor
  else if name = "TAG" then readShorthand start cursor
  else cursor.malformed start .unknownDirective

/-- Reads a directive from its percent sign on, with its line. -/
def readDirective (cursor : Cursor) : Except Malformed (Directive × Cursor) :=
  let start := cursor.place
  let name := (cursor.rest.drop 1).takeWhile isNameCharacter
  let behind := cursor.ahead (name.length + 1)
  if name.isEmpty then behind.malformed start .directiveName
  else if !endsWord behind.rest then behind.malformed start .directiveLetter
  else match readDirectiveBody start (String.ofList name) behind with
    | .error malformed => .error malformed
    | .ok (directive, after) =>
        let after := after.skipWhile isBlank
        let after := if after.rest.head? = some '#' then after.toLineEnd else after
        if endsLine after.rest then .ok (directive, after.skipBreak)
        else after.malformed start .lineEnd

end Scriptlet.Yaml
