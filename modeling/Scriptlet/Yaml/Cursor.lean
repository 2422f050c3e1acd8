import Scriptlet.Yaml.Malformed

/-!
# Characters of a YAML source

A source is a text in UTF-8, or in UTF-16 if it says so with a byte order mark, and holds no control
characters but tabs and line breaks. `Source.characters` checks all of it before anything is read.
A `Cursor` then stands between what is read and what is not, and knows its line and column.
-/

namespace Scriptlet.Yaml

namespace Source

/-- The characters that a source may hold. -/
def isAllowed (character : Char) : Bool :=
  let code := character.toNat
  code = 0x09 || code = 0x0a || code = 0x0d || (0x20 ≤ code && code ≤ 0x7e) || code = 0x85 ||
    (0xa0 ≤ code && code ≤ 0xfffd) || 0x10000 ≤ code

/-- The number of bytes of a character that starts with a byte. -/
def width? (lead : UInt8) : Option Nat :=
  if lead < 0x80 then some 1
  else if lead < 0xc0 then none
  else if lead < 0xe0 then some 2
  else if lead < 0xf0 then some 3
  else if lead < 0xf8 then some 4
  else none

/-- What is wrong with a byte that belongs to no character, given what follows it. -/
def strayDefect (lead : UInt8) (following : Text) : Defect :=
  match width? lead with
  | none => .leadByte
  | some width =>
      if following.length + 1 < width then .cutCharacter
      else if !(following.take (width - 1)).all Glyph.isContinuation then .trailingByte
      else
        let second := following.headD 0
        if lead < 0xc2 || (lead = 0xe0 && second < 0xa0) || (lead = 0xf0 && second < 0x90) then
          .overlongCharacter
        else .invalidCharacter

/-- Whether a glyph may stand in a source. -/
def isSound : Glyph → Bool
  | .char character => isAllowed character
  | .stray _ => false

/-- The characters of glyphs, unless one of them may not stand in a source. -/
def ofGlyphs (glyphs : List Glyph) : Except Defect (List Char) :=
  match glyphs.dropWhile isSound with
  | [] => .ok (glyphs.map Glyph.scalar)
  | .stray lead :: rest => .error (strayDefect lead (Glyph.join (rest.take 3)))
  | .char _ :: _ => .error .controlCharacter

/-- The numbers that pairs of bytes spell, and whether a byte is left over. -/
def units (littleEndian : Bool) : Text → List Nat × Bool
  | [] => ([], false)
  | [_] => ([], true)
  | first :: second :: rest =>
      let (later, cut) := units littleEndian rest
      let unit := if littleEndian then second.toNat * 256 + first.toNat
        else first.toNat * 256 + second.toNat
      (unit :: later, cut)

/-- The characters of a source in UTF-16; `cut` says that half a unit follows. -/
def ofUnits (cut : Bool) : List Nat → Except Defect (List Char)
  | [] => if cut then .error .cutUnit else .ok []
  | unit :: rest =>
      let cons (character : Char) : Except Defect (List Char) → Except Defect (List Char)
        | .ok characters =>
            if isAllowed character then .ok (character :: characters) else .error .controlCharacter
        | .error defect => .error (if isAllowed character then defect else .controlCharacter)
      if 0xdc00 ≤ unit && unit < 0xe000 then .error .loneLowSurrogate
      else if 0xd800 ≤ unit && unit < 0xdc00 then
        match rest with
        | [] => .error .cutPair
        | low :: rest =>
            if 0xdc00 ≤ low && low < 0xe000 then
              cons (Char.ofNat (0x10000 + (unit - 0xd800) * 0x400 + (low - 0xdc00)))
                (ofUnits cut rest)
            else .error .loneHighSurrogate
      else cons (Char.ofNat unit) (ofUnits cut rest)

/-- The characters of a source without its byte order mark. -/
def characters (source : Text) : Except Defect (List Char) :=
  match source with
  | 0xef :: 0xbb :: 0xbf :: rest => ofGlyphs (Text.glyphs rest)
  | 0xff :: 0xfe :: rest => ofUnits (units true rest).2 (units true rest).1
  | 0xfe :: 0xff :: rest => ofUnits (units false rest).2 (units false rest).1
  | _ => ofGlyphs (Text.glyphs source)

end Source

/-- Spaces and tabs. -/
def isBlank (character : Char) : Bool :=
  character = ' ' || character = '\t'

/-- The characters that end a line. -/
def isBreak (character : Char) : Bool :=
  character = '\n' || character = '\r' || character = '\u0085' || character = '\u2028' ||
    character = '\u2029'

/-- What a line break stands for inside a scalar. -/
def breakCharacter (character : Char) : Char :=
  if character = '\u2028' || character = '\u2029' then character else '\n'

/-- The characters of names: of anchors, of directives and of the handles of tags. -/
def isNameCharacter (character : Char) : Bool :=
  character.isAlphanum || character = '_' || character = '-'

/-- Whether nothing, a blank or a line break comes next. -/
def endsWord : List Char → Bool
  | [] => true
  | character :: _ => isBlank character || isBreak character

/-- Whether nothing or a line break comes next. -/
def endsLine : List Char → Bool
  | [] => true
  | character :: _ => isBreak character

/-- A place in a source: the number of characters before it, its line and its column, from zero. -/
structure Place where
  index : Nat := 0
  line : Nat := 0
  column : Nat := 0
  deriving DecidableEq, Repr

namespace Place

/-- The place a number of characters further on the same line. -/
def ahead (place : Place) (count : Nat) : Place :=
  { place with index := place.index + count, column := place.column + count }

/-- The start of the next line, behind a line break of a number of characters. -/
def nextLine (place : Place) (count : Nat) : Place :=
  { index := place.index + count, line := place.line + 1, column := 0 }

end Place

/-- What is left to read of a source, and where that starts. -/
structure Cursor where
  rest : List Char
  place : Place := {}

namespace Cursor

/-- Passes over a number of characters of a line. -/
def ahead (cursor : Cursor) (count : Nat) : Cursor :=
  { rest := cursor.rest.drop count, place := cursor.place.ahead count }

/-- Passes over the characters of a line that satisfy a test. -/
def skipWhile (cursor : Cursor) (test : Char → Bool) : Cursor :=
  cursor.ahead (cursor.rest.takeWhile test).length

/-- Passes over what is left of a line. -/
def toLineEnd (cursor : Cursor) : Cursor :=
  cursor.skipWhile fun character => !isBreak character

/-- Passes over a line break, if there is one. -/
def skipBreak (cursor : Cursor) : Cursor :=
  match cursor.rest with
  | '\r' :: '\n' :: rest => { rest, place := cursor.place.nextLine 2 }
  | character :: rest =>
      if isBreak character then { rest, place := cursor.place.nextLine 1 } else cursor
  | [] => cursor

/-- Whether a line starts here that is marked by three equal characters. -/
def atMark (cursor : Cursor) (mark : Char) : Bool :=
  cursor.place.column = 0 &&
    match cursor.rest with
    | first :: second :: third :: rest =>
        first = mark && second = mark && third = mark && endsWord rest
    | _ => false

/-- Whether a line starts here that starts or ends a document. -/
def atDocumentMark (cursor : Cursor) : Bool :=
  cursor.atMark '-' || cursor.atMark '.'

/-- How far a comment at the end of a line may stand from what it follows. -/
def commentReach : Nat := 512

/-- Passes over a comment that follows on the same line, if there is one. -/
def skipLineComment (cursor : Cursor) : Cursor :=
  let start := cursor.skipWhile isBlank
  if start.rest.head? = some '#' && start.place.index < cursor.place.index + commentReach then
    start.toLineEnd
  else
    cursor

/-- A malformed source whose defect shows here, in a part that began at a place. -/
def malformed (cursor : Cursor) (start : Place) (defect : Defect) : Except Malformed α :=
  .error (.spelling defect start.line cursor.place.line)

end Cursor

end Scriptlet.Yaml
