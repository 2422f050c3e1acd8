import Scriptlet.Yaml.PropertyReading

/-!
# Signs of a YAML source

A source is a row of signs: scalars, indicators, names and tags, and signs for what only columns
tell, where block collections start and end. They are read one after the other as they are asked
for. What starts a key shows only at the colon behind it, so a sign that may start one waits in a
queue until that is settled; the sign for the key is then put before it.
-/

namespace Scriptlet.Yaml

/-- A sign of a source. -/
inductive Sign where
  | sourceEnd
  | directive (directive : Directive)
  | documentStart
  | documentEnd
  | blockSequence
  | blockMapping
  | blockEnd
  | openSequence
  | closeSequence
  | openMapping
  | closeMapping
  | comma
  | dash
  | key
  | value
  | alias (name : Text)
  | anchor (name : Text)
  | tag (tag : WrittenTag)
  | scalar (content : Text) (quoted : Bool)
  deriving DecidableEq, Repr

/-- A sign and the line it starts on, from zero. -/
structure PlacedSign where
  sign : Sign
  line : Nat
  deriving DecidableEq, Repr

/-- A sign that may turn out to start a key. -/
structure PossibleKey where
  /-- How many signs come before it. -/
  number : Nat
  /-- Whether nothing but a key can stand there. -/
  required : Bool
  place : Place

/-- How far the colon of a key may be from the start of the key. -/
def PossibleKey.reach : Nat := 1024

/-- Whether a colon at a place is too far away for a key: it has to be on the line of the key. -/
def PossibleKey.isOver (key : PossibleKey) (place : Place) : Bool :=
  key.place.line < place.line || key.place.index + PossibleKey.reach < place.index

/-- A pair of brackets around the cursor. -/
structure Enclosure where
  /-- How many signs come before the opening bracket. -/
  number : Nat
  /-- The possible key outside the brackets, which the bracket itself may start. -/
  key : Option PossibleKey

/-- The signs of a source that are still to come. -/
structure Signs where
  cursor : Cursor
  /-- The number of characters of the whole source, which bounds all that is done with them. -/
  extent : Nat
  /-- The signs that are read but not taken. -/
  queue : List PlacedSign := []
  /-- How many signs are taken. -/
  taken : Nat := 0
  /-- The columns of the open block collections, innermost first. -/
  blocks : List Nat := []
  /-- The possible key inside the innermost brackets. -/
  key : Option PossibleKey := none
  /-- The brackets around the cursor, innermost first. -/
  enclosures : List Enclosure := []
  /-- Whether a key may start here. -/
  keyAllowed : Bool := true

namespace Signs

/-- Whether the cursor stands between brackets. -/
def inFlow (signs : Signs) : Bool :=
  !signs.enclosures.isEmpty

/-- The leftmost column inside the innermost block collection. -/
def leftmost (signs : Signs) : Nat :=
  match signs.blocks with
  | [] => 0
  | column :: _ => column + 1

/-- A malformed source whose defect shows at the cursor and has no other beginning. -/
def malformed (signs : Signs) (defect : Defect) : Except Malformed α :=
  signs.cursor.malformed signs.cursor.place defect

/-- Puts a sign at the end of the queue. -/
def push (signs : Signs) (sign : Sign) (line : Nat) : Signs :=
  { signs with queue := signs.queue ++ [{ sign, line }] }

/-- Puts a sign into the queue so that a number of signs come before it; if more are taken already,
at the end. -/
def insert (signs : Signs) (number : Nat) (sign : Sign) (line : Nat) : Signs :=
  if signs.taken ≤ number then
    let position := number - signs.taken
    { signs with
      queue := signs.queue.take position ++ { sign, line } :: signs.queue.drop position }
  else
    signs.push sign line

/-- Gives up the possible key, which may not be done if it is required. -/
def dropKey (signs : Signs) : Except Malformed Signs :=
  match signs.key with
  | none => .ok signs
  | some key =>
      if key.required then signs.cursor.malformed key.place .keyWithoutValue
      else .ok { signs with key := none }

/-- Notes that the next sign may start a key, where keys are allowed. In a block collection, what
stands at its column has to be a key. -/
def saveKey (signs : Signs) : Except Malformed Signs :=
  if !signs.keyAllowed then .ok signs
  else match signs.dropKey with
    | .error malformed => .error malformed
    | .ok signs =>
        let place := signs.cursor.place
        .ok { signs with
              key := some {
                number := signs.taken + signs.queue.length
                required := !signs.inFlow && signs.blocks.head? = some place.column
                place } }

/-- Reads a sign of a number of characters, and a comment behind it. -/
def indicator (signs : Signs) (sign : Sign) (length : Nat := 1) : Signs :=
  let cursor := (signs.cursor.ahead length).skipLineComment
  { signs.push sign signs.cursor.place.line with cursor }

/-- Opens a block collection at a column, if it lies inside the innermost one. The sign for it comes
after a number of signs, or else at the end of the queue. -/
def openBlock (signs : Signs) (sign : Sign) (place : Place) (number : Option Nat) :
    Except Malformed Signs :=
  if signs.inFlow || place.column < signs.leftmost then .ok signs
  else if Defect.deepest ≤ signs.blocks.length then
    .error (.spelling .tooDeep 0 signs.cursor.place.line)
  else
    let opened := { signs with blocks := place.column :: signs.blocks }
    .ok (match number with
      | some number => opened.insert number sign place.line
      | none => opened.push sign place.line)

/-- Closes the block collections whose columns satisfy a test, from the innermost on. -/
def closeBlocks (signs : Signs) (test : Nat → Bool) (line : Nat) : Signs :=
  if signs.inFlow then signs
  else
    let count := (signs.blocks.takeWhile test).length
    { signs with
      blocks := signs.blocks.drop count
      queue := signs.queue ++ List.replicate count { sign := .blockEnd, line } }

/-- Passes over comments: a comment, and the comments on lines after it that hold nothing else. -/
def skipComments (cursor : Cursor) : Nat → Cursor
  | 0 => cursor
  | fuel + 1 =>
      let lineEnd := cursor.toLineEnd
      let next := lineEnd.gap.2
      if next.rest.head? = some '#' then skipComments next fuel else lineEnd

/-- Passes over what stands between two signs. Where a key may start, a tab is not passed over; on a
new line outside of brackets, a key may start. -/
def skipBetween (inFlow keyAllowed : Bool) (cursor : Cursor) : Nat → Bool × Cursor
  | 0 => (keyAllowed, cursor)
  | fuel + 1 =>
      let start := cursor.skipWhile fun character =>
        character = ' ' || (character = '\t' && (inFlow || !keyAllowed))
      let behind := if start.rest.head? = some '#' then skipComments start (fuel + 1)
        else start
      match behind.rest with
      | [] => (keyAllowed, behind)
      | next :: _ =>
          if isBreak next then skipBetween inFlow (keyAllowed || !inFlow) behind.skipBreak fuel
          else (keyAllowed, behind)

/-- Moves to where the next sign starts. -/
def toNext (signs : Signs) : Signs :=
  let (keyAllowed, cursor) :=
    skipBetween signs.inFlow signs.keyAllowed signs.cursor (signs.extent + 1)
  { signs with keyAllowed, cursor }

/-- Reads the end of the source, which starts a line of its own. -/
def readEnd (signs : Signs) : Except Malformed Signs :=
  let place := signs.cursor.place
  let place := if place.column = 0 then place else place.nextLine 0
  let moved := { signs with cursor := { signs.cursor with place } }
  match (moved.closeBlocks (fun _ => true) place.line).dropKey with
  | .error malformed => .error malformed
  | .ok closed => .ok ({ closed with keyAllowed := false }.push .sourceEnd place.line)

/-- Closes everything before a directive or the mark of a document. -/
def leaveDocument (signs : Signs) : Except Malformed Signs :=
  match (signs.closeBlocks (fun _ => true) signs.cursor.place.line).dropKey with
  | .error malformed => .error malformed
  | .ok closed => .ok { closed with keyAllowed := false }

/-- Reads a directive. -/
def readDirectiveSign (signs : Signs) : Except Malformed Signs :=
  match signs.leaveDocument with
  | .error malformed => .error malformed
  | .ok left =>
      match readDirective left.cursor with
      | .error malformed => .error malformed
      | .ok (directive, cursor) =>
          .ok { left.push (.directive directive) left.cursor.place.line with cursor }

/-- Reads the mark of a document. -/
def readDocumentMark (signs : Signs) (sign : Sign) : Except Malformed Signs :=
  match signs.leaveDocument with
  | .error malformed => .error malformed
  | .ok left => .ok { left.push sign left.cursor.place.line with cursor := left.cursor.ahead 3 }

/-- Reads an opening bracket; a collection in brackets may be a key, and so may what follows. -/
def readOpening (signs : Signs) (sign : Sign) : Except Malformed Signs :=
  match signs.saveKey with
  | .error malformed => .error malformed
  | .ok saved =>
      if Defect.deepest ≤ saved.enclosures.length then saved.malformed .tooDeep
      else
        let enclosure := { number := saved.taken + saved.queue.length, key := saved.key }
        .ok ({ saved with
               key := none, enclosures := enclosure :: saved.enclosures, keyAllowed := true
               }.indicator sign)

/-- Reads a closing bracket. -/
def readClosing (signs : Signs) (sign : Sign) : Except Malformed Signs :=
  match signs.dropKey with
  | .error malformed => .error malformed
  | .ok dropped =>
      let left := match dropped.enclosures with
        | [] => dropped
        | enclosure :: enclosures => { dropped with key := enclosure.key, enclosures }
      .ok ({ left with keyAllowed := false }.indicator sign)

/-- Reads a comma. -/
def readComma (signs : Signs) : Except Malformed Signs :=
  match signs.dropKey with
  | .error malformed => .error malformed
  | .ok dropped => .ok ({ dropped with keyAllowed := true }.indicator .comma)

/-- Opens the block collection that an indicator at the cursor belongs to. -/
def enterBlock (signs : Signs) (sign : Sign) (defect : Defect) : Except Malformed Signs :=
  if signs.inFlow then .ok signs
  else if !signs.keyAllowed then signs.malformed defect
  else signs.openBlock sign signs.cursor.place none

/-- Reads the dash of an item; what follows it on its line is no comment of its own. -/
def readDash (signs : Signs) : Except Malformed Signs :=
  match signs.enterBlock .blockSequence .strayItem with
  | .error malformed => .error malformed
  | .ok entered =>
      match entered.dropKey with
      | .error malformed => .error malformed
      | .ok dropped =>
          .ok { dropped.push .dash dropped.cursor.place.line with
                keyAllowed := true, cursor := dropped.cursor.ahead 1 }

/-- Reads the question mark of a key. -/
def readKeyMark (signs : Signs) : Except Malformed Signs :=
  match signs.enterBlock .blockMapping .strayKey with
  | .error malformed => .error malformed
  | .ok entered =>
      match entered.dropKey with
      | .error malformed => .error malformed
      | .ok dropped => .ok ({ dropped with keyAllowed := !dropped.inFlow }.indicator .key)

/-- Reads a colon behind the start of a key. -/
def readValueOf (signs : Signs) (key : PossibleKey) : Except Malformed Signs :=
  match (signs.insert key.number .key key.place.line).openBlock .blockMapping key.place
      (some key.number) with
  | .error malformed => .error malformed
  | .ok opened => .ok ({ opened with key := none, keyAllowed := false }.indicator .value)

/-- Reads a colon that no key on its line precedes. -/
def readLoneValue (signs : Signs) : Except Malformed Signs :=
  match signs.enterBlock .blockMapping .strayValue with
  | .error malformed => .error malformed
  | .ok entered => .ok ({ entered with keyAllowed := !entered.inFlow }.indicator .value)

/-- Reads a colon. -/
def readValueMark (signs : Signs) : Except Malformed Signs :=
  match signs.key with
  | none => signs.readLoneValue
  | some key =>
      if !key.isOver signs.cursor.place then signs.readValueOf key
      else if key.required then signs.cursor.malformed key.place .keyWithoutValue
      else { signs with key := none }.readLoneValue

/-- Reads a sign with content, which may start a key but is followed by none. -/
def readContent (signs : Signs) (read : Cursor → Except Malformed (Sign × Cursor)) :
    Except Malformed Signs :=
  match signs.saveKey with
  | .error malformed => .error malformed
  | .ok saved =>
      match read saved.cursor with
      | .error malformed => .error malformed
      | .ok (sign, after) =>
          .ok { saved.push sign saved.cursor.place.line with
                keyAllowed := false, cursor := after.skipLineComment }

/-- Reads a plain scalar; on a line behind it a key may start. -/
def readPlainSign (signs : Signs) : Except Malformed Signs :=
  match signs.saveKey with
  | .error malformed => .error malformed
  | .ok saved =>
      match readPlain saved.inFlow saved.leftmost saved.extent saved.cursor with
      | .error malformed => .error malformed
      | .ok scalar =>
          .ok { saved.push (.scalar (Text.ofChars scalar.content) false)
                  saved.cursor.place.line with
                keyAllowed := scalar.broken
                cursor := if scalar.broken then scalar.after else scalar.after.skipLineComment }

/-- Reads a block of lines, behind which a key may start. -/
def readBlockSign (signs : Signs) (folded : Bool) : Except Malformed Signs :=
  match signs.dropKey with
  | .error malformed => .error malformed
  | .ok dropped =>
      match readBlock folded dropped.blocks.head? dropped.extent dropped.cursor with
      | .error malformed => .error malformed
      | .ok (content, cursor) =>
          .ok { dropped.push (.scalar (Text.ofChars content) true) dropped.cursor.place.line with
                keyAllowed := true, cursor }

/-- The characters that no plain scalar starts with, whatever follows. -/
def isReserved (character : Char) : Bool :=
  [',', '[', ']', '\x7b', '\x7d', '#', '&', '*', '!', '|', '>', '\'', '"', '%', '@',
    '\x60'].contains character

/-- Whether a plain scalar starts with a character that a source goes on behind. -/
def startsPlain (inFlow : Bool) (first : Char) (rest : List Char) : Bool :=
  if first = '-' then !(rest.head?.any isBlank)
  else if first = '?' || first = ':' then !inFlow && !endsWord rest
  else !(isBlank first || isBreak first || isReserved first)

/-- Reads a sign that starts with a character. -/
def readFrom (signs : Signs) (first : Char) (rest : List Char) : Except Malformed Signs :=
  let separate := signs.inFlow || endsWord rest
  match first with
  | '[' => signs.readOpening .openSequence
  | '\x7b' => signs.readOpening .openMapping
  | ']' => signs.readClosing .closeSequence
  | '\x7d' => signs.readClosing .closeMapping
  | ',' => signs.readComma
  | '*' => signs.readContent fun cursor =>
      (readName cursor).map fun (name, after) => (.alias name, after)
  | '&' => signs.readContent fun cursor =>
      (readName cursor).map fun (name, after) => (.anchor name, after)
  | '!' => signs.readContent fun cursor =>
      (readTag cursor).map fun (tag, after) => (.tag tag, after)
  | '\'' => signs.readContent fun cursor =>
      (readQuoted '\'' signs.extent cursor).map fun (content, after) =>
        (.scalar (Text.ofChars content) true, after)
  | '"' => signs.readContent fun cursor =>
      (readQuoted '"' signs.extent cursor).map fun (content, after) =>
        (.scalar (Text.ofChars content) true, after)
  | _ =>
      if first = '-' && endsWord rest then signs.readDash
      else if first = '?' && separate then signs.readKeyMark
      else if first = ':' && separate then signs.readValueMark
      else if first = '|' && !signs.inFlow then signs.readBlockSign false
      else if first = '>' && !signs.inFlow then signs.readBlockSign true
      else if startsPlain signs.inFlow first rest then signs.readPlainSign
      else signs.malformed .strayCharacter

/-- Reads the next sign of the source into the queue. -/
def readNext (signs : Signs) : Except Malformed Signs :=
  let next := signs.toNext
  let column := next.cursor.place.column
  let next := next.closeBlocks (fun block => column < block) signs.cursor.place.line
  match next.cursor.rest with
  | [] => next.readEnd
  | first :: rest =>
      if column = 0 && first = '%' then next.readDirectiveSign
      else if next.cursor.atMark '-' then next.readDocumentMark .documentStart
      else if next.cursor.atMark '.' then next.readDocumentMark .documentEnd
      else next.readFrom first rest

/-- How many signs are read ahead. -/
def ahead : Nat := 3

/-- The possible key outside brackets that a number of signs come before. No key outside brackets
comes behind their opening one. -/
def keyOutside? (number : Nat) : List Enclosure → Option PossibleKey
  | [] => none
  | enclosure :: rest =>
      if enclosure.number < number then none
      else match enclosure.key.filter fun key => key.number = number with
        | some key => some key
        | none => keyOutside? number rest

/-- The possible key that a number of signs come before. -/
def keyAt? (signs : Signs) (number : Nat) : Option PossibleKey :=
  match signs.key.filter fun key => key.number = number with
  | some key => some key
  | none => keyOutside? number signs.enclosures

/-- Whether the first sign of the queue may still turn out to start a key. -/
def isOpen (signs : Signs) : Except Malformed Bool :=
  match signs.keyAt? signs.taken with
  | none => .ok false
  | some key =>
      if !key.isOver signs.cursor.place then .ok true
      else if key.required then signs.cursor.malformed key.place .keyWithoutValue
      else .ok false

/-- Reads until the first sign of the queue is settled. Every sign takes a character, or is one of
those at the end of the source, which the fuel counts. -/
def settleWith (signs : Signs) : Nat → Except Malformed Signs
  | 0 => .ok signs
  | fuel + 1 =>
      let undecided := if signs.queue.length < ahead then .ok true else signs.isOpen
      match undecided with
      | .error malformed => .error malformed
      | .ok false => .ok signs
      | .ok true =>
          match signs.readNext with
          | .error malformed => .error malformed
          | .ok next => next.settleWith fuel

/-- Reads until the first sign of the queue is settled. -/
def settle (signs : Signs) : Except Malformed Signs :=
  signs.settleWith (signs.extent + ahead)

/-- The first sign of the queue. -/
def first (signs : Signs) : PlacedSign :=
  signs.queue.headD { sign := .sourceEnd, line := signs.cursor.place.line }

/-- Takes the first sign off the queue. -/
def rest (signs : Signs) : Signs :=
  { signs with queue := signs.queue.drop 1, taken := signs.taken + 1 }

/-- The signs of a source. -/
def ofSource (source : Text) : Except Malformed Signs :=
  match Source.characters source with
  | .error defect => .error { defect }
  | .ok characters => .ok { cursor := { rest := characters }, extent := characters.length }

end Signs

end Scriptlet.Yaml
