import Scriptlet.Yaml.Cursor

/-!
# Reading scalars

A scalar is plain, quoted, or a block of lines. Plain and quoted scalars are words with gaps between
them, and a gap that holds line breaks is folded: one break is a space, and of several all but the
first are kept. The lines of a block are kept as they are after `|`, and folded after `>`.
-/

namespace Scriptlet.Yaml

/-- Blanks and line breaks between the words of a scalar, each kind from the last to the first. -/
structure Gap where
  /-- The blanks before the first line break. -/
  blanks : List Char := []
  /-- Whether there is a line break. -/
  broken : Bool := false
  /-- What the first line break stands for; an escaped one stands for nothing. -/
  first : List Char := []
  /-- What the other line breaks stand for. -/
  more : List Char := []
  /-- The line of the first tab that stands further left than text may. -/
  misplacedTab : Option Nat := none

namespace Gap

/-- The characters that a gap stands for, from the last to the first. -/
def reversed (gap : Gap) : List Char :=
  if !gap.broken then gap.blanks
  else if gap.first = ['\n'] then if gap.more.isEmpty then [' '] else gap.more
  else gap.more ++ gap.first

/-- A gap with one more line break. -/
def addBreak (gap : Gap) (character : Char) : Gap :=
  if gap.broken then { gap with more := breakCharacter character :: gap.more }
  else { gap with blanks := [], broken := true, first := [breakCharacter character] }

/-- A gap with one more blank; blanks behind a line break stand for nothing. -/
def addBlank (gap : Gap) (leftmost : Nat) (place : Place) (character : Char) : Gap :=
  if !gap.broken then { gap with blanks := character :: gap.blanks }
  else if character = '\t' && place.column < leftmost && gap.misplacedTab.isNone then
    { gap with misplacedTab := some place.line }
  else gap

/-- Reads on in a gap. -/
def read (leftmost : Nat) (gap : Gap) (place : Place) : List Char → Gap × Cursor
  | [] => (gap, { rest := [], place })
  | '\r' :: '\n' :: rest => read leftmost (gap.addBreak '\n') (place.nextLine 2) rest
  | character :: rest =>
      if isBlank character then
        read leftmost (gap.addBlank leftmost place character) (place.ahead 1) rest
      else if isBreak character then
        read leftmost (gap.addBreak character) (place.nextLine 1) rest
      else
        (gap, { rest := character :: rest, place })

end Gap

namespace Cursor

/-- Reads the gap that follows, where text may not stand left of a column. -/
def gap (cursor : Cursor) (leftmost : Nat := 0) (start : Gap := {}) : Gap × Cursor :=
  start.read leftmost cursor.place cursor.rest

end Cursor

/-- The marks that end a word between brackets. -/
def isFlowMark (character : Char) : Bool :=
  character = ',' || character = '?' || character = '[' || character = ']' ||
    character = '\x7b' || character = '\x7d'

/-- Reads on in a word of a plain scalar: its characters, from the last to the first, and their
number. -/
def plainWord (inFlow : Bool) (reversed : List Char) (length : Nat) : List Char → List Char × Nat
  | [] => (reversed, length)
  | character :: rest =>
      if isBlank character || isBreak character || (character = ':' && endsWord rest) ||
          (inFlow && isFlowMark character) then (reversed, length)
      else plainWord inFlow (character :: reversed) (length + 1) rest

/-- A plain scalar as read: its content, whether a line break follows it, and the rest. -/
structure PlainScalar where
  content : List Char
  broken : Bool
  after : Cursor

/-- Reads on in a plain scalar behind a gap, its content so far given from the last character to the
first. Every word takes a character, which the fuel counts. -/
def plainWords (inFlow : Bool) (leftmost : Nat) (start : Place) (reversed : List Char) (gap : Gap)
    (cursor : Cursor) : Nat → Except Malformed PlainScalar
  | 0 => .ok { content := reversed.reverse, broken := gap.broken, after := cursor }
  | fuel + 1 =>
      let (word, length) := if cursor.atDocumentMark || cursor.rest.head? = some '#' then ([], 0)
        else plainWord inFlow [] 0 cursor.rest
      if length = 0 then
        .ok { content := reversed.reverse, broken := gap.broken, after := cursor }
      else
        let reversed := word ++ (gap.reversed ++ reversed)
        let (gap, next) := (cursor.ahead length).gap leftmost
        match gap.misplacedTab with
        | some line => .error (.spelling .tabBeforeText start.line line)
        | none =>
            if !inFlow && next.place.column < leftmost then
              .ok { content := reversed.reverse, broken := gap.broken, after := next }
            else
              plainWords inFlow leftmost start reversed gap next fuel

/-- Reads a plain scalar; the fuel is at least the number of characters that are left. -/
def readPlain (inFlow : Bool) (leftmost : Nat) (fuel : Nat) (cursor : Cursor) :
    Except Malformed PlainScalar :=
  plainWords inFlow leftmost cursor.place [] {} cursor fuel

/-- The character that an escape letter stands for inside double quotes. -/
def escapedCharacter? (letter : Char) : Option Char :=
  match letter with
  | '0' => some '\x00'
  | 'a' => some '\x07'
  | 'b' => some '\x08'
  | 't' => some '\t'
  | '\t' => some '\t'
  | 'n' => some '\n'
  | 'v' => some '\x0b'
  | 'f' => some '\x0c'
  | 'r' => some '\r'
  | 'e' => some '\x1b'
  | ' ' => some ' '
  | '"' => some '"'
  | '\'' => some '\''
  | '\\' => some '\\'
  | 'N' => some '\u0085'
  | '_' => some '\u00a0'
  | 'L' => some '\u2028'
  | 'P' => some '\u2029'
  | _ => none

/-- How many hexadecimal digits follow an escape letter. -/
def escapeDigits? (letter : Char) : Option Nat :=
  match letter with
  | 'x' => some 2
  | 'u' => some 4
  | 'U' => some 8
  | _ => none

/-- The value of a hexadecimal digit. -/
def hexValue? (character : Char) : Option Nat :=
  let code := character.toNat
  if '0'.toNat ≤ code && code ≤ '9'.toNat then some (code - '0'.toNat)
  else if 'a'.toNat ≤ code && code ≤ 'f'.toNat then some (code - 'a'.toNat + 10)
  else if 'A'.toNat ≤ code && code ≤ 'F'.toNat then some (code - 'A'.toNat + 10)
  else none

/-- The number that a count of hexadecimal digits spells behind a value. -/
def hexNumber? (value : Nat) : Nat → List Char → Option Nat
  | 0, _ => some value
  | _ + 1, [] => none
  | count + 1, character :: rest =>
      match hexValue? character with
      | none => none
      | some digit => hexNumber? (value * 16 + digit) count rest

/-- The character that an escape stands for behind its backslash, and the length of the escape
without that. -/
def escape (rest : List Char) : Except Defect (Char × Nat) :=
  match rest with
  | [] => .error .unknownEscape
  | letter :: rest =>
      match escapedCharacter? letter, escapeDigits? letter with
      | some character, _ => .ok (character, 1)
      | none, none => .error .unknownEscape
      | none, some count =>
          match hexNumber? 0 count rest with
          | none => .error .escapeDigits
          | some code =>
              if (0xd800 ≤ code && code ≤ 0xdfff) || 0x10ffff < code then .error .escapeValue
              else .ok (Char.ofNat code, count + 1)

/-- A word of a quoted scalar with all before it, from the last character to the first; the gap that
an escaped line break starts; and the rest. -/
structure QuotedWord where
  reversed : List Char
  gap : Gap := {}
  after : Cursor

/-- Reads a word between quotes behind what is read before it; every step takes a character, which
the fuel counts. -/
def quotedWord (quote : Char) (start : Place) (reversed : List Char) (cursor : Cursor) :
    Nat → Except Malformed QuotedWord
  | 0 => .ok { reversed, after := cursor }
  | fuel + 1 =>
      match cursor.rest with
      | [] => .ok { reversed, after := cursor }
      | character :: rest =>
          if quote = '\'' && character = quote && rest.head? = some quote then
            quotedWord quote start (quote :: reversed) (cursor.ahead 2) fuel
          else if isBlank character || isBreak character || character = quote then
            .ok { reversed, after := cursor }
          else if quote = '"' && character = '\\' then
            if !rest.isEmpty && endsLine rest then
              .ok { reversed, gap := { broken := true }, after := (cursor.ahead 1).skipBreak }
            else match escape rest with
              | .error defect => cursor.malformed start defect
              | .ok (found, length) =>
                  quotedWord quote start (found :: reversed) (cursor.ahead (length + 1)) fuel
          else
            quotedWord quote start (character :: reversed) (cursor.ahead 1) fuel

/-- Reads on between quotes up to the closing one. -/
def quotedWords (quote : Char) (start : Place) (reversed : List Char) (cursor : Cursor) :
    Nat → Except Malformed (List Char × Cursor)
  | 0 => cursor.malformed start .unclosedQuotes
  | fuel + 1 =>
      if cursor.atDocumentMark then cursor.malformed start .documentInQuotes
      else if cursor.rest.isEmpty then cursor.malformed start .unclosedQuotes
      else match quotedWord quote start reversed cursor (fuel + 1) with
        | .error malformed => .error malformed
        | .ok word =>
            if word.after.rest.head? = some quote then
              .ok (word.reversed.reverse, word.after.ahead 1)
            else
              let (gap, next) := word.after.gap 0 word.gap
              quotedWords quote start (gap.reversed ++ word.reversed) next fuel

/-- Reads a quoted scalar from its opening quote on; the fuel is at least the number of characters
that are left. -/
def readQuoted (quote : Char) (fuel : Nat) (cursor : Cursor) :
    Except Malformed (List Char × Cursor) :=
  quotedWords quote cursor.place [] (cursor.ahead 1) fuel

/-- What becomes of the line breaks at the end of a block. -/
inductive Tail where
  | strip
  | clip
  | keep
  deriving DecidableEq, Repr

/-- What stands behind the mark of a block: what becomes of its tail, and how far it is indented. -/
structure BlockHeader where
  tail : Tail := .clip
  indentation : Option Nat := none

/-- The meaning of a mark for the tail of a block. -/
def Tail.ofCharacter? (character : Char) : Option Tail :=
  match character with
  | '+' => some .keep
  | '-' => some .strip
  | _ => none

/-- The digit of an indentation. -/
def indentationDigit? (character : Char) : Option Nat :=
  if character.isDigit then hexValue? character else none

/-- Reads what stands behind the mark of a block. -/
def blockHeader (start : Place) (cursor : Cursor) : Except Malformed (BlockHeader × Cursor) :=
  let tail? := cursor.rest.head?.bind Tail.ofCharacter?
  let cursor := if tail?.isSome then cursor.ahead 1 else cursor
  match cursor.rest.head?.bind indentationDigit? with
  | none => .ok ({ tail := tail?.getD .clip }, cursor)
  | some 0 => cursor.malformed start .zeroIndentation
  | some digit =>
      let cursor := cursor.ahead 1
      match tail?, cursor.rest.head?.bind Tail.ofCharacter? with
      | none, some tail => .ok ({ tail, indentation := some digit }, cursor.ahead 1)
      | _, _ => .ok ({ tail := tail?.getD .clip, indentation := some digit }, cursor)

/-- Empty lines and the indentation behind them. -/
structure Margin where
  /-- What the line breaks stand for, from the last to the first. -/
  breaks : List Char := []
  /-- The widest indentation. -/
  widest : Nat := 0

/-- Reads empty lines up to a line with content; unless the indentation of the block is known, any
number of spaces belongs to it. -/
def readMargin (indentation : Option Nat) (start : Place) (margin : Margin) (place : Place) :
    List Char → Except Malformed (Margin × Cursor)
  | [] => .ok ({ margin with widest := max margin.widest place.column }, { rest := [], place })
  | '\r' :: '\n' :: rest =>
      readMargin indentation start
        { breaks := '\n' :: margin.breaks, widest := max margin.widest place.column }
        (place.nextLine 2) rest
  | character :: rest =>
      let inside := match indentation with
        | none => true
        | some column => place.column < column
      let wider : Margin := { margin with widest := max margin.widest place.column }
      if inside && character = ' ' then
        readMargin indentation start margin (place.ahead 1) rest
      else if inside && character = '\t' then
        .error (.spelling .tabInIndentation start.line place.line)
      else if isBreak character then
        readMargin indentation start
          { wider with breaks := breakCharacter character :: margin.breaks }
          (place.nextLine 1) rest
      else
        .ok (wider, { rest := character :: rest, place })

/-- A block as far as it is read, each part from the last character to the first: its content, the
line break and the empty lines behind its last line, and whether that line starts with a blank. -/
structure Lines where
  content : List Char := []
  lineBreak : List Char := []
  breaks : List Char := []
  startsBlank : Bool := false

namespace Lines

/-- Adds a line behind what is read; neighbouring lines that start with no blank may be folded. -/
def add (lines : Lines) (folded : Bool) (line : List Char) : Lines :=
  let startsBlank := match line with
    | [] => false
    | first :: _ => isBlank first
  let joint :=
    if folded && !lines.startsBlank && !startsBlank && lines.lineBreak = ['\n'] then
      if lines.breaks.isEmpty then [' '] else []
    else lines.lineBreak
  { content := line.reverse ++ (lines.breaks ++ (joint ++ lines.content)), startsBlank }

/-- The content of a block that is complete. -/
def finish (lines : Lines) (tail : Tail) : List Char :=
  match tail with
  | .strip => lines.content.reverse
  | .clip => (lines.lineBreak ++ lines.content).reverse
  | .keep => (lines.breaks ++ (lines.lineBreak ++ lines.content)).reverse

end Lines

/-- Reads on in a block with a known indentation; every line takes a character, which the fuel
counts. -/
def blockLines (folded : Bool) (indentation : Nat) (start : Place) (lines : Lines)
    (cursor : Cursor) : Nat → Except Malformed (Lines × Cursor)
  | 0 => .ok (lines, cursor)
  | fuel + 1 =>
      if cursor.place.column ≠ indentation || cursor.rest.isEmpty then .ok (lines, cursor)
      else
        let lineEnd := cursor.toLineEnd
        let read := lines.add folded (cursor.rest.takeWhile fun character => !isBreak character)
        let lineBreak := (lineEnd.rest.take 1).map breakCharacter
        let next := lineEnd.skipBreak
        match readMargin (some indentation) start {} next.place next.rest with
        | .error malformed => .error malformed
        | .ok (margin, after) =>
            blockLines folded indentation start { read with lineBreak, breaks := margin.breaks }
              after fuel

/-- Reads a block of lines from its mark on. `outer` is the column of the collection around it; the
fuel is at least the number of characters that are left. -/
def readBlock (folded : Bool) (outer : Option Nat) (fuel : Nat) (cursor : Cursor) :
    Except Malformed (List Char × Cursor) :=
  let start := cursor.place
  match blockHeader start (cursor.ahead 1) with
  | .error malformed => .error malformed
  | .ok (header, behind) =>
      let behind := behind.skipWhile isBlank
      let behind := if behind.rest.head? = some '#' then behind.toLineEnd else behind
      if !endsLine behind.rest then behind.malformed start .lineEnd
      else
        let first := behind.skipBreak
        let known := header.indentation.map (outer.getD 0 + ·)
        match readMargin known start {} first.place first.rest with
        | .error malformed => .error malformed
        | .ok (margin, content) =>
            let least := match outer with
              | none => 1
              | some column => column + 1
            let indentation := known.getD (max margin.widest least)
            match blockLines folded indentation start { breaks := margin.breaks } content fuel with
            | .error malformed => .error malformed
            | .ok (lines, after) => .ok (lines.finish header.tail, after)

end Scriptlet.Yaml
