import Scriptlet.Number.Numeral
import Scriptlet.Token.Basic

/-!
# Segments

A source is cut, left to right and without gap or overlap, into segments: blanks, comments, tokens,
characters that fit nowhere, and at most one string or comment at the end that is never closed.
`Segment.extent` decides from the glyphs ahead what the next segment is and how far it reaches;
`Segment.split` cuts the whole source.
-/

namespace Scriptlet

/-- What a segment is. -/
inductive Role where
  | blank
  | comment
  | token (kind : TokenKind)
  | unexpected
  | openString
  | openComment
  deriving DecidableEq, Repr

/-- A stretch of a source. -/
structure Segment where
  role : Role
  glyphs : List Glyph
  deriving DecidableEq, Repr

/-- Whether a glyph is the given character. -/
def Glyph.is (character : Char) (glyph : Glyph) : Bool :=
  glyph.scalar = character

/-- Names start with a letter or an underscore. -/
def Glyph.startsName (glyph : Glyph) : Bool :=
  Category.isLetter glyph.scalar || glyph.is '_'

/-- Names go on with letters, decimal digits and underscores. -/
def Glyph.continuesName (glyph : Glyph) : Bool :=
  Category.isLetter glyph.scalar || Category.isDecimal glyph.scalar || glyph.is '_'

/-- Number literals use the ASCII digits only. -/
def Glyph.isDigit (glyph : Glyph) : Bool :=
  glyph.scalar.isDigit

namespace Segment

/-- The marks that no longer mark starts with. -/
def mark? (character : Char) : Option TokenKind :=
  match character with
  | '(' => some .leftParen
  | ')' => some .rightParen
  | '\x7b' => some .leftBrace
  | '\x7d' => some .rightBrace
  | ',' => some .comma
  | '.' => some .dot
  | '-' => some .minus
  | '+' => some .plus
  | ';' => some .semicolon
  | '*' => some .star
  | _ => none

/-- The marks that grow by an equals sign: what they are alone and with it. -/
def comparison? (character : Char) : Option (TokenKind × TokenKind) :=
  match character with
  | '=' => some (.equal, .equalEqual)
  | '>' => some (.greater, .greaterEqual)
  | '<' => some (.less, .lessEqual)
  | _ => none

/-- The blank characters. -/
def isBlank (character : Char) : Bool :=
  character = ' ' || character = '\t' || character = '\r' || character = '\n'

/-- How many glyphs it takes to close comments nested to a depth, if they are closed. -/
def commentLength? : Nat → List Glyph → Option Nat
  | 0, _ => some 0
  | _ + 1, [] => none
  | _ + 1, [_] => none
  | depth + 1, first :: second :: rest =>
      if first.is '/' && second.is '*' then (commentLength? (depth + 2) rest).map (· + 2)
      else if first.is '*' && second.is '/' then (commentLength? depth rest).map (· + 2)
      else (commentLength? (depth + 1) (second :: rest)).map (· + 1)

/-- How many glyphs from the start satisfy a test. -/
def run (test : Glyph → Bool) (glyphs : List Glyph) : Nat :=
  (glyphs.takeWhile test).length

/-- After the first digit of a number: its other digits, and a point with digits after it. -/
def numberLength (rest : List Glyph) : Nat :=
  let whole := run Glyph.isDigit rest
  match rest.drop whole with
  | point :: digit :: more =>
      if point.is '.' && digit.isDigit then whole + 2 + run Glyph.isDigit more else whole
  | _ => whole

/-- After an exclamation mark: an equals sign, or `in` as a whole word. -/
def afterBang (rest : List Glyph) : TokenKind × Nat :=
  match rest with
  | first :: more =>
      if first.is '=' then (.bangEqual, 1)
      else match more with
        | second :: after =>
            if first.is 'i' && second.is 'n' && !(after.head?.any Glyph.continuesName) then
              (.bangIn, 2)
            else
              (.bang, 0)
        | [] => (.bang, 0)
  | [] => (.bang, 0)

/-- After a slash: a comment of either form, or the mark alone. -/
def afterSlash (rest : List Glyph) : Role × Nat :=
  match rest with
  | next :: more =>
      if next.is '/' then (.comment, 1 + run (fun glyph => !glyph.is '\n') more)
      else if next.is '*' then
        match commentLength? 1 more with
        | some length => (.comment, 1 + length)
        | none => (.openComment, 1 + more.length)
      else
        (.token .slash, 0)
  | [] => (.token .slash, 0)

/-- After an opening quote: everything up to the closing one. -/
def afterQuote (rest : List Glyph) : Role × Nat :=
  let length := run (fun glyph => !glyph.is '"') rest
  if length < rest.length then (.token .string, length + 1) else (.openString, length)

/-- The kind of a name: a reserved word or an identifier. -/
def nameKind (name : Text) : TokenKind :=
  match Keyword.ofText? name with
  | some keyword => .keyword keyword
  | none => .identifier

/-- What the segment that starts with a glyph is, and how many of the following glyphs it takes. -/
def extent (first : Glyph) (rest : List Glyph) : Role × Nat :=
  if isBlank first.scalar then (.blank, 0)
  else if first.is '!' then
    let (kind, length) := afterBang rest
    (.token kind, length)
  else if first.is '/' then afterSlash rest
  else if first.is '"' then afterQuote rest
  else if first.isDigit then (.token .number, numberLength rest)
  else if first.startsName then
    let length := run Glyph.continuesName rest
    (.token (nameKind (Glyph.join (first :: rest.take length))), length)
  else match mark? first.scalar, comparison? first.scalar with
    | some kind, _ => (.token kind, 0)
    | none, some (alone, withEqual) =>
        if rest.head?.any (Glyph.is '=') then (.token withEqual, 1) else (.token alone, 0)
    | none, none => (.unexpected, 0)

/-- Cuts a source into segments. -/
def split : List Glyph → List Segment
  | [] => []
  | first :: rest =>
      let (role, length) := extent first rest
      ⟨role, first :: rest.take length⟩ :: split (rest.drop length)
termination_by glyphs => glyphs.length
decreasing_by simp only [List.length_cons, List.length_drop]; omega

/-- The bytes of a segment. -/
def bytes (segment : Segment) : Text :=
  Glyph.join segment.glyphs

/-- The line feeds inside a segment. -/
def newlines (segment : Segment) : Nat :=
  segment.glyphs.countP (Glyph.is '\n')

/-- The value that a literal token denotes. A text literal is taken verbatim between its quotes. -/
def literal? (kind : TokenKind) (lexeme : Text) : Option Value :=
  match kind with
  | .number => (Numeral.decimal? lexeme).map .number
  | .string => some (.string (lexeme.drop 1).dropLast)
  | _ => none

/-- The token that a segment is, given the line it ends on. -/
def token? (line : Nat) (segment : Segment) : Option Token :=
  match segment.role with
  | .token kind => some
      { kind, lexeme := segment.bytes, literal := literal? kind segment.bytes, line }
  | _ => none

end Segment

end Scriptlet
