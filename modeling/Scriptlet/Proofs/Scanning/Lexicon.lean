import Scriptlet.Proofs.Text.Cutting
import Scriptlet.Token.Scan

/-!
# The lexicon

This file says what the segments of a source are, without any reference to how they are found.
`Lexeme` is the lexical grammar: the glyphs that can be a token of a kind. `BlockComment` reads the
delimiters of comments from left to right, without overlap, and asks that they nest properly. What a
segment may be also depends on what follows it, because every token is as long as possible; this is
`Segment.Stands`, and `Segment.Partition` is a whole source cut into segments that stand.

The one exception to the longest match is `!in`: it is not a token where a name would go on behind
it.
-/

namespace Scriptlet

namespace Glyph

/-- The glyphs that spell a string. -/
def spell (spelling : String) : List Glyph :=
  spelling.toList.map Glyph.char

end Glyph

open Glyph

/-- The marks of the language and how they are written. -/
def marks : List (TokenKind × String) :=
  [(.leftParen, "("), (.rightParen, ")"), (.leftBrace, "\x7b"), (.rightBrace, "\x7d"),
    (.comma, ","), (.dot, "."), (.minus, "-"), (.plus, "+"), (.semicolon, ";"), (.slash, "/"),
    (.star, "*"), (.bang, "!"), (.bangEqual, "!="), (.bangIn, "!in"), (.equal, "="),
    (.equalEqual, "=="), (.greater, ">"), (.greaterEqual, ">="), (.less, "<"), (.lessEqual, "<=")]

/-- The glyphs that can be a token of a kind. -/
inductive Lexeme : TokenKind → List Glyph → Prop where
  | mark {kind : TokenKind} {spelling : String} (known : (kind, spelling) ∈ marks) :
      Lexeme kind (spell spelling)
  | whole {first : Glyph} {digits : List Glyph} (starts : first.isDigit)
      (continues : ∀ glyph ∈ digits, glyph.isDigit) : Lexeme .number (first :: digits)
  | fraction {first place : Glyph} {digits places : List Glyph} (starts : first.isDigit)
      (continues : ∀ glyph ∈ digits, glyph.isDigit) (placed : place.isDigit)
      (ends : ∀ glyph ∈ places, glyph.isDigit) :
      Lexeme .number (first :: (digits ++ .char '.' :: place :: places))
  | string {content : List Glyph} (unquoted : ∀ glyph ∈ content, glyph ≠ .char '"') :
      Lexeme .string (.char '"' :: (content ++ [.char '"']))
  | keyword (word : Keyword) : Lexeme (.keyword word) (spell word.spelling)
  | identifier {first : Glyph} {rest : List Glyph} (starts : first.startsName)
      (continues : ∀ glyph ∈ rest, glyph.continuesName)
      (free : ∀ word : Keyword, first :: rest ≠ spell word.spelling) :
      Lexeme .identifier (first :: rest)

/-- Where `!in` is not read as one token: a name would go on behind it. -/
def SplitsNotIn (lexeme longer following : List Glyph) : Prop :=
  lexeme = spell "!" ∧ longer = spell "!in" ∧
    ∃ next rest, following = spell "in" ++ next :: rest ∧ next.continuesName

/-- A delimiter of comments, or a glyph between them. -/
inductive Delimiter where
  | opening
  | closing
  | plain (glyph : Glyph)

/-- Reads delimiters from left to right, without overlap. -/
def delimiters : List Glyph → List Delimiter
  | [] => []
  | [glyph] => [.plain glyph]
  | first :: second :: rest =>
      if first = .char '/' ∧ second = .char '*' then .opening :: delimiters rest
      else if first = .char '*' ∧ second = .char '/' then .closing :: delimiters rest
      else .plain first :: delimiters (second :: rest)

/-- Delimiters that nest properly. -/
inductive Balanced : List Delimiter → Prop where
  | nil : Balanced []
  | plain {rest : List Delimiter} (glyph : Glyph) (tail : Balanced rest) :
      Balanced (.plain glyph :: rest)
  | nested {inner rest : List Delimiter} (inside : Balanced inner) (tail : Balanced rest) :
      Balanced (.opening :: (inner ++ .closing :: rest))

/-- One comment from its opening delimiter to the closing one that matches it. -/
def BlockComment (glyphs : List Glyph) : Prop :=
  ∃ inner, Balanced inner ∧ delimiters glyphs = .opening :: (inner ++ [.closing])

namespace Segment

/-- What may stand as a segment in front of the glyphs that follow it. -/
inductive Stands : Segment → List Glyph → Prop where
  | blank {character : Char} {following : List Glyph}
      (isBlank : character ∈ [' ', '\t', '\r', '\n']) : Stands ⟨.blank, [.char character]⟩ following
  | lineComment {content following : List Glyph} (onLine : ∀ glyph ∈ content, glyph ≠ .char '\n')
      (ends : following = [] ∨ ∃ rest, following = .char '\n' :: rest) :
      Stands ⟨.comment, spell "//" ++ content⟩ following
  | blockComment {glyphs following : List Glyph} (comment : BlockComment glyphs) :
      Stands ⟨.comment, glyphs⟩ following
  | token {kind : TokenKind} {lexeme following : List Glyph} (isLexeme : Lexeme kind lexeme)
      (noComment : ¬spell "//" <+: lexeme ++ following ∧ ¬spell "/*" <+: lexeme ++ following)
      (longest : ∀ other longer, Lexeme other longer → longer <+: lexeme ++ following →
        longer.length ≤ lexeme.length ∨ SplitsNotIn lexeme longer following)
      (whole : kind = .bangIn → ∀ next rest, following = next :: rest → ¬next.continuesName) :
      Stands ⟨.token kind, lexeme⟩ following
  | unexpected {glyph : Glyph} {following : List Glyph}
      (noBlank : ∀ character ∈ [' ', '\t', '\r', '\n'], glyph ≠ .char character)
      (noComment : ¬spell "//" <+: glyph :: following ∧ ¬spell "/*" <+: glyph :: following)
      (noString : glyph ≠ .char '"')
      (noToken : ∀ kind lexeme, Lexeme kind lexeme → ¬lexeme <+: glyph :: following) :
      Stands ⟨.unexpected, [glyph]⟩ following
  | openString {content : List Glyph} (unquoted : ∀ glyph ∈ content, glyph ≠ .char '"') :
      Stands ⟨.openString, .char '"' :: content⟩ []
  | openComment {content : List Glyph}
      (unclosed : ∀ glyphs, glyphs <+: spell "/*" ++ content → ¬BlockComment glyphs) :
      Stands ⟨.openComment, spell "/*" ++ content⟩ []

/-- Glyphs cut from left to right, without gap or overlap, into segments that stand. -/
inductive Partition : List Glyph → List Segment → Prop where
  | nil : Partition [] []
  | cons {segment : Segment} {following : List Glyph} {segments : List Segment}
      (stands : segment.Stands following) (tail : Partition following segments) :
      Partition (segment.glyphs ++ following) (segment :: segments)

end Segment

end Scriptlet
