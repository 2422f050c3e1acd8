import Scriptlet.Number.Numeral
import Scriptlet.Text.Words
import Scriptlet.Token.Basic

/-!
# Words under a cursor

Editors name a place by a line and an offset in UTF-16 code units. The word at such a place is the
longest run of word characters that touches it.
-/

namespace Scriptlet.Word

/-- Words are made of letters, decimal digits, underscores and points. -/
def isPart (character : Char) : Bool :=
  Category.isLetter character || Category.isDecimal character || character = '_' || character = '.'

/-- How many characters start before an offset in code units. -/
def boundary (offset : Int) (used : Nat) : List Char → Nat
  | [] => 0
  | character :: rest =>
      if (used : Int) < offset then
        1 + boundary offset (used + (Glyph.char character).units) rest
      else
        0

/-- The word around the character at an index, which is part of it. -/
def around (characters : List Char) (index : Nat) : List Char :=
  ((characters.take index).reverse.takeWhile isPart).reverse ++
    (characters.drop index).takeWhile isPart

/-- The index of the character at a place, or of the one before it, if that is part of a word. -/
def touching? (characters : List Char) (place : Nat) : Option Nat :=
  let index := min place (characters.length - 1)
  if (characters[index]?).any isPart then some index
  else if index ≠ 0 ∧ (characters[index - 1]?).any isPart then some (index - 1)
  else none

/-- The word at an offset of a line of a source; there may be none. -/
def atPosition (source : Text) (line character : Int) : Text :=
  if line < 0 then []
  else
    let characters := (source.lines[line.toNat]?.getD []).scalars
    match touching? characters (boundary character 0 characters) with
    | some index => Text.ofChars (around characters index)
    | none => []

/-- What kind of word a word is. -/
inductive Kind where
  | keyword
  | numeral
  | identifier
  deriving DecidableEq, Repr

/-- The name of a kind of word. -/
def Kind.name : Kind → String
  | .keyword => "keyword"
  | .numeral => "number literal"
  | .identifier => "identifier"

/-- The kind of a word: a reserved word, a numeral, or else an identifier. -/
def classify (word : Text) : Kind :=
  if (Keyword.ofText? word).isSome then .keyword
  else if Numeral.isNumeral word then .numeral
  else .identifier

end Scriptlet.Word
