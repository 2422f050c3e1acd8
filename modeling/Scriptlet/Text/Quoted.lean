import Scriptlet.Text.Basic
import Scriptlet.Text.Category

/-!
# Quoted text

The quoted form in which messages show texts and characters: printable characters stand for
themselves, the quote and the backslash are escaped, and everything else is an escape sequence.
-/

namespace Scriptlet.Quoted

/-- The escape letter of a control character that has one. -/
def letter? (character : Char) : Option Char :=
  match character.toNat with
  | 7 => some 'a'
  | 8 => some 'b'
  | 9 => some 't'
  | 10 => some 'n'
  | 11 => some 'v'
  | 12 => some 'f'
  | 13 => some 'r'
  | _ => none

/-- A character by its number: four digits, or eight beyond U+FFFF. -/
def numbered (character : Char) : Text :=
  if character.toNat < 0x10000 then text "\\u" ++ Text.hex 4 character.toNat
  else text "\\U" ++ Text.hex 8 character.toNat

/-- One byte as an escape sequence of two digits. -/
def hexByte (value : Nat) : Text :=
  text "\\x" ++ Text.hex 2 value

/-- A character inside the given quotes. -/
def escaped (quote character : Char) : Text :=
  if character = quote || character = '\\' then [byte '\\', byte character]
  else if Category.isPrintable character then String.utf8EncodeChar character
  else match letter? character with
    | some letter => [byte '\\', byte letter]
    | none =>
        if character.toNat < 0x20 || character.toNat = 0x7f then hexByte character.toNat
        else numbered character

/-- A glyph inside double quotes; a stray byte keeps its value. -/
def glyph : Glyph → Text
  | .char character => escaped '"' character
  | .stray byte => hexByte byte.toNat

/-- A text in double quotes. -/
def ofText (source : Text) : Text :=
  byte '"' :: source.glyphs.flatMap glyph ++ [byte '"']

/-- A character in single quotes. -/
def ofChar (character : Char) : Text :=
  byte '\'' :: escaped '\'' character ++ [byte '\'']

end Scriptlet.Quoted
