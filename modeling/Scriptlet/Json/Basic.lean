import Scriptlet.Text.Basic

/-!
# JSON values

JSON values as they are spelled: a number is kept as its literal and a string as the characters
between its quotes, escape sequences included, so that a value can be echoed exactly as it came.
`Json.unescape` gives the content of a string and `Json.ofText` spells a text.
-/

namespace Scriptlet

/-- A JSON value with its literals as spelled. -/
inductive Json where
  | null
  | bool (truth : Bool)
  | number (literal : Text)
  | string (spelling : Text)
  | array (items : List Json)
  | object (members : List (Text × Json))

namespace Json

/-- The value of a hexadecimal digit. -/
def hexValue? (digit : UInt8) : Option Nat :=
  if 48 ≤ digit && digit ≤ 57 then some (digit.toNat - 48)
  else if 97 ≤ digit && digit ≤ 102 then some (digit.toNat - 87)
  else if 65 ≤ digit && digit ≤ 70 then some (digit.toNat - 55)
  else none

/-- The code unit that four hexadecimal digits spell. -/
def unit? (a b c d : UInt8) : Option Nat := do
  return (((← hexValue? a) * 16 + (← hexValue? b)) * 16 + (← hexValue? c)) * 16 + (← hexValue? d)

/-- The byte that an escape letter stands for. -/
def escapeByte? (letter : UInt8) : Option UInt8 :=
  match letter with
  | 34 => some 34
  | 92 => some 92
  | 47 => some 47
  | 98 => some 8
  | 102 => some 12
  | 110 => some 10
  | 114 => some 13
  | 116 => some 9
  | _ => none

/-- Whether a code unit is the first half of a pair. -/
def isHigh (code : Nat) : Bool :=
  0xd800 ≤ code && code < 0xdc00

/-- Whether a code unit is the second half of a pair. -/
def isLow (code : Nat) : Bool :=
  0xdc00 ≤ code && code < 0xe000

/-- The character of a code unit outside pairs; half a pair reads as U+FFFD. -/
def unitText (code : Nat) : Text :=
  String.utf8EncodeChar (if isHigh code || isLow code then '\uFFFD' else Char.ofNat code)

/-- The character of a pair of code units. -/
def pairText (high low : Nat) : Text :=
  String.utf8EncodeChar (Char.ofNat (0x10000 + (high - 0xd800) * 0x400 + (low - 0xdc00)))

/-- A part of a spelling: a byte that stands for one, or a numbered code unit. -/
inductive Part where
  | byte (value : UInt8)
  | unit (code : Nat)
  deriving DecidableEq

/-- The parts of a spelling, or nothing if it is not the inside of a JSON string. -/
def parts? : Text → Option (List Part)
  | [] => some []
  | 92 :: 117 :: a :: b :: c :: d :: rest =>
      match unit? a b c d with
      | some code => (parts? rest).map (.unit code :: ·)
      | none => none
  | 92 :: letter :: rest =>
      match escapeByte? letter with
      | some value => (parts? rest).map (.byte value :: ·)
      | none => none
  | value :: rest =>
      if value < 0x20 || value = 34 || value = 92 then none
      else (parts? rest).map (.byte value :: ·)

/-- The bytes of the parts of a spelling; two units that form a pair are one character. -/
def joinParts : List Part → Text
  | [] => []
  | .byte value :: rest => value :: joinParts rest
  | .unit high :: .unit low :: rest =>
      if isHigh high && isLow low then pairText high low ++ joinParts rest
      else unitText high ++ joinParts (.unit low :: rest)
  | .unit code :: rest => unitText code ++ joinParts rest

/-- The content of a string from its spelling; bytes that belong to no character read as U+FFFD. -/
def unescape (spelling : Text) : Text :=
  (joinParts ((parts? spelling).getD [])).repaired

/-- How a character is spelled inside a string. Besides what JSON demands, the characters that
mean something in markup and the two line separators are escaped. -/
def escapedChar (character : Char) : Text :=
  match character with
  | '"' => text "\\\""
  | '\\' => text "\\\\"
  | '\x08' => text "\\b"
  | '\x0c' => text "\\f"
  | '\n' => text "\\n"
  | '\r' => text "\\r"
  | '\t' => text "\\t"
  | _ =>
      if character.toNat < 0x20 || character = '<' || character = '>' || character = '&' ||
          character = '\u2028' || character = '\u2029' then
        text "\\u" ++ Text.hex 4 character.toNat
      else
        String.utf8EncodeChar character

/-- How a glyph is spelled inside a string. -/
def escapedGlyph : Glyph → Text
  | .char character => escapedChar character
  | .stray _ => text "\\ufffd"

/-- The string with a given content. -/
def ofText (content : Text) : Json :=
  .string (content.glyphs.flatMap escapedGlyph)

/-- The number literal of an integer. -/
def ofInt (number : Int) : Json :=
  .number (Text.ofInt number)

/-- An object from its members. -/
def ofMembers (members : List (String × Json)) : Json :=
  .object (members.map fun (name, value) => (text name, value))

/-- The last member of an object with a name. -/
def member? (name : String) : Json → Option Json
  | .object members => (members.reverse.find? fun member => unescape member.1 = text name).map (·.2)
  | _ => none

/-- Escapes in a spelling what must never be written as it is. -/
def hardened (spelling : Text) : Text :=
  spelling.glyphs.flatMap fun
    | .char character =>
        if character = '<' || character = '>' || character = '&' || character = '\u2028' ||
            character = '\u2029' then
          text "\\u" ++ Text.hex 4 character.toNat
        else
          String.utf8EncodeChar character
    | .stray byte => [byte]

/-- A string written out from its spelling. -/
def quoted (spelling : Text) : Text :=
  byte '"' :: hardened spelling ++ [byte '"']

mutual

/-- Writes a value without white space. -/
def render : Json → Text
  | .null => text "null"
  | .bool truth => text (if truth then "true" else "false")
  | .number literal => literal
  | .string spelling => quoted spelling
  | .array items => byte '[' :: Text.joinWith [byte ','] (renderItems items) ++ [byte ']']
  | .object members =>
      byte '\x7b' :: Text.joinWith [byte ','] (renderMembers members) ++ [byte '\x7d']

/-- Writes the items of an array. -/
def renderItems : List Json → List Text
  | [] => []
  | item :: rest => render item :: renderItems rest

/-- Writes the members of an object. -/
def renderMembers : List (Text × Json) → List Text
  | [] => []
  | (name, value) :: rest => (quoted name ++ byte ':' :: render value) :: renderMembers rest

end

end Json

end Scriptlet
