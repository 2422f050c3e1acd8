/-!
# Texts and glyphs

Sources, values and messages are texts: lists of bytes that are usually, but not necessarily,
well-formed UTF-8. Everything that looks at characters does so through `Text.glyphs`, which cuts a
text into glyphs. A glyph is either a character or a stray byte, one that belongs to no well-formed
character; a stray byte reads as U+FFFD but keeps its own byte, so no cut ever loses anything.
-/

namespace Scriptlet

/-- A list of bytes, read as UTF-8 wherever characters matter. -/
abbrev Text := List UInt8

/-- The bytes of a string. -/
def text (string : String) : Text :=
  string.toByteArray.data.toList

/-- The byte of an ASCII character. -/
def byte (character : Char) : UInt8 :=
  UInt8.ofNat character.toNat

/-- One unit of a text: a character, or a byte that belongs to no character. -/
inductive Glyph where
  | char (character : Char)
  | stray (byte : UInt8)
  deriving DecidableEq, Repr

namespace Glyph

/-- The character a glyph reads as; a stray byte reads as U+FFFD. -/
def scalar : Glyph → Char
  | .char character => character
  | .stray _ => '\uFFFD'

/-- The bytes a glyph was cut from. -/
def bytes : Glyph → Text
  | .char character => String.utf8EncodeChar character
  | .stray byte => [byte]

/-- What the next byte does to the bytes of an unfinished character. -/
inductive Extension where
  | complete (character : Char)
  | unfinished
  | broken
  deriving DecidableEq, Repr

/-- Continuation bytes carry six bits after `10`. -/
def isContinuation (byte : UInt8) : Bool :=
  0x80 ≤ byte && byte ≤ 0xbf

/-- The bytes that can open a character of two, three or four bytes. -/
def isLead (byte : UInt8) : Bool :=
  0xc2 ≤ byte && byte ≤ 0xf4

/-- The second byte rules out overlong forms, surrogates and values beyond U+10FFFF. -/
def isSecond (lead second : UInt8) : Bool :=
  if lead = 0xe0 then 0xa0 ≤ second && second ≤ 0xbf
  else if lead = 0xed then 0x80 ≤ second && second ≤ 0x9f
  else if lead = 0xf0 then 0x90 ≤ second && second ≤ 0xbf
  else if lead = 0xf4 then 0x80 ≤ second && second ≤ 0x8f
  else isContinuation second

/-- The effect of one more byte on the bytes of an unfinished character. -/
def extend (pending : Text) (next : UInt8) : Extension :=
  match pending with
  | [lead] =>
      if isSecond lead next then
        if lead < 0xe0 then
          .complete (Char.ofNat (lead.toNat % 32 * 64 + next.toNat % 64))
        else
          .unfinished
      else
        .broken
  | [lead, second] =>
      if isContinuation next then
        if lead < 0xf0 then
          .complete (Char.ofNat
            (lead.toNat % 16 * 4096 + second.toNat % 64 * 64 + next.toNat % 64))
        else
          .unfinished
      else
        .broken
  | [lead, second, third] =>
      if isContinuation next then
        .complete (Char.ofNat (lead.toNat % 8 * 262144 + second.toNat % 64 * 4096 +
          third.toNat % 64 * 64 + next.toNat % 64))
      else
        .broken
  | _ => .broken

/-- A text cut so far: finished glyphs, latest first, and the bytes of an unfinished character. -/
structure Cut where
  finished : List Glyph := []
  pending : Text := []

namespace Cut

/-- Gives up on the unfinished character: each of its bytes is stray. -/
def abandon (cut : Cut) : List Glyph :=
  cut.pending.foldl (fun glyphs byte => .stray byte :: glyphs) cut.finished

/-- Takes a byte that continues nothing. -/
def start (finished : List Glyph) (byte : UInt8) : Cut :=
  if byte < 0x80 then ⟨.char (Char.ofNat byte.toNat) :: finished, []⟩
  else if isLead byte then ⟨finished, [byte]⟩
  else ⟨.stray byte :: finished, []⟩

/-- Takes the next byte of the text. -/
def feed (cut : Cut) (byte : UInt8) : Cut :=
  match extend cut.pending byte with
  | .complete character => ⟨.char character :: cut.finished, []⟩
  | .unfinished => ⟨cut.finished, cut.pending ++ [byte]⟩
  | .broken => start cut.abandon byte

end Cut

/-- The text of a list of glyphs. -/
def join (glyphs : List Glyph) : Text :=
  glyphs.flatMap Glyph.bytes

end Glyph

namespace Text

/-- Cuts a text into glyphs. -/
def glyphs (source : Text) : List Glyph :=
  (source.foldl Glyph.Cut.feed {}).abandon.reverse

/-- The characters a text reads as. -/
def scalars (source : Text) : List Char :=
  source.glyphs.map Glyph.scalar

/-- The text of a list of characters. -/
def ofChars (characters : List Char) : Text :=
  characters.flatMap String.utf8EncodeChar

/-- Whether every byte belongs to a well-formed character. -/
def isWellFormed (source : Text) : Bool :=
  source.glyphs.all fun
    | .char _ => true
    | .stray _ => false

/-- Replaces every stray byte by U+FFFD. -/
def repaired (source : Text) : Text :=
  ofChars source.scalars

/-- The string a text reads as. -/
def toString (source : Text) : String :=
  String.ofList source.scalars

/-- The line feed, which ends a line. -/
def newline : UInt8 := 10

/-- The carriage return. -/
def carriageReturn : UInt8 := 13

/-- The text of a natural number in decimal. -/
def ofNat (number : Nat) : Text :=
  (Nat.toDigits 10 number).map byte

/-- The text of an integer in decimal. -/
def ofInt (number : Int) : Text :=
  if number < 0 then byte '-' :: ofNat number.natAbs else ofNat number.natAbs

/-- The number of line feeds in a text. -/
def newlines (source : Text) : Nat :=
  source.count newline

/-- The pieces of a text between separators; there is always one. -/
def pieces (separator : UInt8) (source : Text) : List Text :=
  source.foldr
    (fun byte pieces =>
      if byte = separator then [] :: pieces
      else match pieces with
        | [] => [[byte]]
        | piece :: rest => (byte :: piece) :: rest)
    [[]]

/-- The lines of a text, without the line feeds that separate them; there is always one. -/
def lines (source : Text) : List Text :=
  source.pieces newline

/-- Joins texts with a separator between neighbours. -/
def joinWith (separator : Text) (parts : List Text) : Text :=
  separator.intercalate parts

/-- Drops the bytes at the end that satisfy a test. -/
def trimEnd (test : UInt8 → Bool) (source : Text) : Text :=
  (source.reverse.dropWhile test).reverse

/-- The offset of the first occurrence of one text in another, counted from an offset. -/
def indexFrom? (needle : Text) : Text → Nat → Option Nat
  | [], offset => if needle.isEmpty then some offset else none
  | source@(_ :: rest), offset =>
      if needle.isPrefixOf source then some offset else indexFrom? needle rest (offset + 1)

/-- The offset of the first occurrence of one text in another. -/
def indexOf? (source needle : Text) : Option Nat :=
  indexFrom? needle source 0

/-- Whether one text occurs in another. -/
def includes (source needle : Text) : Bool :=
  (source.indexOf? needle).isSome

/-- Cuts a text at the first byte that satisfies a test, leaving that byte out. -/
def cut? (test : UInt8 → Bool) (source : Text) : Option (Text × Text) :=
  match source.dropWhile fun byte => !test byte with
  | [] => none
  | _ :: rest => some (source.takeWhile fun byte => !test byte, rest)

theorem length_lt_of_cut? {test : UInt8 → Bool} {source before after : Text}
    (found : source.cut? test = some (before, after)) : after.length < source.length := by
  unfold cut? at found
  split at found
  · simp at found
  · rename_i first rest remains
    have shorter : (source.dropWhile fun byte => !test byte).length ≤ source.length :=
      (List.dropWhile_sublist _).length_le
    rw [remains] at shorter
    simp only [Option.some.injEq, Prod.mk.injEq] at found
    rw [← found.2]
    simp only [List.length_cons] at shorter
    omega

theorem not_mem_of_cut?_eq_none {pivot : UInt8} {source : Text}
    (uncut : source.cut? (· = pivot) = none) : pivot ∉ source := by
  unfold cut? at uncut
  split at uncut
  · rename_i passed
    intro member
    have kept :=
      List.takeWhile_append_dropWhile (p := fun byte => !decide (byte = pivot)) (l := source)
    rw [passed, List.append_nil] at kept
    have passes := List.all_takeWhile (p := fun byte => !decide (byte = pivot)) (l := source)
    rw [kept] at passes
    simpa using List.all_eq_true.mp passes pivot member
  · simp at uncut

/-- Reads a line off an input: the line with the line feed that ends it, and what follows it. The
last line lacks the line feed, and nothing follows it. -/
def nextLine (input : Text) : Text × Text :=
  match input.cut? (· = newline) with
  | some (line, rest) => (line ++ [newline], rest)
  | none => (input, [])

/-- The hexadecimal digit of a number below sixteen. -/
def hexDigit (value : Nat) : UInt8 :=
  UInt8.ofNat (if value < 10 then 48 + value else 87 + value)

/-- A number in lower-case hexadecimal with the given number of digits. -/
def hex (digits value : Nat) : Text :=
  match digits with
  | 0 => []
  | rest + 1 => hex rest (value / 16) ++ [hexDigit (value % 16)]

/-- The given number of spaces. -/
def spaces (count : Nat) : Text :=
  List.replicate count (byte ' ')

end Text

end Scriptlet
