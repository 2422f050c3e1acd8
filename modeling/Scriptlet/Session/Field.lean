import Scriptlet.Text.Cells

/-!
# The input field

An editable line of at most 500 characters with a cursor. When the line is wider than the field, a
window of it is shown that follows the cursor.
-/

namespace Scriptlet

/-- An editable line: its characters, the cursor's place among them, the columns of the field, and
the window of the line that is shown. -/
structure Field where
  value : List Char := []
  position : Nat := 0
  width : Int := 60
  first : Nat := 0
  last : Nat := 0
  deriving DecidableEq

namespace Field

/-- How many characters a field holds. -/
def capacity : Nat := 500

/-- What is shown while a field is empty. -/
def placeholder : Text :=
  text "print 1 + 2;"

/-- What remains of entered text: line ends and tabs become spaces, and other control characters
and unreadable ones are dropped. -/
def sanitize (characters : List Char) : List Char :=
  characters.filterMap fun character =>
    if character = '\r' || character = '\n' || character = '\t' then some ' '
    else if character = '\uFFFD' || Category.isControl character then none
    else some character

/-- How many characters fit from the left, given the columns used so far: one column more than the
field has is allowed. -/
def fitRight (width : Int) : Nat → List Char → Nat
  | _, [] => 0
  | used, character :: rest =>
      if (used : Int) ≤ width then
        let next := used + Cells.ofChar character
        if (next : Int) ≤ width + 1 then 1 + fitRight width next rest else 0
      else
        0

/-- How many of the given characters, taken from the last one backwards, fit into the field. -/
def fitLeft (width : Int) : Nat → List Char → Nat
  | _, [] => 0
  | used, character :: rest =>
      if (used : Int) < width then
        let next := used + Cells.ofChar character
        if (next : Int) ≤ width then 1 + fitLeft width next rest else 0
      else
        0

/-- Moves the window so that it shows the cursor. -/
def scroll (field : Field) : Field :=
  if field.width ≤ 0 ∨ (Cluster.columns field.value : Int) ≤ field.width then
    { field with first := 0, last := field.value.length }
  else
    let last := min field.last field.value.length
    if field.position < field.first then
      { field with
        first := field.position
        last := field.position + fitRight field.width 0 (field.value.drop field.position) }
    else if last ≤ field.position then
      -- The very first character is never counted: the window then starts right behind it.
      let before := ((field.value.take field.position).drop 1).reverse
      { field with
        last := field.position
        first := field.position - fitLeft field.width 0 before }
    else
      { field with last }

/-- Puts the cursor somewhere, at most behind the last character. -/
def moveTo (field : Field) (position : Nat) : Field :=
  scroll { field with position := min position field.value.length }

/-- Replaces the characters; the cursor goes to the end if the field was empty or is now too short
for it. -/
def replace (field : Field) (value : List Char) : Field :=
  let value := value.take capacity
  let changed := { field with value }
  if (field.position = 0 && field.value.isEmpty) || value.length < field.position then
    scroll (changed.moveTo value.length)
  else
    scroll changed

/-- Sets the text of the field. -/
def set (field : Field) (characters : List Char) : Field :=
  field.replace (sanitize characters)

/-- Sets the text of the field and moves the cursor to its end. -/
def setToEnd (field : Field) (characters : List Char) : Field :=
  let changed := field.set characters
  changed.moveTo changed.value.length

/-- Inserts as much of entered text at the cursor as there is room for. -/
def insert (field : Field) (characters : List Char) : Field :=
  let room := capacity - field.value.length
  if room = 0 then field
  else
    let entered := (sanitize characters).take room
    scroll { field with
      value := field.value.take field.position ++ entered ++ field.value.drop field.position
      position := field.position + entered.length }

/-- Removes the character before the cursor. -/
def backspace (field : Field) : Field :=
  if field.position = 0 then field
  else
    { field with
      value := field.value.take (field.position - 1) ++ field.value.drop field.position }.moveTo
      (field.position - 1)

/-- Removes the character at the cursor. -/
def delete (field : Field) : Field :=
  { field with
    value := field.value.take field.position ++ field.value.drop (field.position + 1) }

/-- Removes everything before the cursor. -/
def clearBefore (field : Field) : Field :=
  { field with value := field.value.drop field.position, first := 0 }.moveTo 0

/-- Whether white space stands at a place of the field. -/
def isSpaceAt (field : Field) (position : Nat) : Bool :=
  (field.value[position]?).any Category.isSpace

/-- Moves the cursor left over white space; the fuel is the cursor's distance from the start. -/
def skipSpaces (field : Field) : Nat → Field
  | 0 => field
  | fuel + 1 =>
      if field.isSpaceAt field.position && field.position != 0 then
        (field.moveTo (field.position - 1)).skipSpaces fuel
      else
        field

/-- Moves the cursor left to the start of the word it is in; the fuel is the cursor's distance from
the start. -/
def skipWord (field : Field) : Nat → Field
  | 0 => field
  | fuel + 1 =>
      if field.position = 0 then field
      else if field.isSpaceAt field.position then field.moveTo (field.position + 1)
      else (field.moveTo (field.position - 1)).skipWord fuel

/-- Removes the word before the cursor and the white space behind it. -/
def deleteWord (field : Field) : Field :=
  if field.position = 0 then field
  else
    let spaced := (field.moveTo (field.position - 1)).skipSpaces field.position
    let moved := spaced.skipWord (spaced.position + 1)
    { moved with
      value := moved.value.take moved.position ++ moved.value.drop field.position }

/-- The keys that edit the field. -/
inductive Key where
  | left
  | right
  | home
  | finish
  | backspace
  | delete
  | clearBefore
  | deleteWord
  deriving DecidableEq, Repr

/-- What a key does to the field. -/
def press (field : Field) : Key → Field
  | .left => scroll (field.moveTo (field.position - 1))
  | .right => scroll (field.moveTo (field.position + 1))
  | .home => scroll (field.moveTo 0)
  | .finish => scroll (field.moveTo field.value.length)
  | .backspace => scroll field.backspace
  | .delete => scroll field.delete
  | .clearBefore => scroll field.clearBefore
  | .deleteWord => scroll field.deleteWord

/-- Types text into the field. -/
def type (field : Field) (characters : List Char) : Field :=
  scroll (field.insert characters)

/-- The text of the field. -/
def content (field : Field) : Text :=
  Text.ofChars field.value

/-- The placeholder, cut or padded to the field. -/
def placeholderView (field : Field) : Text :=
  if field.width ≤ 0 then placeholder.take 1
  else
    let shown := min placeholder.length (field.width + 1).toNat
    placeholder.take shown ++ Text.spaces (field.width + 1 - placeholder.length).toNat

/-- What the field shows: the window, a blank for a cursor behind its end, and padding. -/
def view (field : Field) : Text :=
  if field.value.isEmpty then field.placeholderView
  else
    let shown := (field.value.take field.last).drop field.first
    let inside := field.position - field.first < shown.length
    let width := Cluster.columns shown
    Text.ofChars shown ++ (if inside then [] else Text.spaces 1) ++
      if 0 < field.width ∧ (width : Int) ≤ field.width then
        Text.spaces ((field.width - width).toNat + if inside then 1 else 0)
      else
        []

end Field

end Scriptlet
