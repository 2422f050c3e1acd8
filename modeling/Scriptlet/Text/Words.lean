import Scriptlet.Text.Basic
import Scriptlet.Text.Category
import Scriptlet.Total

/-!
# Words and code units

Cutting text at white space, and measuring it in UTF-16 code units, the unit in which editors
count columns.
-/

namespace Scriptlet

/-- The UTF-16 code units of one character: two beyond U+FFFF. -/
def Glyph.units (glyph : Glyph) : Nat :=
  if glyph.scalar.toNat < 0x10000 then 1 else 2

/-- White space reads as such; a stray byte never does. -/
def Glyph.isSpace (glyph : Glyph) : Bool :=
  Category.isSpace glyph.scalar

namespace Text

/-- The length of a text in UTF-16 code units. -/
def units (source : Text) : Nat :=
  total Glyph.units source.glyphs

/-- Drops the white space at both ends. -/
def trim (source : Text) : Text :=
  Glyph.join (((source.glyphs.dropWhile Glyph.isSpace).reverse.dropWhile Glyph.isSpace).reverse)

/-- The words of a text, which white space separates. -/
def words (source : Text) : List Text :=
  let cut := source.glyphs.foldr
    (fun glyph (word, words) =>
      if glyph.isSpace then ([], if word.isEmpty then words else word :: words)
      else (glyph.bytes ++ word, words))
    (([], []) : Text × List Text)
  if cut.1.isEmpty then cut.2 else cut.1 :: cut.2

end Text

end Scriptlet
