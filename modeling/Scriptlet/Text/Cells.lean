import Scriptlet.Text.ControlSequence

/-!
# Terminal cells

How many columns of a terminal a text takes, and how a text is laid out as a block of lines of one
width. A whole text is measured cluster by cluster, without its control sequences; a character on
its own takes none if it is a mark or a control character, two if it is wide, and one otherwise.
-/

namespace Scriptlet.Cells

/-- The characters beyond ASCII that take no column on their own. -/
def narrowest : Category.Ranges :=
  [(0x80, 0x9f), (0xad, 0xad), (0x300, 0x36f), (0x483, 0x489), (0x70f, 0x70f), (0x7eb, 0x7f3),
   (0xc00, 0xc00), (0xc04, 0xc04), (0xcf3, 0xcf3), (0xd00, 0xd01), (0x135d, 0x135f),
   (0x180b, 0x180e), (0x1a7f, 0x1a7f), (0x1ab0, 0x1ace), (0x1b6b, 0x1b73), (0x1dc0, 0x1dff),
   (0x200b, 0x200f), (0x2028, 0x202e), (0x206a, 0x206f), (0x20d0, 0x20f0), (0x2cef, 0x2cf1),
   (0x2de0, 0x2dff), (0x3099, 0x309a), (0xa66f, 0xa672), (0xa674, 0xa67d), (0xa69e, 0xa69f),
   (0xa6f0, 0xa6f1), (0xa8e0, 0xa8f1), (0xfe20, 0xfe2f), (0xfeff, 0xfeff), (0xfff9, 0xfffb),
   (0xfffe, 0xffff), (0x101fd, 0x101fd), (0x10376, 0x1037a), (0x10eab, 0x10eac),
   (0x10f46, 0x10f50), (0x10f82, 0x10f85), (0x11300, 0x11301), (0x1133b, 0x1133c),
   (0x11366, 0x1136c), (0x11370, 0x11374), (0x16af0, 0x16af4), (0x1cf00, 0x1cf2d),
   (0x1cf30, 0x1cf46), (0x1d165, 0x1d169), (0x1d16d, 0x1d172), (0x1d17b, 0x1d182),
   (0x1d185, 0x1d18b), (0x1d1aa, 0x1d1ad), (0x1d242, 0x1d244), (0x1e000, 0x1e006),
   (0x1e008, 0x1e018), (0x1e01b, 0x1e021), (0x1e023, 0x1e024), (0x1e026, 0x1e02a),
   (0x1e08f, 0x1e08f), (0x1e8d0, 0x1e8d6)]

/-- The marks that describe the composition of ideographs: as wide as ideographs on their own. -/
def descriptionMarks : Category.Ranges :=
  [(0x2ffc, 0x2fff), (0x31ef, 0x31ef)]

/-- The columns of one character on its own, without regard to its neighbours. -/
def ofChar (character : Char) : Nat :=
  let code := character.toNat
  if code < 0x80 then (if Category.isControl character then 0 else 1)
  else if narrowest.contains code then 0
  else if Cluster.wide.contains code || descriptionMarks.contains code then 2
  else 1

/-- The columns of a text on a terminal. -/
def width (source : Text) : Nat :=
  Control.columns source

/-- A tab is shown as four spaces, and a line may end in a carriage return before its line feed. -/
def expand : Text → Text
  | [] => []
  | 9 :: rest => Text.spaces 4 ++ expand rest
  | 13 :: 10 :: rest => Text.newline :: expand rest
  | byte :: rest => byte :: expand rest

/-- Lays a text out as a block: every line dressed by `dress`, and all lines of a block of several
lines padded to the width of its widest line. -/
def block (dress : Text → Text) (source : Text) : Text :=
  let lines := (expand source).lines
  let columns := (lines.map width).foldl max 0
  match lines with
  | [line] => dress line
  | _ =>
      Text.joinWith [Text.newline]
        (lines.map fun line => dress line ++ Text.spaces (columns - width line))

end Scriptlet.Cells
