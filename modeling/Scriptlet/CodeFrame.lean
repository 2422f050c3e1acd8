import Scriptlet.Text.Basic

/-!
# Code frames

One line of a source behind a gutter with its number.
-/

namespace Scriptlet

/-- The frame of a line, counted from one; there is none for a line the source does not have. -/
def codeFrame? (source : Text) (line : Int) : Option Text :=
  if source.isEmpty || line ≤ 0 then none
  else
    (source.lines[line.toNat - 1]?).map fun content =>
      let label := Text.ofInt line
      text "  --> line " ++ label ++ text "\n " ++ Text.spaces label.length ++ text " |\n " ++
        label ++ text " | " ++ Text.trimEnd (· = Text.carriageReturn) content

end Scriptlet
