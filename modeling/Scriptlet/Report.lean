import Scriptlet.CodeFrame
import Scriptlet.Fault
import Scriptlet.Text.Cells

/-!
# Reports

How failures are shown to a person: each fault on a line of its own, followed by the line of the
source that holds it. A report may be coloured for a terminal.
-/

namespace Scriptlet

/-- Whether reports are coloured. -/
inductive Colour where
  | plain
  | always
  deriving DecidableEq, Repr

namespace Report

/-- Wraps a line in terminal attributes. -/
def attributed (colour : Colour) (attributes : String) (line : Text) : Text :=
  match colour with
  | .plain => line
  | .always => text "\x1b[" ++ text attributes ++ text "m" ++ line ++ text "\x1b[0m"

/-- A fault's wording: bold and red. -/
def faultBlock (colour : Colour) (wording : Text) : Text :=
  Cells.block (attributed colour "1;38;5;203") wording ++ [Text.newline]

/-- A code frame: grey. -/
def frameBlock (colour : Colour) (frame : Text) : Text :=
  Cells.block (attributed colour "38;5;60") frame ++ [Text.newline]

/-- One fault with the line that holds it. -/
def ofFault (colour : Colour) (source : Text) (fault : Fault) : Text :=
  faultBlock colour fault.text ++
    match codeFrame? source fault.line with
    | some frame => frameBlock colour frame
    | none => []

/-- The report of a failure. -/
def ofFailure (colour : Colour) (source : Text) (failure : Failure) : Text :=
  match failure.faults?.getD [] with
  | [] => faultBlock colour failure.text
  | faults => faults.flatMap (ofFault colour source)

end Report

end Scriptlet
