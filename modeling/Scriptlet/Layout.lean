import Scriptlet.Program.Reading
import Scriptlet.Token.Scan

/-!
# Layout

The canonical layout of a source: lines end in a line feed, no line ends in spaces or tabs, and the
last line is not empty. Layout is only applied to sources that scan and read without a fault.
-/

namespace Scriptlet.Layout

/-- Every way of ending a line becomes a line feed. -/
def unixLines : Text → Text
  | 13 :: 10 :: rest => Text.newline :: unixLines rest
  | 13 :: rest => Text.newline :: unixLines rest
  | byte :: rest => byte :: unixLines rest
  | [] => []

/-- Drops the spaces and tabs at the end of a line. -/
def trimLine (line : Text) : Text :=
  Text.trimEnd (fun byte => byte = 32 || byte = 9) line

/-- The canonical layout of a source. -/
def format (source : Text) : Text :=
  let trimmed := Text.joinWith [Text.newline] ((unixLines source).lines.map trimLine)
  let body := Text.trimEnd (· = Text.newline) trimmed
  if body.isEmpty then [] else body ++ [Text.newline]

/-- Why a source cannot be laid out: its last lexical fault, or else its first syntax fault. -/
def verify (source : Text) : Option Failure :=
  let scan := Scan.ofSource source
  match scan.faults.getLast? with
  | some fault => some (.fault fault)
  | none =>
      match Program.ofTokens defaultDepth scan.tokens with
      | .ok _ => none
      | .error fault => some (.fault fault)

end Scriptlet.Layout
