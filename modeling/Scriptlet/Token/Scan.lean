import Scriptlet.Fault
import Scriptlet.Token.Segment
import Scriptlet.Total

/-!
# Scanning

The tokens of a source and the lexical faults in it. Every token and fault lies on the line its
segment ends on, which is one more than the number of line feeds up to there. A fault never stops
the scan, and one token without text marks the end.
-/

namespace Scriptlet

/-- The tokens of a source, the last of which marks the end, and its lexical faults. -/
structure Scan where
  tokens : List Token
  faults : List Fault
  deriving DecidableEq

namespace Segment

/-- Pairs each segment with the line it ends on, given the line the first one starts on. -/
def numbered (line : Nat) : List Segment → List (Nat × Segment)
  | [] => []
  | segment :: rest =>
      (line + segment.newlines, segment) :: numbered (line + segment.newlines) rest

/-- The fault that a segment is, given the line it ends on. -/
def fault? (line : Nat) (segment : Segment) : Option Fault :=
  match segment.role with
  | .unexpected =>
      some ⟨.unexpectedCharacter ((segment.glyphs.map Glyph.scalar).headD '\uFFFD'), line, none⟩
  | .openString => some ⟨.unterminatedString, line, none⟩
  | .openComment => some ⟨.unterminatedComment, line, none⟩
  | _ => none

end Segment

namespace Scan

/-- The mark of the end of a source. -/
def ending (line : Nat) : Token :=
  { kind := .eof, line }

/-- The scan of a source that is cut into segments. -/
def ofSegments (segments : List Segment) : Scan :=
  let numbered := Segment.numbered 1 segments
  let last := 1 + total Segment.newlines segments
  { tokens := numbered.filterMap (fun (line, segment) => segment.token? line) ++ [ending last]
    faults := numbered.filterMap fun (line, segment) => segment.fault? line }

/-- Scans a source. -/
def ofSource (source : Text) : Scan :=
  ofSegments (Segment.split source.glyphs)

end Scan

end Scriptlet
