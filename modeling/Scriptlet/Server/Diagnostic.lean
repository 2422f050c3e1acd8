import Scriptlet.Engine
import Scriptlet.Json.Basic
import Scriptlet.Text.Words

/-!
# Diagnostics

What an editor is told about the faults of a source: each fault with the stretch of the line it
applies to, in UTF-16 code units. A fault at a token covers the first occurrence of its lexeme on
the line, and any other fault the whole line.
-/

namespace Scriptlet

/-- A fault and the stretch of a line it applies to. -/
structure Diagnostic where
  line : Nat
  first : Nat
  last : Nat
  fault : Fault

namespace Diagnostic

/-- The stretch of a line that a fault applies to. -/
def range (content : Text) (fault : Fault) : Nat × Nat :=
  let whole := (0, content.units)
  match fault.token with
  | none => whole
  | some token =>
      if token.lexeme.isEmpty then whole
      else match content.indexOf? token.lexeme with
        | some offset =>
            let first := Text.units (content.take offset)
            (first, first + token.lexeme.units)
        | none => whole

/-- The diagnostic of a fault, given the lines of its source. -/
def ofFault (lines : List Text) (fault : Fault) : Diagnostic :=
  let line := (fault.line - 1).toNat
  let content := Text.trimEnd (· = Text.carriageReturn) ((lines[line]?).getD [])
  let (first, last) := range content fault
  { line, first, last, fault }

/-- All diagnostics of a source. -/
def ofSource (engine : Engine) (source : Text) : List Diagnostic :=
  (engine.faults source).map (ofFault source.lines)

/-- A place in a source. -/
def place (line character : Nat) : Json :=
  .ofMembers [("character", .ofInt character), ("line", .ofInt line)]

/-- The form in which editors take a diagnostic. -/
def toJson (diagnostic : Diagnostic) : Json :=
  .ofMembers
    [("code", .ofText diagnostic.fault.stage.name),
      ("message", .ofText diagnostic.fault.message),
      ("range", .ofMembers [("end", place diagnostic.line diagnostic.last),
        ("start", place diagnostic.line diagnostic.first)]),
      ("severity", .ofInt 1),
      ("source", .ofText (text "lax"))]

end Diagnostic

end Scriptlet
