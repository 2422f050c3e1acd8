import Scriptlet.Expr.Eval
import Scriptlet.Program.Statement

/-!
# Running programs

Statements run in order and stop at the first failure. What they print goes to a sink, which may
accept only so many lines; what was printed before a failure stays printed.
-/

namespace Scriptlet

/-- Where printed lines go: the lines accepted so far, latest first, and how many more will be. -/
structure Sink where
  room : Option Nat := none
  reason : Text := text "disk full"
  written : List Text := []

namespace Sink

/-- Accepts a line while there is room. -/
def write (sink : Sink) (line : Text) : Except Failure Sink :=
  match sink.room with
  | none => .ok { sink with written := line :: sink.written }
  | some 0 => .error (.within (text "write output") (.plain sink.reason))
  | some (room + 1) => .ok { sink with room := some room, written := line :: sink.written }

/-- All that was printed. -/
def output (sink : Sink) : Text :=
  sink.written.reverse.flatMap fun line => line ++ [Text.newline]

end Sink

namespace Statement

/-- Runs one statement. -/
def run (statement : Statement) (sink : Sink) : Except Failure Sink :=
  match statement with
  | .absent => .error .absentStatement
  | .expression expr =>
      match expr.eval with
      | .ok _ => .ok sink
      | .error failure => .error failure
  | .print expr _ =>
      match expr.eval with
      | .ok value => sink.write value.text
      | .error failure => .error failure

end Statement

namespace Program

/-- Runs statements in order until one fails. -/
def run (sink : Sink) : List Statement → Sink × Option Failure
  | [] => (sink, none)
  | statement :: rest =>
      match statement.run sink with
      | .ok next => run next rest
      | .error failure => (sink, some failure)

end Program

/-- Evaluates an expression and prints its value. -/
def Expr.runPrinted (expr : Expr) (sink : Sink) : Sink × Except Failure Value :=
  match expr.eval with
  | .error failure => (sink, .error failure)
  | .ok value =>
      match sink.write value.text with
      | .ok next => (next, .ok value)
      | .error failure => (sink, .error failure)

end Scriptlet
