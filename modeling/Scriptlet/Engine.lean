import Scriptlet.Program.Reading
import Scriptlet.Program.Running
import Scriptlet.Token.Scan

/-!
# The engine

An engine takes sources through scanning, reading and running. It keeps nothing between sources, so
one engine can serve any number of them. Nothing of a source runs unless all of it scans and reads
without a fault.
-/

namespace Scriptlet

/-- How sources are read. -/
structure Engine where
  depth : Nat := defaultDepth
  recovers : Bool := false

namespace Engine

/-- The engine with given settings; depth zero means the default, a negative one is refused. -/
def create (depth : Int) (recovers : Bool) : Except Failure Engine :=
  if depth < 0 then .error (.invalidDepth depth)
  else .ok { depth := depthLimit depth, recovers }

/-- The tokens of a source without lexical faults. -/
def tokens (source : Text) : Except Failure (List Token) :=
  let scan := Scan.ofSource source
  match Failure.ofFaults? scan.faults with
  | some failure => .error failure
  | none => .ok scan.tokens

/-- Reads tokens as a program; a recovering engine reports all faults, any other the first. -/
def statements (engine : Engine) (tokens : List Token) : Except Failure (List Statement) :=
  if engine.recovers then
    let (statements, faults) := Program.recover engine.depth tokens
    match Failure.ofFaults? faults with
    | some failure => .error failure
    | none => .ok statements
  else
    match Program.ofTokens engine.depth tokens with
    | .ok statements => .ok statements
    | .error fault => .error (.fault fault)

/-- Reads a source as a program. -/
def program (engine : Engine) (source : Text) : Except Failure (List Statement) :=
  match tokens source with
  | .ok tokens => engine.statements tokens
  | .error failure => .error failure

/-- Runs a source. -/
def run (engine : Engine) (source : Text) (sink : Sink) : Sink × Option Failure :=
  match engine.program source with
  | .ok statements => Program.run sink statements
  | .error failure => (sink, some failure)

/-- All lexical and syntax faults of a source. A line with a lexical fault reports only that: the
syntax faults that the missing piece causes on the same line are left out. -/
def faults (engine : Engine) (source : Text) : List Fault :=
  let scan := Scan.ofSource source
  let lines := scan.faults.map Fault.line
  let (_, found) := Program.recover engine.depth scan.tokens
  scan.faults ++ found.filter fun fault => !lines.contains fault.line

/-- Why a source would not run, as far as that shows without running it. -/
def check (engine : Engine) (source : Text) : Option Failure :=
  Failure.ofFaults? (engine.faults source)

/-- Reads a source as one expression. -/
def expression (engine : Engine) (source : Text) : Except Failure Expr :=
  match tokens source with
  | .error failure => .error failure
  | .ok tokens =>
      match Expr.ofTokens engine.depth tokens with
      | .ok expr => .ok expr
      | .error fault => .error (.fault fault)

/-- Evaluates a source as one expression and prints its value. -/
def evaluate (engine : Engine) (source : Text) (sink : Sink) : Sink × Except Failure Value :=
  match engine.expression source with
  | .ok expr => expr.runPrinted sink
  | .error failure => (sink, .error failure)

/-- The prefix form of a source that is one expression. -/
def form (engine : Engine) (source : Text) : Except Failure Text :=
  match engine.expression source with
  | .ok expr => .ok expr.form
  | .error failure => .error failure

/-- The settings in words. -/
def summary (engine : Engine) : Text :=
  text "max_depth=" ++ Text.ofNat engine.depth ++ text " recover_parse_errors=" ++
    text (if engine.recovers then "true" else "false")

end Engine

end Scriptlet
