import Scriptlet.Report
import Scriptlet.Trace

/-!
# Line sessions

A session over plain input: each line runs as a program of its own after a prompt, faults are
reported as they come, and the session ends at the first empty line or at the end of the input.
-/

namespace Scriptlet

/-- How a line session talks. -/
structure LineSession where
  engine : Engine
  prompt : Text
  colour : Colour := .plain
  logs : Bool := false

/-- What one line of a session causes: printed text, and notes about it. Behind the last line no
more is read. -/
structure Exchange where
  printed : Text
  notes : Text := []
  isLast : Bool := false

namespace LineSession

/-- A line without the carriage returns and line feeds at its end. -/
def stripped (read : Text) : Text :=
  Text.trimEnd (fun byte => byte = Text.carriageReturn || byte = Text.newline) read

/-- Answers a line, given as it was read. An empty line is the last one; any other runs, and is the
last one if it lacks the line feed. -/
def answer (session : LineSession) (read : Text) : Exchange :=
  let line := stripped read
  if line.isEmpty then { printed := session.prompt ++ [Text.newline], isLast := true }
  else
    let (sink, failure) := session.engine.run line {}
    { printed := session.prompt ++ sink.output
      notes :=
        (if session.logs then (session.engine.runTrace line).flatMap Record.render else []) ++
          (failure.map (Report.ofFailure session.colour line)).getD []
      isLast := read.getLast? ≠ some Text.newline }

theorem isLast_answer (session : LineSession) (read : Text) :
    (session.answer read).isLast =
      ((stripped read).isEmpty || read.getLast? ≠ some Text.newline) := by
  unfold answer
  dsimp only
  split
  · rename_i empty
    rw [empty, Bool.true_or]
  · rename_i filled
    rw [Bool.eq_false_iff.mpr filled, Bool.false_or]

/-- If more is read behind a line, the line had a line feed. -/
theorem length_nextLine_lt {session : LineSession} {input : Text}
    (goesOn : ¬(session.answer input.nextLine.1).isLast) :
    input.nextLine.2.length < input.length := by
  cases found : input.cut? (· = Text.newline) with
  | some parts =>
      have shorter := Text.length_lt_of_cut? found
      simpa only [Text.nextLine, found] using shorter
  | none =>
      have fresh := Text.not_mem_of_cut?_eq_none found
      have unended : input.getLast? ≠ some Text.newline :=
        fun ends => fresh (List.mem_of_getLast? ends)
      have whole : input.nextLine.1 = input := by simp only [Text.nextLine, found]
      rw [whole, isLast_answer] at goesOn
      simp [unended] at goesOn

/-- Reads and answers lines up to the last one. -/
def exchanges (session : LineSession) (input : Text) : List Exchange :=
  let exchange := session.answer input.nextLine.1
  exchange :: if exchange.isLast then [] else session.exchanges input.nextLine.2
termination_by input.length
decreasing_by exact length_nextLine_lt ‹_›

/-- A whole session: what it prints, and its notes. -/
def run (session : LineSession) (input : Text) : Text × Text :=
  let exchanges := session.exchanges input
  (exchanges.flatMap Exchange.printed, exchanges.flatMap Exchange.notes)

end LineSession

end Scriptlet
