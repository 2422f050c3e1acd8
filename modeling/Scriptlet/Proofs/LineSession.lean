import Mathlib.Data.List.DropRight
import Scriptlet.LineSession
import Scriptlet.Proofs.Frames
import Scriptlet.Proofs.Text.Lines

/-!
# Line sessions answer line by line

A line session reads its input line by line, and what it reads are the lines of the input. Each line
up to the first empty one is answered as if it were the only one; the empty line is answered by a
line feed, and nothing behind it matters. An input without an empty line ends with a line that lacks
its line feed, and the session ends there, too.
-/

namespace Scriptlet

namespace Text

/-- Reading gives the first line of an input, and leaves the others. -/
theorem nextLine_cases (input : Text) :
    (newline ∉ input ∧ input.nextLine = (input, []) ∧ input.lines = [input]) ∨
      ∃ line rest, input.nextLine = (line ++ [newline], rest) ∧
        input.lines = line :: rest.lines := by
  by_cases member : newline ∈ input
  · right
    rcases List.eq_append_cons_of_mem member with ⟨line, rest, rfl, fresh⟩
    refine ⟨line, rest, ?_, ?_⟩
    · rw [nextLine, cut?_append fresh]
    · rw [lines_append_newline, lines_of_not_mem fresh, List.singleton_append]
  · left
    refine ⟨member, ?_, lines_of_not_mem member⟩
    rw [nextLine, cut?_of_not_mem member]

end Text

/-- What comes of an exchange: what is printed, and the notes. -/
def Exchange.outcome (exchange : Exchange) : Text × Text :=
  (exchange.printed, exchange.notes)

namespace LineSession

/-- The lines of an input, without carriage returns and line feeds at their ends. -/
def pieces (input : Text) : List Text :=
  input.lines.map stripped

/-- The lines before the first empty one. -/
def filled (input : Text) : List Text :=
  (pieces input).takeWhile (· ≠ [])

theorem pieces_append_newline (front back : Text) :
    pieces (front ++ Text.newline :: back) = pieces front ++ pieces back := by
  rw [pieces, Text.lines_append_newline, List.map_append, pieces, pieces]

/-- What follows an empty line does not count. -/
theorem filled_append_newline {front : Text} (ended : [] ∈ pieces front) (back : Text) :
    filled (front ++ Text.newline :: back) = filled front := by
  rw [filled, pieces_append_newline, filled, List.takeWhile_append, if_neg]
  intro whole
  have same := (List.takeWhile_prefix (fun piece => decide (piece ≠ []))).eq_of_length whole
  have passes := List.takeWhile_eq_self_iff.mp same [] ended
  simp at passes

theorem stripped_append_newline (line : Text) :
    stripped (line ++ [Text.newline]) = stripped line :=
  List.rdropWhile_concat_pos _ _ _ (by decide)

variable (session : LineSession)

/-- What comes of a line that runs on an engine that ran nothing else. -/
def told (line : Text) : Text × Text :=
  let ran := session.engine.run line {}
  (session.prompt ++ ran.1.output,
    (if session.logs then (session.engine.runTrace line).flatMap Record.render else []) ++
      (ran.2.map (Report.ofFailure session.colour line)).getD [])

/-- What comes of an empty line. -/
def farewell : Text × Text :=
  (session.prompt ++ [Text.newline], [])

theorem outcome_answer (read : Text) :
    (session.answer read).outcome =
      if stripped read = [] then session.farewell else session.told (stripped read) := by
  unfold answer
  dsimp only
  by_cases empty : stripped read = []
  · rw [if_pos empty, if_pos (List.isEmpty_iff.mpr empty)]
    rfl
  · rw [if_neg empty, if_neg (by rwa [List.isEmpty_iff])]
    rfl

/-- A session answers the lines before the first empty one, each by itself, and bids farewell at the
empty one. -/
theorem outcomes_exchanges (input : Text) :
    (session.exchanges input).map Exchange.outcome =
      (filled input).map session.told ++ if [] ∈ pieces input then [session.farewell] else [] := by
  induction input using exchanges.induct session with
  | case1 input exchange ih =>
      have parts : (session.exchanges input).map Exchange.outcome =
          exchange.outcome :: if exchange.isLast then []
            else (session.exchanges input.nextLine.2).map Exchange.outcome := by
        rw [exchanges]
        split <;> rfl
      have answered : exchange.outcome = _ := session.outcome_answer input.nextLine.1
      have ends : exchange.isLast = _ := session.isLast_answer input.nextLine.1
      rw [parts]
      clear_value exchange
      clear parts
      rcases input.nextLine_cases with ⟨fresh, read, lines⟩ | ⟨line, rest, read, lines⟩
      · have unended : input.getLast? ≠ some Text.newline :=
          fun last => fresh (List.mem_of_getLast? last)
        rw [read] at answered ends
        have isLast : exchange.isLast = true := by simp [ends, unended]
        rw [isLast, if_pos rfl, answered, filled, pieces, lines, List.map_singleton]
        by_cases empty : stripped input = []
        · simp [empty]
        · simp [empty, Ne.symm empty]
      · rw [read] at answered ends ih
        rw [stripped_append_newline] at answered ends
        rw [answered, filled, pieces, lines, List.map_cons]
        by_cases empty : stripped line = []
        · have isLast : exchange.isLast = true := by simp [ends, empty]
          simp [empty, isLast]
        · have goesOn : ¬exchange.isLast := by simp [ends, empty]
          have later := ih goesOn
          rw [filled, pieces] at later
          simp [empty, Ne.symm empty, goesOn, read, later]

theorem run_eq (input : Text) :
    session.run input =
      ((filled input).flatMap (fun line => (session.told line).1) ++
          if [] ∈ pieces input then session.farewell.1 else [],
        (filled input).flatMap fun line => (session.told line).2) := by
  have outcomes := session.outcomes_exchanges input
  have printed := congrArg (List.flatMap Prod.fst) outcomes
  have notes := congrArg (List.flatMap Prod.snd) outcomes
  rw [List.flatMap_map, List.flatMap_append, List.flatMap_map] at printed notes
  have parts : session.run input = ((session.exchanges input).flatMap Exchange.printed,
      (session.exchanges input).flatMap Exchange.notes) := rfl
  rw [parts, Prod.mk.injEq]
  refine ⟨printed.trans ?_, notes.trans ?_⟩
  · split <;> simp
  · split <;> simp [farewell]

/-- A line session answers each line before the first empty one by itself. After the prompt it
prints what the line prints on an engine that ran nothing else, and reports why the line fails if it
does: each fault is worded, and the frame of the line follows. At the empty line it prints the
prompt and a line feed; nothing behind that line counts, and no line is read that comes behind it. A
session without an empty line ends with its last line. -/
theorem run_answers_lines (input : Text) :
    let pieces := input.lines.map stripped
    let before := pieces.takeWhile (· ≠ [])
    let ran (line : Text) := session.engine.run line {}
    (session.run input).1 =
      before.flatMap (fun line => session.prompt ++ (ran line).1.output) ++
        (if [] ∈ pieces then session.prompt ++ [Text.newline] else []) ∧
    (session.run input).2 =
      before.flatMap (fun line =>
        (if session.logs then (session.engine.runTrace line).flatMap Record.render else []) ++
          ((ran line).2.map (Report.ofFailure session.colour line)).getD []) ∧
    (∀ line failure, (ran line).2 = some failure →
      (failure.found ≠ [] → Report.Shows session.colour line failure.found
        (Report.ofFailure session.colour line failure)) ∧
      (failure.found = [] → Report.ofFailure session.colour line failure =
        Report.faultBlock session.colour failure.text)) ∧
    (session.exchanges input).length = before.length + (if [] ∈ pieces then 1 else 0) ∧
    ([] ∈ pieces → ∀ more, session.run (input ++ Text.newline :: more) = session.run input) := by
  intro pieces before ran
  have results := session.run_eq input
  refine ⟨congrArg Prod.fst results, congrArg Prod.snd results, ?_, ?_, ?_⟩
  · intro line failure failed
    exact ⟨Report.shows_ofFailure session.colour (.running {} failed),
      Report.ofFailure_of_found_eq_nil session.colour line⟩
  · have lengths := congrArg List.length (session.outcomes_exchanges input)
    rw [List.length_map, List.length_append, List.length_map] at lengths
    rw [lengths]
    change _ = _ + if [] ∈ LineSession.pieces input then 1 else 0
    split <;> rfl
  · intro ended more
    have stillEnded : [] ∈ LineSession.pieces (input ++ Text.newline :: more) := by
      rw [pieces_append_newline]
      exact List.mem_append_left _ ended
    have endedThere : [] ∈ LineSession.pieces input := ended
    rw [run_eq, run_eq, filled_append_newline ended, if_pos stillEnded, if_pos endedThere]

/-- The fault of a sum without a right operand. -/
def missingSummand : Fault :=
  .atToken { kind := .semicolon, lexeme := text ";", line := 1 } .expectedExpression

theorem run_answers_lines_stopping :
    let session : LineSession := { engine := {}, prompt := text "> " }
    let input := text "print 1 + 2;\nprint 1 +;\r\n\r"
    let results := session.run (input ++ Text.newline :: text "print 4;")
    ([] ∈ input.lines.map stripped ∧ results = session.run input) ∧
      results.1 = text "> 3\n> > \n" ∧
      results.2 = text ("[line 1] Error at ';': expected expression\n" ++
        "  --> line 1   \n   |           \n 1 | print 1 +;\n") ∧
      (session.engine.run (text "print 1 +;") {}).2 = some (.fault missingSummand) ∧
      Report.Shows .plain (text "print 1 +;") [missingSummand] results.2 := by
  intro session input results
  have ended : [] ∈ input.lines.map stripped := by decide +kernel
  rcases session.run_answers_lines input with ⟨printed, notes, shown, -, ignores⟩
  have same : results = session.run input := ignores ended (text "print 4;")
  have fails : (session.engine.run (text "print 1 +;") {}).2 = some (.fault missingSummand) := by
    decide +kernel
  have report : (session.run input).2 = Report.ofFailure .plain (text "print 1 +;")
      (.fault missingSummand) := by
    have before : (input.lines.map stripped).takeWhile (· ≠ []) =
        [text "print 1 + 2;", text "print 1 +;"] := by decide +kernel
    have succeeds : (session.engine.run (text "print 1 + 2;") {}).2 = none := by decide +kernel
    rw [notes, before, List.flatMap_cons, List.flatMap_singleton, fails, succeeds]
    rfl
  have shows := (shown (text "print 1 +;") _ fails).1 (List.cons_ne_nil _ _)
  rw [same]
  refine ⟨⟨ended, rfl⟩, ?_, ?_, fails, ?_⟩
  · rw [printed]
    decide +kernel
  · rw [report]
    decide +kernel
  · rw [report]
    exact shows

end LineSession

end Scriptlet
