import Scriptlet.Program.Running

/-!
# What a run prints

Two things can end a run: an expression without a value, and a sink without room. They are told
apart here. `Program.printed` are the values that a program prints up to the first statement whose
expression fails, whatever becomes of them, and `Program.failure?` is that failure;
`Sink.writeAll` is what a sink makes of lines, whatever they stand for. A run writes the lines of
the first to the second (`Program.run_eq`), so its output is a prefix of these lines, cut where the
sink is full, and the failure of the sink wins over that of an expression behind the cut.
-/

namespace Scriptlet

namespace Statement

/-- The expression of a statement; a missing statement has none. -/
def expr? : Statement → Option Expr
  | .absent => none
  | .print expr _ => some expr
  | .expression expr => some expr

/-- Why a statement cannot be evaluated, if it cannot. -/
def failure? : Statement → Option Failure
  | .absent => some .absentStatement
  | .print expr _ | .expression expr =>
      match expr.eval with
      | .ok _ => none
      | .error failure => some failure

/-- The value that a statement prints. -/
def printed? : Statement → Option Value
  | .print expr _ => expr.eval.toOption
  | _ => none

theorem eval_of_fails {statement : Statement} {failure : Failure}
    (fails : statement.failure? = some failure) :
    (statement = .absent ∧ failure = .absentStatement) ∨
      ∃ expr, statement.expr? = some expr ∧ expr.eval = .error failure := by
  cases statement with
  | absent =>
      cases fails
      exact .inl ⟨rfl, rfl⟩
  | print expr line =>
      simp only [failure?] at fails
      cases evaluated : expr.eval <;> simp_all [expr?]
  | expression expr =>
      simp only [failure?] at fails
      cases evaluated : expr.eval <;> simp_all [expr?]

theorem run_of_fails {statement : Statement} {failure : Failure}
    (fails : statement.failure? = some failure) (sink : Sink) :
    statement.run sink = .error failure := by
  cases statement with
  | absent =>
      cases fails
      rfl
  | print expr line =>
      simp only [failure?] at fails
      cases evaluated : expr.eval <;> simp_all [run]
  | expression expr =>
      simp only [failure?] at fails
      cases evaluated : expr.eval <;> simp_all [run]

theorem run_of_evaluates {statement : Statement} (evaluates : statement.failure? = none)
    (sink : Sink) :
    statement.run sink =
      match statement.printed? with
      | some value => sink.write value.text
      | none => .ok sink := by
  cases statement with
  | absent => cases evaluates
  | print expr line =>
      simp only [failure?] at evaluates
      cases evaluated : expr.eval <;> simp_all [run, printed?, Except.toOption]
  | expression expr =>
      simp only [failure?] at evaluates
      cases evaluated : expr.eval <;> simp_all [run, printed?]

end Statement

namespace Sink

/-- Writes lines until there is no room for one. -/
def writeAll (sink : Sink) : List Text → Sink × Option Failure
  | [] => (sink, none)
  | line :: rest =>
      match sink.write line with
      | .ok next => next.writeAll rest
      | .error failure => (sink, some failure)

theorem faults?_of_write (sink : Sink) {line : Text} {failure : Failure}
    (failed : sink.write line = .error failure) : failure.faults? = none := by
  unfold write at failed
  split at failed <;> cases failed
  rfl

theorem faults?_of_writeAll {sink : Sink} {lines : List Text} {failure : Failure}
    (failed : (sink.writeAll lines).2 = some failure) : failure.faults? = none := by
  induction lines generalizing sink with
  | nil => cases failed
  | cons line rest ih =>
      rw [writeAll] at failed
      split at failed
      · exact ih failed
      · rename_i refused
        cases failed
        exact sink.faults?_of_write refused

theorem writeAll_endless {sink : Sink} (endless : sink.room = none) (lines : List Text) :
    sink.writeAll lines = ({ sink with written := lines.reverse ++ sink.written }, none) := by
  induction lines generalizing sink with
  | nil => rfl
  | cons line rest ih => simp [writeAll, write, endless, ih]

theorem writeAll_bounded (room : Nat) (reason : Text) (before lines : List Text) :
    writeAll { room := some room, reason, written := before } lines =
      ({ room := some (room - lines.length), reason,
          written := (lines.take (min room lines.length)).reverse ++ before },
        if room < lines.length then some (.within (text "write output") (.plain reason))
        else none) := by
  induction lines generalizing room before with
  | nil => simp [writeAll]
  | cons line rest ih =>
      cases room with
      | zero => simp [writeAll, write]
      | succ room => simp [writeAll, write, ih, Nat.succ_min_succ]

end Sink

theorem Expr.failure_of_runPrinted {expr : Expr} {sink : Sink} {failure : Failure}
    (failed : (expr.runPrinted sink).2 = .error failure) :
    failure.faults? = none ∨ expr.eval = .error failure := by
  rw [runPrinted] at failed
  split at failed
  · rename_i unevaluated
    cases failed
    exact .inr unevaluated
  · split at failed
    · cases failed
    · rename_i unwritten
      cases failed
      exact .inl (sink.faults?_of_write unwritten)

namespace Program

/-- The values of the print statements before the first statement that cannot be evaluated. -/
def printed (statements : List Statement) : List Value :=
  (statements.takeWhile fun statement => statement.failure?.isNone).filterMap Statement.printed?

/-- Why the first statement that cannot be evaluated cannot be. -/
def failure? (statements : List Statement) : Option Failure :=
  statements.findSome? Statement.failure?

/-- A run writes the values that are printed. If the sink takes them all, the first statement that
cannot be evaluated ends the run. -/
theorem run_eq (sink : Sink) (statements : List Statement) :
    run sink statements =
      ((sink.writeAll ((printed statements).map Value.text)).1,
        (sink.writeAll ((printed statements).map Value.text)).2.or (failure? statements)) := by
  induction statements generalizing sink with
  | nil => rfl
  | cons statement rest ih =>
      cases evaluation : statement.failure? with
      | some failure =>
          simp [run, statement.run_of_fails evaluation, printed, failure?, evaluation,
            Sink.writeAll]
      | none =>
          rw [run, statement.run_of_evaluates evaluation]
          simp only [printed, failure?] at ih
          cases shown : statement.printed? with
          | none => simp [printed, failure?, evaluation, shown, ih]
          | some value =>
              cases written : sink.write value.text with
              | ok next =>
                  simp [printed, failure?, evaluation, shown, written, Sink.writeAll, ih]
              | error failure => simp [printed, evaluation, shown, written, Sink.writeAll]

/-- What ends a run is an expression without a value, or it carries no fault. -/
theorem failure_of_run {sink : Sink} {statements : List Statement} {failure : Failure}
    (failed : (run sink statements).2 = some failure) :
    failure.faults? = none ∨ ∃ statement ∈ statements, ∃ expr,
      statement.expr? = some expr ∧ expr.eval = .error failure := by
  rw [run_eq, Option.or_eq_some_iff] at failed
  rcases failed with unwritten | ⟨-, unevaluated⟩
  · exact .inl (Sink.faults?_of_writeAll unwritten)
  · rcases List.exists_of_findSome?_eq_some unevaluated with ⟨statement, member, fails⟩
    rcases Statement.eval_of_fails fails with ⟨-, rfl⟩ | unevaluated
    · exact .inl rfl
    · exact .inr ⟨statement, member, unevaluated⟩

theorem run_endless (statements : List Statement) (before : List Text) :
    run { written := before } statements =
      ({ written := ((printed statements).map Value.text).reverse ++ before },
        failure? statements) := by
  rw [run_eq, Sink.writeAll_endless rfl, Option.none_or]

theorem run_append (sink : Sink) (front back : List Statement) :
    run sink (front ++ back) =
      match run sink front with
      | (printed, some failure) => (printed, some failure)
      | (printed, none) => run printed back := by
  induction front generalizing sink with
  | nil => rfl
  | cons statement rest ih =>
      simp only [List.cons_append, run]
      cases statement.run sink with
      | ok next => exact ih next
      | error failure => rfl

/-- Output is an exact prefix. On a sink with room for so many lines, a run writes the texts of the
values that are printed, each on a line of its own and in order, as far as there is room for them.
If they do not all fit, writing fails; otherwise the run fails as the first statement that cannot
be evaluated does. Nothing behind a failure matters. -/
theorem run_prints_prefix (room : Nat) (reason : Text) (before : List Text)
    (statements : List Statement) :
    let sink : Sink := { room := some room, reason, written := before }
    let lines := (printed statements).map Value.text
    let accepted := lines.take (min room lines.length)
    (run sink statements).1.written = accepted.reverse ++ before ∧
    (run sink statements).1.output =
      sink.output ++ accepted.flatMap (fun line => line ++ [Text.newline]) ∧
    (run sink statements).2 =
      (if room < lines.length then some (.within (text "write output") (.plain reason))
        else failure? statements) ∧
    ∀ front back, (run sink front).2 ≠ none → run sink (front ++ back) = run sink front := by
  intro sink lines accepted
  have ran := run_eq sink statements
  rw [Sink.writeAll_bounded] at ran
  refine ⟨by rw [ran], ?_, ?_, ?_⟩
  · rw [ran]
    simp [Sink.output, sink, accepted, lines]
  · rw [ran]
    by_cases full : room < lines.length
    · rw [if_pos full, if_pos full, Option.some_or]
    · rw [if_neg full, if_neg full, Option.none_or]
  · intro front back fails
    rw [run_append]
    rcases stopped : run sink front with ⟨next, _ | failure⟩
    · simp [stopped] at fails
    · rfl

/-- A program whose fourth statement cannot be evaluated. -/
def interrupted : List Statement :=
  [.print (.literal (some (.bool true)) 1) 1, .expression (.literal none 2),
    .print (.literal (some .nil) 3) 3, .expression .absent, .print (.literal none 5) 5]

/-- With room for one line, writing fails at the second; with more room, evaluation fails. -/
theorem run_prints_prefix_interrupted :
    (run { room := some 1 } (interrupted.take 3)).2 ≠ none ∧
      run { room := some 1 } (interrupted.take 3 ++ interrupted.drop 3) =
        run { room := some 1 } (interrupted.take 3) ∧
      (run { room := some 1 } interrupted).1.written = [text "true"] ∧
      (run { room := some 1 } interrupted).2 =
        some (.within (text "write output") (.plain (text "disk full"))) ∧
      (run { room := some 2 } interrupted).1.written = [text "nil", text "true"] ∧
      (run { room := some 2 } interrupted).2 = some .absentExpression := by
  rcases run_prints_prefix 1 (text "disk full") [] interrupted with ⟨written, -, failed, stops⟩
  rcases run_prints_prefix 2 (text "disk full") [] interrupted with
    ⟨writtenMore, -, failedLater, -⟩
  have lines : (printed interrupted).map Value.text = [text "true", text "nil"] := by
    decide +kernel
  have unevaluated : failure? interrupted = some .absentExpression := by decide +kernel
  have full : (run { room := some 1 } (interrupted.take 3)).2 ≠ none := by decide +kernel
  rw [lines] at written failed writtenMore failedLater
  rw [unevaluated] at failedLater
  exact ⟨full, stops _ _ full, written, failed, writtenMore, failedLater⟩

end Program

end Scriptlet
