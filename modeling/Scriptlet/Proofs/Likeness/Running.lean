import Scriptlet.Proofs.Evaluation
import Scriptlet.Proofs.Likeness.Reading
import Scriptlet.Proofs.Output
import Scriptlet.Proofs.Recovery

/-!
# Sources with corresponding tokens run alike

Corresponding tokens are read as corresponding programs, by any engine. If corresponding literals
are equal and corresponding operators have the same text, the programs also print the same and
fail alike.
-/

namespace Scriptlet

variable {likeness : Likeness}

namespace Program

theorem statements_alike {found others : List Event}
    (correspond : List.Forall₂ (Event.Alike likeness) found others) :
    List.Forall₂ (Statement.Alike likeness) (statements found) (statements others) := by
  induction correspond with
  | nil => exact .nil
  | cons head tail ih =>
      cases head with
      | read statements => exact .cons statements ih
      | fault faults => exact ih

theorem faults_alike {found others : List Event}
    (correspond : List.Forall₂ (Event.Alike likeness) found others) :
    List.Forall₂ (Fault.Alike likeness) (faults found) (faults others) := by
  induction correspond with
  | nil => exact .nil
  | cons head tail ih =>
      cases head with
      | read statements => exact ih
      | fault faults => exact .cons faults ih

end Program

theorem Input.ofTokens_cons_of_eof {token : Token} (rest : List Token) (isEnd : token.kind = .eof) :
    ofTokens (token :: rest) = ⟨[], token⟩ := by
  simp [ofTokens, isEnd]

theorem Input.ofTokens_cons {token : Token} {rest : List Token} (noEnd : token.kind ≠ .eof)
    (ends : .eof ∈ rest.map Token.kind) :
    ofTokens (token :: rest) = ⟨token :: (ofTokens rest).body, (ofTokens rest).ending⟩ := by
  have found : (rest.find? fun later => later.kind = .eof).isSome := by
    simpa [List.find?_isSome] using ends
  rcases Option.isSome_iff_exists.mp found with ⟨ending, isEnding⟩
  simp [ofTokens, noEnd, isEnding]

theorem Input.ofTokens_alike {tokens others : List Token}
    (correspond : List.Forall₂ likeness.token tokens others)
    (ends : .eof ∈ tokens.map Token.kind) :
    List.Forall₂ likeness.token (ofTokens tokens).body (ofTokens others).body ∧
      likeness.token (ofTokens tokens).ending (ofTokens others).ending := by
  induction correspond with
  | nil => simp at ends
  | cons head tail ih =>
      rename_i token other rest otherRest
      have kinds := likeness.kind_eq head
      by_cases isEnd : token.kind = .eof
      · rw [ofTokens_cons_of_eof rest isEnd, ofTokens_cons_of_eof otherRest (kinds ▸ isEnd)]
        exact ⟨.nil, head⟩
      · have endsLater : .eof ∈ rest.map Token.kind := by
          rcases List.mem_cons.mp ends with here | later
          · exact absurd here.symm isEnd
          · exact later
        rw [ofTokens_cons isEnd endsLater,
          ofTokens_cons (kinds ▸ isEnd) (likeness.kinds_eq tail ▸ endsLater)]
        rcases ih endsLater with ⟨bodies, endings⟩
        exact ⟨.cons head bodies, endings⟩

theorem Program.recover_alike (limit : Nat) {tokens others : List Token}
    (correspond : List.Forall₂ likeness.token tokens others)
    (ends : .eof ∈ tokens.map Token.kind) :
    List.Forall₂ (Statement.Alike likeness) (recover limit tokens).1 (recover limit others).1 ∧
      List.Forall₂ (Fault.Alike likeness) (recover limit tokens).2 (recover limit others).2 := by
  rcases Input.ofTokens_alike correspond ends with ⟨bodies, endings⟩
  have events := events_alike limit endings .ready bodies
  exact ⟨statements_alike events, faults_alike events⟩

theorem Program.ofTokens_alike (limit : Nat) {tokens others : List Token}
    (correspond : List.Forall₂ likeness.token tokens others)
    (ends : .eof ∈ tokens.map Token.kind) :
    Concur (Fault.Alike likeness) (List.Forall₂ (Statement.Alike likeness))
      (ofTokens limit tokens) (ofTokens limit others) := by
  rcases recover_alike limit correspond ends with ⟨statements, faults⟩
  rw [ofTokens_eq_recover, ofTokens_eq_recover]
  generalize recover limit tokens = recovered, recover limit others = otherRecovered
    at statements faults
  rcases recovered with ⟨read, found⟩
  rcases otherRecovered with ⟨otherRead, otherFound⟩
  cases faults with
  | nil => exact .ok statements
  | cons head tail => exact .error head

theorem Engine.statements_alike (engine : Engine) {tokens others : List Token}
    (correspond : List.Forall₂ likeness.token tokens others)
    (ends : .eof ∈ tokens.map Token.kind) :
    Concur (Failure.Alike likeness) (List.Forall₂ (Statement.Alike likeness))
      (engine.statements tokens) (engine.statements others) := by
  unfold statements
  split
  · rcases Program.recover_alike engine.depth correspond ends with ⟨read, found⟩
    have failures := Failure.ofFaults?_alike found
    dsimp only
    generalize Failure.ofFaults? (Program.recover engine.depth tokens).2 = failed,
      Failure.ofFaults? (Program.recover engine.depth others).2 = otherFailed at failures
    cases failures with
    | none => exact .ok read
    | some failed => exact .error failed
  · have readings := Program.ofTokens_alike engine.depth correspond ends
    generalize Program.ofTokens engine.depth tokens = reading,
      Program.ofTokens engine.depth others = otherReading at readings
    cases readings with
    | ok read => exact .ok read
    | error fault => exact .error (.fault fault)

/-- A likeness under which corresponding programs do the same. -/
structure Likeness.Faithful (likeness : Likeness) : Prop where
  value_eq : ∀ {one other : Value}, likeness.value one other → one = other
  lexeme_eq : ∀ {one other : Token}, likeness.token one other → one.lexeme = other.lexeme

theorem Likeness.faithful_upToLines : Likeness.upToLines.Faithful where
  value_eq same := same
  lexeme_eq same := same.2.1

section Faithful

variable (faithful : likeness.Faithful)

namespace Token

theorem refuse_alike {operator other : Token} (operators : likeness.token operator other)
    (cause : Cause) :
    Concur (Failure.Alike likeness) Eq (operator.refuse cause) (other.refuse cause) :=
  .error (.fault (.atToken operators cause))

include faithful in
theorem refuseOperands_alike {operator other : Token}
    (operators : likeness.token operator other) (left right : Value) :
    Concur (Failure.Alike likeness) Eq (operator.refuseOperands left right)
      (other.refuseOperands left right) := by
  unfold refuseOperands
  rw [faithful.lexeme_eq operators]
  exact refuse_alike operators _

include faithful in
theorem applyUnary_alike {operator other : Token} (operators : likeness.token operator other)
    (operand : Value) :
    Concur (Failure.Alike likeness) Eq (operator.applyUnary operand)
      (other.applyUnary operand) := by
  unfold applyUnary
  rw [← likeness.kind_eq operators, ← faithful.lexeme_eq operators]
  split
  · split
    · exact .ok rfl
    · exact .ok rfl
  · exact .ok rfl
  · exact .ok rfl
  · split
    · split
      · exact .ok rfl
      · exact refuse_alike operators _
    · exact refuse_alike operators _
  · exact refuse_alike operators _

include faithful in
theorem applyNumeric_alike {operator other : Token} (operators : likeness.token operator other)
    (combine : Number → Number → Value) (left right : Value) :
    Concur (Failure.Alike likeness) Eq (operator.applyNumeric combine left right)
      (other.applyNumeric combine left right) := by
  simp only [applyNumeric]
  split
  · exact .ok rfl
  · exact refuseOperands_alike faithful operators left right

include faithful in
theorem applyEquality_alike {operator other : Token} (operators : likeness.token operator other)
    (adjust : Bool → Bool) (left right : Value) :
    Concur (Failure.Alike likeness) Eq (operator.applyEquality adjust left right)
      (other.applyEquality adjust left right) := by
  simp only [applyEquality]
  split
  · exact .ok rfl
  · exact refuseOperands_alike faithful operators left right

include faithful in
theorem applyContainment_alike {operator other : Token}
    (operators : likeness.token operator other) (adjust : Bool → Bool) (left right : Value) :
    Concur (Failure.Alike likeness) Eq (operator.applyContainment adjust left right)
      (other.applyContainment adjust left right) := by
  simp only [applyContainment]
  split
  · exact .ok rfl
  · exact refuseOperands_alike faithful operators left right

include faithful in
theorem applyBinary_alike {operator other : Token} (operators : likeness.token operator other)
    (left right : Value) :
    Concur (Failure.Alike likeness) Eq (operator.applyBinary left right)
      (other.applyBinary left right) := by
  simp only [applyBinary]
  rw [← likeness.kind_eq operators, ← faithful.lexeme_eq operators]
  split
  · split
    · exact .ok rfl
    · exact applyNumeric_alike faithful operators _ left right
  · exact applyNumeric_alike faithful operators _ left right
  · exact applyNumeric_alike faithful operators _ left right
  · exact applyNumeric_alike faithful operators _ left right
  · exact applyNumeric_alike faithful operators _ left right
  · exact applyNumeric_alike faithful operators _ left right
  · exact applyNumeric_alike faithful operators _ left right
  · exact applyNumeric_alike faithful operators _ left right
  · exact applyEquality_alike faithful operators _ left right
  · exact applyEquality_alike faithful operators _ left right
  · exact applyContainment_alike faithful operators _ left right
  · exact applyContainment_alike faithful operators _ left right
  · exact refuse_alike operators _

end Token

include faithful in
theorem Expr.meaning_alike {expr other : Expr} (exprs : expr.Alike likeness other) :
    Concur (Failure.Alike likeness) Eq expr.meaning other.meaning := by
  induction exprs with
  | absent => exact .error (.outside rfl)
  | literal values lines =>
      cases values with
      | none => exact .ok rfl
      | some same => exact .ok (faithful.value_eq same)
  | group inside ih => exact ih
  | unary operators operands ih =>
      rename_i operator otherOperator operand otherOperand
      simp only [meaning]
      generalize operand.meaning = result, otherOperand.meaning = otherResult at ih
      cases ih with
      | ok same =>
          subst same
          exact Token.applyUnary_alike faithful operators _
      | error failures => exact .error failures
  | binary lefts operators rights leftIh rightIh =>
      rename_i operator otherOperator left otherLeft right otherRight
      simp only [meaning]
      generalize left.meaning = leftResult, otherLeft.meaning = otherLeftResult at leftIh
      generalize right.meaning = rightResult, otherRight.meaning = otherRightResult at rightIh
      cases leftIh with
      | error failures => exact .error failures
      | ok sameLeft =>
          cases rightIh with
          | error failures => exact .error failures
          | ok sameRight =>
              subst sameLeft sameRight
              exact Token.applyBinary_alike faithful operators _ _

include faithful in
theorem Statement.run_alike {statement other : Statement}
    (statements : statement.Alike likeness other) (sink : Sink) :
    Concur (Failure.Alike likeness) Eq (statement.run sink) (other.run sink) := by
  cases statements with
  | absent => exact .error (.outside rfl)
  | expression exprs =>
      rename_i expr otherExpr
      have results := Expr.meaning_alike faithful exprs
      simp only [run, Expr.eval_eq_meaning]
      generalize expr.meaning = result, otherExpr.meaning = otherResult at results
      cases results with
      | ok same => exact .ok rfl
      | error failures => exact .error failures
  | print exprs lines =>
      rename_i expr otherExpr line otherLine
      have results := Expr.meaning_alike faithful exprs
      simp only [run, Expr.eval_eq_meaning]
      generalize expr.meaning = result, otherExpr.meaning = otherResult at results
      cases results with
      | error failures => exact .error failures
      | ok same =>
          subst same
          dsimp only
          cases written : sink.write _ with
          | ok next => exact .ok rfl
          | error failure => exact .error (.outside (sink.faults?_of_write written))

include faithful in
theorem Expr.runPrinted_alike {expr other : Expr} (exprs : expr.Alike likeness other)
    (sink : Sink) :
    (expr.runPrinted sink).1 = (other.runPrinted sink).1 ∧
      Concur (Failure.Alike likeness) Eq (expr.runPrinted sink).2 (other.runPrinted sink).2 := by
  have results := meaning_alike faithful exprs
  simp only [runPrinted, eval_eq_meaning]
  generalize expr.meaning = result, other.meaning = otherResult at results
  cases results with
  | error failures => exact ⟨rfl, .error failures⟩
  | ok same =>
      subst same
      dsimp only
      cases written : sink.write _ with
      | ok next => exact ⟨rfl, .ok rfl⟩
      | error failure => exact ⟨rfl, .error (.outside (sink.faults?_of_write written))⟩

include faithful in
theorem Program.run_alike {statements others : List Statement}
    (correspond : List.Forall₂ (Statement.Alike likeness) statements others) (sink : Sink) :
    (run sink statements).1 = (run sink others).1 ∧
      Option.Rel (Failure.Alike likeness) (run sink statements).2 (run sink others).2 := by
  induction correspond generalizing sink with
  | nil => exact ⟨rfl, .none⟩
  | cons head tail ih =>
      rename_i statement other rest otherRest
      have results := Statement.run_alike faithful head sink
      simp only [run]
      generalize statement.run sink = result, other.run sink = otherResult at results
      cases results with
      | ok same =>
          subst same
          exact ih _
      | error failures => exact ⟨rfl, .some failures⟩

include faithful in
/-- Sources without lexical faults whose tokens correspond run alike. -/
theorem Engine.run_alike (engine : Engine) {source other : Text} {tokens others : List Token}
    (scanned : Engine.tokens source = .ok tokens) (otherScanned : Engine.tokens other = .ok others)
    (correspond : List.Forall₂ likeness.token tokens others)
    (ends : .eof ∈ tokens.map Token.kind) (sink : Sink) :
    (engine.run source sink).1 = (engine.run other sink).1 ∧
      Option.Rel (Failure.Alike likeness) (engine.run source sink).2 (engine.run other sink).2 := by
  have programs := engine.statements_alike correspond ends
  simp only [run, program, scanned, otherScanned]
  generalize engine.statements tokens = result, engine.statements others = otherResult at programs
  cases programs with
  | ok statements => exact Program.run_alike faithful statements sink
  | error failures => exact ⟨rfl, .some failures⟩

end Faithful

end Scriptlet
