import Scriptlet.Engine
import Scriptlet.Proofs.EvaluationRules
import Scriptlet.Proofs.Scanning.Written
import Scriptlet.Proofs.Stages

/-!
# Only documented faults

`Cause.Documented` lists the faults that a user is told about, with the stage that finds each of
them and what it says. There are others: a literal without a value, an operator that is none, a
missing expression or statement. These need tokens or trees that were built by hand. In a source,
every literal token carries its value, every operator that reading puts into a tree is one that
evaluation knows, and no part of a tree is missing; so an engine that can print without limit only
ever answers a source with documented faults.
-/

namespace Scriptlet

/-- The documented causes of faults, the stage that finds each, and what it says. -/
inductive Cause.Documented : Cause → Stage → Text → Prop where
  | unexpectedCharacter (character : Char) :
      Documented (.unexpectedCharacter character) .lexical
        (text "unexpected character " ++ Quoted.ofChar character)
  | unterminatedString : Documented .unterminatedString .lexical (text "unterminated string")
  | unterminatedComment :
      Documented .unterminatedComment .lexical (text "unterminated block comment")
  | expectedExpression : Documented .expectedExpression .grammatical (text "expected expression")
  | expectedParen : Documented .expectedParen .grammatical (text "expect ')' after expression")
  | expectedSemicolon :
      Documented .expectedSemicolon .grammatical (text "expect ';' after expression")
  | expectedEnd : Documented .expectedEnd .grammatical (text "expect end of expression")
  | tooDeep : Documented .tooDeep .grammatical (text "expression nests too deeply")
  | invalidOperands (operator : Text) (left right : Value) :
      Documented (.invalidOperands operator left right) .runtime
        (text "invalid operands for " ++ operator ++ text ": " ++ left.inspect ++ text " and " ++
          right.inspect)
  | invalidOperand (operand : Value) :
      Documented (.invalidOperand operand) .runtime
        (text "invalid operand for unary +: " ++ operand.inspect)
  | unreadableNumber (content : Text) :
      Documented (.unreadableNumber (.string content)) .runtime
        (text "could not parse " ++ (byte '"' :: content ++ [byte '"']) ++ text " to a number")

/-- A fault of a documented cause, found at the documented stage and saying what is documented. -/
def Fault.Documented (fault : Fault) : Prop :=
  fault.cause.Documented fault.stage fault.message

namespace Failure

/-- A failure that is a documented fault or several of them, and nothing else. -/
inductive Documented : Failure → Prop where
  | fault {found : Fault} (documented : found.Documented) : Documented (.fault found)
  | faults {found : List Fault} (several : found ≠ [])
      (documented : ∀ fault ∈ found, fault.Documented) : Documented (.faults found)

/-- A failure of what only tokens and trees built by hand can hold: a literal without a value, an
operator that is none, a missing expression or statement. -/
def Unsupported (failure : Failure) : Prop :=
  failure = .absentExpression ∨ failure = .absentStatement ∨
    ∃ fault ∈ failure.found, fault.cause = .malformedLiteral ∨
      ∃ operator, fault.cause = .unsupportedUnary operator ∨
        fault.cause = .unsupportedBinary operator

/-- All faults are lexical, or all are syntax faults, or there is one runtime fault. -/
def OfOneStage (failure : Failure) : Prop :=
  (∀ fault ∈ failure.found, fault.stage = .lexical) ∨
    (∀ fault ∈ failure.found, fault.stage = .grammatical) ∨
    ∃ fault, failure = .fault fault ∧ fault.stage = .runtime

theorem Documented.of_mem_found {failure : Failure} (documented : failure.Documented) :
    ∀ fault ∈ failure.found, fault.Documented := by
  cases documented with
  | fault documented =>
      intro fault member
      rwa [List.mem_singleton.mp member]
  | faults several documented => exact documented

theorem Documented.not_unsupported {failure : Failure} (documented : failure.Documented) :
    ¬failure.Unsupported := by
  have documentedFaults := documented.of_mem_found
  rintro (rfl | rfl | ⟨⟨cause, line, token⟩, member, unsupported⟩)
  · cases documented
  · cases documented
  · have documentedCause := documentedFaults _ member
    rcases unsupported with rfl | ⟨operator, rfl | rfl⟩ <;> cases documentedCause

theorem documented_of_ofFaults? {found : List Fault} {failure : Failure}
    (documented : ∀ fault ∈ found, fault.Documented) (failed : ofFaults? found = some failure) :
    failure.Documented := by
  unfold ofFaults? at failed
  split at failed
  · cases failed
  · cases failed
    exact .fault (documented _ (.head _))
  · rename_i none one
    cases failed
    exact .faults none documented

end Failure

theorem Scan.documented_of_mem_faults {source : Text} :
    ∀ fault ∈ (ofSource source).faults, fault.Documented := by
  intro fault member
  rcases List.mem_filterMap.mp member with ⟨⟨line, role, glyphs⟩, -, faulty⟩
  cases role with
  | unexpected =>
      cases faulty
      exact .unexpectedCharacter _
  | openString =>
      cases faulty
      exact .unterminatedString
  | openComment =>
      cases faulty
      exact .unterminatedComment
  | _ => cases faulty

theorem Fault.Blames.documented {token : Token} {fault : Fault} (blames : fault.Blames token)
    (written : token.Written) : fault.Documented := by
  rcases blames with ⟨cause, blamable, rfl⟩
  cases blamable with
  | expectedExpression => exact .expectedExpression
  | expectedParen => exact .expectedParen
  | expectedSemicolon => exact .expectedSemicolon
  | expectedEnd => exact .expectedEnd
  | tooDeep => exact .tooDeep
  | malformedLiteral literal missing =>
      have carries := written.literal_isSome literal
      rw [missing] at carries
      cases carries

theorem Program.documented_of_mem_recover {limit : Nat} {tokens : List Token}
    (spelled : ∀ token ∈ tokens, token.Written) :
    ∀ fault ∈ (recover limit tokens).2, fault.Documented := by
  intro fault member
  rcases blames_of_mem_events fault member with ⟨token, rfl | inBody, blames⟩
  · exact blames.documented (Input.written_ending spelled)
  · exact blames.documented (spelled token (List.takeWhile_subset _ inBody))

theorem Expr.documented_of_ofTokens {limit : Nat} {tokens : List Token} {fault : Fault}
    (spelled : ∀ token ∈ tokens, token.Written) (failed : ofTokens limit tokens = .error fault) :
    fault.Documented ∧ fault.stage = .grammatical := by
  rcases blames_of_read failed with ⟨token, rfl | inBody, blames⟩
  · exact ⟨blames.documented (Input.written_ending spelled), blames.stage⟩
  · exact ⟨blames.documented (spelled token (List.takeWhile_subset _ inBody)), blames.stage⟩

/-- A value, or one documented runtime fault. -/
inductive FailsAsDocumented {α : Type} : Except Failure α → Prop where
  | ok (value : α) : FailsAsDocumented (.ok value)
  | error {found : Fault} (documented : found.Documented) (runtime : found.stage = .runtime) :
      FailsAsDocumented (.error (.fault found))

theorem Token.Unary.failsAsDocumented {operator : Token} {operand : Value}
    {result : Except Failure Value} (applied : operator.Unary operand result)
    (known : operator.kind ∈ unaryOperators) : FailsAsDocumented result := by
  cases applied with
  | unreadable kind unread => exact .error (.unreadableNumber _) rfl
  | plusOther kind other => exact .error (.invalidOperand _) rfl
  | unknown unknown => exact absurd known unknown
  | _ => exact .ok _

theorem Token.Binary.failsAsDocumented {operator : Token} {left right : Value} {tier : Tier}
    {result : Except Failure Value} (applied : operator.Binary left right result)
    (known : operator.kind ∈ tier.operators) : FailsAsDocumented result := by
  cases applied with
  | combined combines => exact .ok _
  | refused known unfit => exact .error (.invalidOperands _ _ _) rfl
  | unknown unknown => exact absurd known (unknown tier)

theorem Expr.Evaluates.failsAsDocumented {expr : Expr} {result : Except Failure Value}
    (evaluates : expr.Evaluates result) (written : expr.Written) : FailsAsDocumented result := by
  induction evaluates with
  | absent => cases written
  | literal value line => exact .ok value
  | emptyLiteral line => cases written
  | group evaluates ih =>
      cases written with
      | group inside => exact ih inside
  | unary evaluates applied ih =>
      cases written with
      | unary known spelled operand => exact applied.failsAsDocumented known
  | operandFails fails ih =>
      cases written with
      | unary known spelled operand => exact ih operand
  | binary leftEvaluates rightEvaluates applied leftIh rightIh =>
      cases written with
      | binary known spelled left right => exact applied.failsAsDocumented known
  | leftFails fails ih =>
      cases written with
      | binary known spelled left right => exact ih left
  | rightFails leftEvaluates fails leftIh ih =>
      cases written with
      | binary known spelled left right => exact ih right

theorem Expr.Written.failsAsDocumented {expr : Expr} (written : expr.Written) :
    FailsAsDocumented expr.eval := by
  rw [eval_eq_meaning]
  exact expr.evaluates_meaning.failsAsDocumented written

theorem Sink.write_of_endless {sink : Sink} (endless : sink.room = none) (line : Text) :
    sink.write line = .ok { sink with written := line :: sink.written } := by
  rw [write, endless]

theorem Expr.Written.documented_of_eval {expr : Expr} (written : expr.Written) {failure : Failure}
    (failed : expr.eval = .error failure) :
    ∃ fault, failure = .fault fault ∧ fault.Documented ∧ fault.stage = .runtime := by
  have evaluates := written.failsAsDocumented
  rw [failed] at evaluates
  cases evaluates with
  | error documented runtime => exact ⟨_, rfl, documented, runtime⟩

theorem Statement.Written.documented_of_fails {statement : Statement}
    (written : statement.Written) {failure : Failure}
    (fails : statement.failure? = some failure) :
    ∃ fault, failure = .fault fault ∧ fault.Documented ∧ fault.stage = .runtime := by
  rcases eval_of_fails fails with ⟨rfl, -⟩ | ⟨expr, isExpr, unevaluated⟩
  · cases written
  · cases written with
    | print written line =>
        cases isExpr
        exact written.documented_of_eval unevaluated
    | expression written =>
        cases isExpr
        exact written.documented_of_eval unevaluated

theorem Program.documented_of_run {statements : List Statement}
    (written : ∀ statement ∈ statements, statement.Written) {sink : Sink}
    (endless : sink.room = none) {failure : Failure}
    (failed : (run sink statements).2 = some failure) :
    ∃ fault, failure = .fault fault ∧ fault.Documented ∧ fault.stage = .runtime := by
  rw [run_eq, Sink.writeAll_endless endless, Option.none_or] at failed
  rcases List.exists_of_findSome?_eq_some failed with ⟨statement, member, fails⟩
  exact (written statement member).documented_of_fails fails

theorem Expr.Written.documented_of_runPrinted {expr : Expr} (written : expr.Written) {sink : Sink}
    (endless : sink.room = none) {failure : Failure}
    (failed : (expr.runPrinted sink).2 = .error failure) :
    ∃ fault, failure = .fault fault ∧ fault.Documented ∧ fault.stage = .runtime := by
  rw [runPrinted] at failed
  split at failed
  · rename_i unevaluated
    cases failed
    exact written.documented_of_eval unevaluated
  · rw [sink.write_of_endless endless] at failed
    cases failed

/-- A failure of documented faults, which are all of one stage. -/
structure Failure.Proper (failure : Failure) : Prop where
  documented : failure.Documented
  oneStage : failure.OfOneStage

namespace Engine

theorem proper_of_scan {source : Text} {failure : Failure}
    (failed : Failure.ofFaults? (Scan.ofSource source).faults = some failure) :
    failure.Proper := by
  refine ⟨Failure.documented_of_ofFaults? Scan.documented_of_mem_faults failed, .inl ?_⟩
  rw [Failure.found_of_ofFaults? failed]
  exact fun fault member => Scan.stage_of_mem_faults member

theorem proper_of_program {engine : Engine} {source : Text} {failure : Failure}
    (failed : engine.program source = .error failure) : failure.Proper := by
  rcases engine.program_cases source with
    recovered | ⟨found, other, refused, isFailure, rfl | subset⟩
  · rw [recovered] at failed
    cases failed
  · rw [refused] at failed
    cases failed
    exact proper_of_scan isFailure
  · rw [refused] at failed
    cases failed
    refine ⟨Failure.documented_of_ofFaults? (fun fault member => ?_) isFailure, .inr (.inl ?_)⟩
    · exact Program.documented_of_mem_recover Scan.written_of_mem_tokens fault (subset member)
    · rw [Failure.found_of_ofFaults? isFailure]
      exact fun fault member => Program.stage_of_mem_recover (subset member)

theorem proper_of_expression {engine : Engine} {source : Text} {failure : Failure}
    (failed : engine.expression source = .error failure) : failure.Proper := by
  rcases engine.expression_cases source with
    ⟨expr, isRead, -⟩ | ⟨found, other, refused, isFailure, rfl | ⟨fault, rfl, unread⟩⟩
  · rw [isRead] at failed
    cases failed
  · rw [refused] at failed
    cases failed
    exact proper_of_scan isFailure
  · rw [refused] at failed
    cases failed
    cases isFailure
    rcases Expr.documented_of_ofTokens Scan.written_of_mem_tokens unread with
      ⟨documented, grammatical⟩
    refine ⟨.fault documented, .inr (.inl ?_)⟩
    intro other member
    rwa [List.mem_singleton.mp member]

theorem documented_of_check {engine : Engine} {source : Text} {failure : Failure}
    (failed : engine.check source = some failure) : failure.Documented := by
  refine Failure.documented_of_ofFaults? ?_ failed
  intro fault member
  rcases List.mem_append.mp member with lexical | grammatical
  · exact Scan.documented_of_mem_faults fault lexical
  · exact Program.documented_of_mem_recover Scan.written_of_mem_tokens fault
      (List.mem_of_mem_filter grammatical)

/-- If nothing goes wrong with the output, then an engine answers a source only with documented
faults, whatever it does with the source. Running, evaluating and formatting find faults of one
stage, and at runtime a single one. -/
theorem finds_documented_faults (engine : Engine) (source : Text) (sink : Sink)
    (endless : sink.room = none) :
    (∀ failure, (engine.run source sink).2 = some failure →
      failure.Documented ∧ ¬failure.Unsupported ∧ failure.OfOneStage) ∧
    (∀ failure, engine.check source = some failure →
      failure.Documented ∧ ¬failure.Unsupported) ∧
    (∀ failure, (engine.evaluate source sink).2 = .error failure →
      failure.Documented ∧ ¬failure.Unsupported ∧ failure.OfOneStage) ∧
    (∀ failure, engine.form source = .error failure →
      failure.Documented ∧ ¬failure.Unsupported ∧ failure.OfOneStage) := by
  have allOf {failure : Failure} (proper : failure.Proper) :
      failure.Documented ∧ ¬failure.Unsupported ∧ failure.OfOneStage :=
    ⟨proper.documented, proper.documented.not_unsupported, proper.oneStage⟩
  refine ⟨?_, ?_, ?_, ?_⟩
  · intro failure failed
    unfold run at failed
    split at failed
    · rename_i isProgram
      rcases Program.documented_of_run (written_of_program isProgram) endless failed with
        ⟨fault, rfl, documented, runtime⟩
      exact allOf ⟨.fault documented, .inr (.inr ⟨fault, rfl, runtime⟩)⟩
    · rename_i refused
      cases failed
      exact allOf (proper_of_program refused)
  · intro failure failed
    have documented := documented_of_check failed
    exact ⟨documented, documented.not_unsupported⟩
  · intro failure failed
    unfold evaluate at failed
    split at failed
    · rename_i read
      rcases (written_of_expression read).documented_of_runPrinted endless failed with
        ⟨fault, rfl, documented, runtime⟩
      exact allOf ⟨.fault documented, .inr (.inr ⟨fault, rfl, runtime⟩)⟩
    · rename_i refused
      cases failed
      exact allOf (proper_of_expression refused)
  · intro failure failed
    unfold form at failed
    split at failed
    · cases failed
    · rename_i refused
      cases failed
      exact allOf (proper_of_expression refused)

/-- An expression that no number can be read for. -/
def unreadable : Text :=
  text "+\"one\""

theorem finds_documented_faults_unreadable :
    (check {} unreadable).isSome ∧ (evaluate {} unreadable {}).2.isOk = false ∧
      (∀ failure, check {} unreadable = some failure → failure.Documented) ∧
      ∀ failure, (evaluate {} unreadable {}).2 = .error failure →
        failure.Documented ∧ ¬failure.Unsupported ∧ failure.OfOneStage := by
  rcases finds_documented_faults {} unreadable {} rfl with ⟨-, checked, evaluated, -⟩
  refine ⟨by decide +kernel, by decide +kernel, ?_, evaluated⟩
  intro failure failed
  exact (checked failure failed).1

end Engine

end Scriptlet
