import Scriptlet.Proofs.Evaluation
import Scriptlet.Proofs.Grammar.Steps
import Scriptlet.Proofs.Output
import Scriptlet.Proofs.Recovery

/-!
# Faults by stage

Scanning finds lexical faults only, reading finds syntax faults only, and running finds runtime
faults only. So the faults of a failure tell how far a source has come.
-/

namespace Scriptlet

/-- The faults that a failure carries; a failure from outside the program carries none. -/
def Failure.found (failure : Failure) : List Fault :=
  failure.faults?.getD []

theorem Failure.found_of_ofFaults? {found : List Fault} {failure : Failure}
    (failed : ofFaults? found = some failure) : failure.found = found := by
  rw [Failure.found, faults?_of_ofFaults? failed]
  rfl

theorem Segment.stage_of_fault? {segment : Segment} {line : Nat} {fault : Fault}
    (faulty : segment.fault? line = some fault) : fault.stage = .lexical := by
  rcases segment with ⟨role, glyphs⟩
  cases role <;> cases faulty <;> rfl

theorem Scan.stage_of_mem_faults {source : Text} {fault : Fault}
    (member : fault ∈ (ofSource source).faults) : fault.stage = .lexical := by
  rcases List.mem_filterMap.mp member with ⟨⟨line, segment⟩, -, faulty⟩
  exact segment.stage_of_fault? faulty

/-- What reading may blame a token for. A literal is malformed only if it carries no value. -/
inductive Token.Blamable (token : Token) : Cause → Prop where
  | expectedExpression : Blamable token .expectedExpression
  | expectedParen : Blamable token .expectedParen
  | expectedSemicolon : Blamable token .expectedSemicolon
  | expectedEnd : Blamable token .expectedEnd
  | tooDeep : Blamable token .tooDeep
  | malformedLiteral (literal : token.kind = .number ∨ token.kind = .string)
      (missing : token.literal = none) : Blamable token .malformedLiteral

/-- A fault that blames a token for something that reading may blame it for. -/
def Fault.Blames (token : Token) (fault : Fault) : Prop :=
  ∃ cause, token.Blamable cause ∧ fault = .atToken token cause

theorem Fault.Blames.stage {token : Token} {fault : Fault} (blames : fault.Blames token) :
    fault.stage = .grammatical := by
  rcases blames with ⟨cause, blamable, rfl⟩
  cases blamable <;> rfl

namespace Phase

theorem blamable_of_nest {limit : Nat} {opening : Opening} {openings : List Opening}
    {cause : Cause} {isTaken : Bool}
    (taken : nest limit opening openings = .faulty cause isTaken) (token : Token) :
    token.Blamable cause := by
  unfold nest at taken
  split at taken
  · cases taken
    exact .tooDeep
  · cases taken

theorem blamable_of_takeOperand {limit : Nat} {openings : List Opening} {token : Token}
    {cause : Cause} {isTaken : Bool}
    (taken : takeOperand limit openings token = .faulty cause isTaken) : token.Blamable cause := by
  unfold takeOperand at taken
  split at taken
  · cases taken
  · cases taken
  · cases taken
  · rename_i number
    split at taken
    · cases taken
    · rename_i missing
      cases taken
      exact .malformedLiteral (.inl number) missing
  · rename_i string
    split at taken
    · cases taken
    · rename_i missing
      cases taken
      exact .malformedLiteral (.inr string) missing
  · exact blamable_of_nest taken token
  · exact blamable_of_nest taken token
  · exact blamable_of_nest taken token
  · exact blamable_of_nest taken token
  · exact blamable_of_nest taken token
  · cases taken
    exact .expectedExpression

theorem blamable_of_takeOperator {value : Expr} {openings : List Opening} {token : Token}
    {cause : Cause} {isTaken : Bool}
    (taken : takeOperator value openings token = .faulty cause isTaken) :
    token.Blamable cause := by
  unfold takeOperator at taken
  split at taken
  · cases taken
  · split at taken
    · split at taken
      · cases taken
      · cases taken
        exact .expectedParen
    · cases taken

theorem blamable_of_take {limit : Nat} {phase : Phase} {token : Token} {cause : Cause}
    {isTaken : Bool} (taken : phase.take limit token = .faulty cause isTaken) :
    token.Blamable cause := by
  cases phase with
  | expecting openings => exact blamable_of_takeOperand taken
  | holding value openings => exact blamable_of_takeOperator taken

theorem blamable_of_finish {phase : Phase} {cause : Cause}
    (finished : phase.finish = .error cause) (token : Token) : token.Blamable cause := by
  unfold finish at finished
  split at finished
  · cases finished
    exact .expectedExpression
  · split at finished
    · cases finished
      exact .expectedParen
    · cases finished

end Phase

theorem Expr.blames_of_read {limit : Nat} {ending : Token} {phase : Phase} {tokens : List Token}
    {found : Fault} (failed : read limit ending phase tokens = .error found) :
    ∃ token, (token = ending ∨ token ∈ tokens) ∧ found.Blames token := by
  induction tokens generalizing phase with
  | nil =>
      unfold read at failed
      split at failed
      · cases failed
      · rename_i unfinished
        cases failed
        exact ⟨ending, .inl rfl, _, Phase.blamable_of_finish unfinished ending, rfl⟩
  | cons token rest ih =>
      unfold read at failed
      split at failed
      · rcases ih failed with ⟨blamed, place, blames⟩
        exact ⟨blamed, place.imp_right (.tail token), blames⟩
      · rename_i taken
        cases failed
        exact ⟨token, .inr (.head rest), _, Phase.blamable_of_take taken, rfl⟩
      · split at failed
        · split at failed
          · cases failed
          · rename_i extra more
            cases failed
            exact ⟨extra, .inr (.tail token (.head more)), _, .expectedEnd, rfl⟩
        · cases failed
          exact ⟨token, .inr (.head rest), _, .expectedEnd, rfl⟩

namespace Program

theorem blames_of_inside {limit : Nat} {keyword : Option Int} {phase : Phase} {token : Token}
    {found : Fault} (event : (inside limit keyword phase token).2 = some (.fault found)) :
    found.Blames token := by
  have turn := turn_inside limit keyword phase token
  generalize inside limit keyword phase token = after at turn event
  cases turn with
  | continues taken => cases event
  | completes taken semicolon => cases event
  | strays taken unclosed =>
      cases event
      exact ⟨_, .expectedSemicolon, rfl⟩
  | refuses taken =>
      cases event
      exact ⟨_, Phase.blamable_of_take taken, rfl⟩
  | takes taken =>
      cases event
      exact ⟨_, Phase.blamable_of_take taken, rfl⟩

theorem blames_of_start {limit : Nat} {token : Token} {found : Fault}
    (event : (start limit token).2 = some (.fault found)) : found.Blames token := by
  unfold start at event
  split at event
  · cases event
  · exact blames_of_inside event

theorem blames_of_step {limit : Nat} {state : State} {token : Token} {found : Fault}
    (event : (step limit state token).2 = some (.fault found)) : found.Blames token := by
  cases state with
  | ready => exact blames_of_start event
  | reading keyword phase => exact blames_of_inside event
  | startled => cases event
  | skipping =>
      unfold step at event
      dsimp only at event
      split at event
      · exact blames_of_start event
      · cases event

theorem blames_of_finish {ending : Token} {state : State} {found : Fault}
    (finished : finish ending state = some found) : found.Blames ending := by
  unfold finish at finished
  split at finished
  · split at finished
    · cases finished
      exact ⟨_, .expectedSemicolon, rfl⟩
    · rename_i unfinished
      cases finished
      exact ⟨_, Phase.blamable_of_finish unfinished ending, rfl⟩
  · cases finished

theorem blames_of_mem_events {limit : Nat} {ending : Token} {state : State}
    {tokens : List Token} :
    ∀ found ∈ faults (events limit ending state tokens),
      ∃ token, (token = ending ∨ token ∈ tokens) ∧ found.Blames token := by
  induction tokens generalizing state with
  | nil =>
      intro found member
      cases finished : finish ending state with
      | none => simp [events, finished, faults] at member
      | some last =>
          have same : found = last := by simpa [events, finished, faults] using member
          exact ⟨ending, .inl rfl, same ▸ blames_of_finish finished⟩
  | cons token rest ih =>
      intro found member
      simp only [events, faults_append, List.mem_append] at member
      rcases member with here | later
      · rcases event : (step limit state token).2 with _ | (statement | first)
        · simp [event, faults] at here
        · simp [event, faults] at here
        · have same : found = first := by simpa [event, faults] using here
          exact ⟨token, .inr (.head rest), same ▸ blames_of_step event⟩
      · rcases ih found later with ⟨blamed, place, blames⟩
        exact ⟨blamed, place.imp_right (.tail token), blames⟩

theorem stage_of_mem_recover {limit : Nat} {tokens : List Token} {found : Fault}
    (member : found ∈ (recover limit tokens).2) : found.stage = .grammatical := by
  rcases blames_of_mem_events found member with ⟨token, -, blames⟩
  exact blames.stage

end Program

/-- A value, or a failure whose faults were all found at runtime. -/
inductive FailsAtRuntime {α : Type} : Except Failure α → Prop where
  | ok (value : α) : FailsAtRuntime (.ok value)
  | error {failure : Failure} (runtime : ∀ fault ∈ failure.found, fault.stage = .runtime) :
      FailsAtRuntime (.error failure)

/-- A failure from outside the program is no fault of another stage. -/
theorem FailsAtRuntime.outside {α : Type} {failure : Failure} (nothing : failure.faults? = none) :
    FailsAtRuntime (.error failure : Except Failure α) := by
  apply error
  simp [Failure.found, nothing]

namespace Token

theorem failsAtRuntime_refuse (operator : Token) {cause : Cause}
    (runtime : cause.stage = .runtime) : FailsAtRuntime (operator.refuse cause) := by
  apply FailsAtRuntime.error
  intro fault member
  rw [List.mem_singleton.mp member]
  exact runtime

theorem failsAtRuntime_refuseOperands (operator : Token) (left right : Value) :
    FailsAtRuntime (operator.refuseOperands left right) :=
  operator.failsAtRuntime_refuse rfl

theorem failsAtRuntime_applyUnary (operator : Token) (operand : Value) :
    FailsAtRuntime (operator.applyUnary operand) := by
  unfold applyUnary
  split
  · split
    · exact .ok _
    · exact .ok _
  · exact .ok _
  · exact .ok _
  · split
    · split
      · exact .ok _
      · exact operator.failsAtRuntime_refuse rfl
    · exact operator.failsAtRuntime_refuse rfl
  · exact operator.failsAtRuntime_refuse rfl

theorem failsAtRuntime_applyNumeric (operator : Token) (combine : Number → Number → Value)
    (left right : Value) : FailsAtRuntime (operator.applyNumeric combine left right) := by
  unfold applyNumeric
  split
  · exact .ok _
  · exact operator.failsAtRuntime_refuseOperands left right

theorem failsAtRuntime_applyEquality (operator : Token) (adjust : Bool → Bool)
    (left right : Value) : FailsAtRuntime (operator.applyEquality adjust left right) := by
  unfold applyEquality
  split
  · exact .ok _
  · exact operator.failsAtRuntime_refuseOperands left right

theorem failsAtRuntime_applyContainment (operator : Token) (adjust : Bool → Bool)
    (left right : Value) : FailsAtRuntime (operator.applyContainment adjust left right) := by
  unfold applyContainment
  split
  · exact .ok _
  · exact operator.failsAtRuntime_refuseOperands left right

theorem failsAtRuntime_applyBinary (operator : Token) (left right : Value) :
    FailsAtRuntime (operator.applyBinary left right) := by
  unfold applyBinary
  split
  · split
    · exact .ok _
    · exact operator.failsAtRuntime_applyNumeric _ left right
  · exact operator.failsAtRuntime_applyNumeric _ left right
  · exact operator.failsAtRuntime_applyNumeric _ left right
  · exact operator.failsAtRuntime_applyNumeric _ left right
  · exact operator.failsAtRuntime_applyNumeric _ left right
  · exact operator.failsAtRuntime_applyNumeric _ left right
  · exact operator.failsAtRuntime_applyNumeric _ left right
  · exact operator.failsAtRuntime_applyNumeric _ left right
  · exact operator.failsAtRuntime_applyEquality _ left right
  · exact operator.failsAtRuntime_applyEquality _ left right
  · exact operator.failsAtRuntime_applyContainment _ left right
  · exact operator.failsAtRuntime_applyContainment _ left right
  · exact operator.failsAtRuntime_refuse rfl

end Token

theorem Expr.failsAtRuntime_meaning (expr : Expr) : FailsAtRuntime expr.meaning := by
  induction expr with
  | absent => exact .outside rfl
  | literal value line => exact .ok _
  | group inner ih => exact ih
  | unary operator operand ih =>
      rw [meaning]
      generalize operand.meaning = result at ih
      cases ih with
      | ok value => exact operator.failsAtRuntime_applyUnary value
      | error runtime => exact .error runtime
  | binary left operator right leftIh rightIh =>
      rw [meaning]
      generalize left.meaning = leftResult at leftIh
      generalize right.meaning = rightResult at rightIh
      cases leftIh with
      | error runtime => exact .error runtime
      | ok leftValue =>
          cases rightIh with
          | error runtime => exact .error runtime
          | ok rightValue => exact operator.failsAtRuntime_applyBinary leftValue rightValue

theorem Expr.stage_of_eval {expr : Expr} {failure : Failure}
    (failed : expr.eval = .error failure) : ∀ fault ∈ failure.found, fault.stage = .runtime := by
  have evaluates := expr.failsAtRuntime_meaning
  rw [← eval_eq_meaning, failed] at evaluates
  cases evaluates with
  | error runtime => exact runtime

theorem Expr.failsAtRuntime_runPrinted (expr : Expr) (sink : Sink) :
    FailsAtRuntime (expr.runPrinted sink).2 := by
  cases result : (expr.runPrinted sink).2 with
  | ok value => exact .ok value
  | error failure =>
      rcases failure_of_runPrinted result with outside | unevaluated
      · exact .outside outside
      · exact .error (stage_of_eval unevaluated)

theorem Program.stage_of_run {sink : Sink} {statements : List Statement} {failure : Failure}
    (failed : (run sink statements).2 = some failure) :
    ∀ fault ∈ failure.found, fault.stage = .runtime := by
  rcases failure_of_run failed with outside | ⟨statement, member, expr, isExpr, unevaluated⟩
  · simp [Failure.found, outside]
  · exact Expr.stage_of_eval unevaluated

end Scriptlet
