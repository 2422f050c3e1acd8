import Scriptlet.Proofs.Likeness.Basic

/-!
# Corresponding tokens are read alike

The reading machine looks at the kind of a token and at whether a literal has a value, and at
nothing else. So corresponding tokens take corresponding states to corresponding states: what one
step does is in `Program.step_alike`, and what a whole run does is in `Program.events_alike`.
-/

namespace Scriptlet

variable (likeness : Likeness)

inductive Opening.Alike : Opening → Opening → Prop where
  | unary {operator otherOperator : Token} (operators : likeness.token operator otherOperator) :
      Alike (.unary operator) (.unary otherOperator)
  | group : Alike .group .group
  | binary {left otherLeft : Expr} {operator otherOperator : Token} (tier : Tier)
      (lefts : left.Alike likeness otherLeft)
      (operators : likeness.token operator otherOperator) :
      Alike (.binary left operator tier) (.binary otherLeft otherOperator tier)

inductive Phase.Alike : Phase → Phase → Prop where
  | expecting {openings others : List Opening}
      (opens : List.Forall₂ (Opening.Alike likeness) openings others) :
      Alike (.expecting openings) (.expecting others)
  | holding {value otherValue : Expr} {openings others : List Opening}
      (values : value.Alike likeness otherValue)
      (opens : List.Forall₂ (Opening.Alike likeness) openings others) :
      Alike (.holding value openings) (.holding otherValue others)

inductive Progress.Alike : Progress → Progress → Prop where
  | continues {phase otherPhase : Phase} (phases : phase.Alike likeness otherPhase) :
      Alike (.continues phase) (.continues otherPhase)
  | ended {expr otherExpr : Expr} (exprs : expr.Alike likeness otherExpr) :
      Alike (.ended expr) (.ended otherExpr)
  | faulty (cause : Cause) (taken : Bool) : Alike (.faulty cause taken) (.faulty cause taken)

inductive Program.State.Alike : State → State → Prop where
  | ready : Alike .ready .ready
  | reading {keyword otherKeyword : Option Int} {phase otherPhase : Phase}
      (keywords : Option.Rel likeness.line keyword otherKeyword)
      (phases : phase.Alike likeness otherPhase) :
      Alike (.reading keyword phase) (.reading otherKeyword otherPhase)
  | startled : Alike .startled .startled
  | skipping : Alike .skipping .skipping

inductive Program.Event.Alike : Event → Event → Prop where
  | read {statement otherStatement : Statement}
      (statements : statement.Alike likeness otherStatement) :
      Alike (.read statement) (.read otherStatement)
  | fault {found otherFound : Fault} (faults : found.Alike likeness otherFound) :
      Alike (.fault found) (.fault otherFound)

variable {likeness}

theorem Opening.depth_eq_of_alike {openings others : List Opening}
    (opens : List.Forall₂ (Alike likeness) openings others) : depth openings = depth others := by
  unfold depth
  induction opens with
  | nil => rfl
  | cons head tail ih =>
      rw [List.countP_cons, List.countP_cons, ih]
      cases head <;> rfl

theorem Opening.reduce_alike (tier : Tier) {operand otherOperand : Expr}
    {openings others : List Opening} (operands : operand.Alike likeness otherOperand)
    (opens : List.Forall₂ (Alike likeness) openings others) :
    (reduce tier operand openings).1.Alike likeness (reduce tier otherOperand others).1 ∧
      List.Forall₂ (Alike likeness) (reduce tier operand openings).2
        (reduce tier otherOperand others).2 := by
  induction opens generalizing operand otherOperand with
  | nil => exact ⟨operands, .nil⟩
  | cons head tail ih =>
      cases head with
      | unary operators => exact ⟨operands, .cons (.unary operators) tail⟩
      | group => exact ⟨operands, .cons .group tail⟩
      | binary own lefts operators =>
          unfold reduce
          split
          · exact ih (.binary lefts operators operands)
          · exact ⟨operands, .cons (.binary own lefts operators) tail⟩

namespace Phase

theorem complete_alike {operand otherOperand : Expr} {openings others : List Opening}
    (operands : operand.Alike likeness otherOperand)
    (opens : List.Forall₂ (Opening.Alike likeness) openings others) :
    (complete operand openings).Alike likeness (complete otherOperand others) := by
  induction opens generalizing operand otherOperand with
  | nil => exact .holding operands .nil
  | cons head tail ih =>
      cases head with
      | unary operators => exact ih (.unary operators operands)
      | group => exact .holding operands (.cons .group tail)
      | binary own lefts operators =>
          exact .holding operands (.cons (.binary own lefts operators) tail)

theorem nest_alike (limit : Nat) {opening other : Opening} {openings others : List Opening}
    (head : opening.Alike likeness other)
    (opens : List.Forall₂ (Opening.Alike likeness) openings others) :
    (nest limit opening openings).Alike likeness (nest limit other others) := by
  unfold nest
  rw [Opening.depth_eq_of_alike opens]
  split
  · exact .faulty _ _
  · exact .continues (.expecting (.cons head opens))

theorem takeOperand_alike (limit : Nat) {openings others : List Opening} {token other : Token}
    (opens : List.Forall₂ (Opening.Alike likeness) openings others)
    (tokens : likeness.token token other) :
    (takeOperand limit openings token).Alike likeness (takeOperand limit others other) := by
  have completes {value otherValue : Value} (values : likeness.value value otherValue) :
      (Progress.continues (complete (.literal (some value) token.line) openings)).Alike likeness
        (.continues (complete (.literal (some otherValue) other.line) others)) :=
    .continues (complete_alike (.literal (.some values) (likeness.line_of_token tokens)) opens)
  have literals := likeness.literal_of_token tokens
  have operators := Opening.Alike.unary tokens
  unfold takeOperand
  rw [← likeness.kind_eq tokens]
  generalize token.literal = literal, other.literal = otherLiteral at literals
  split
  · exact completes (likeness.value_of_word _ (by simp))
  · exact completes (likeness.value_of_word _ (by simp))
  · exact completes (likeness.value_of_word _ (by simp))
  · cases literals with
    | none => exact .faulty _ _
    | some values => exact completes values
  · cases literals with
    | none => exact .faulty _ _
    | some values => exact completes values
  · exact nest_alike limit .group opens
  · exact nest_alike limit operators opens
  · exact nest_alike limit operators opens
  · exact nest_alike limit operators opens
  · exact nest_alike limit operators opens
  · exact .faulty _ _

theorem takeOperator_alike {value otherValue : Expr} {openings others : List Opening}
    {token other : Token} (values : value.Alike likeness otherValue)
    (opens : List.Forall₂ (Opening.Alike likeness) openings others)
    (tokens : likeness.token token other) :
    (takeOperator value openings token).Alike likeness (takeOperator otherValue others other) := by
  unfold takeOperator
  rw [← likeness.kind_eq tokens]
  split
  · rename_i tier found
    rcases Opening.reduce_alike tier values opens with ⟨lefts, rests⟩
    exact .continues (.expecting (.cons (.binary tier lefts tokens) rests))
  · rcases Opening.reduce_alike .equality values opens with ⟨wholes, rests⟩
    generalize Opening.reduce .equality value openings = reduced,
      Opening.reduce .equality otherValue others = otherReduced at wholes rests
    rcases reduced with ⟨whole, rest⟩
    rcases otherReduced with ⟨otherWhole, otherRest⟩
    cases rests with
    | nil => exact .ended wholes
    | cons head tail =>
        cases head with
        | unary operators => exact .ended wholes
        | binary own lefts operators => exact .ended wholes
        | group =>
            dsimp only
            split
            · exact .continues (complete_alike (.group wholes) tail)
            · exact .faulty _ _

theorem take_alike (limit : Nat) {phase otherPhase : Phase} {token other : Token}
    (phases : phase.Alike likeness otherPhase) (tokens : likeness.token token other) :
    (phase.take limit token).Alike likeness (otherPhase.take limit other) := by
  cases phases with
  | expecting opens => exact takeOperand_alike limit opens tokens
  | holding values opens => exact takeOperator_alike values opens tokens

theorem finish_alike {phase otherPhase : Phase} (phases : phase.Alike likeness otherPhase) :
    Concur Eq (Expr.Alike likeness) phase.finish otherPhase.finish := by
  cases phases with
  | expecting opens => exact .error rfl
  | holding values opens =>
      rename_i value otherValue openings others
      rcases Opening.reduce_alike .equality values opens with ⟨wholes, rests⟩
      simp only [finish]
      generalize Opening.reduce .equality value openings = reduced,
        Opening.reduce .equality otherValue others = otherReduced at wholes rests
      rcases reduced with ⟨whole, rest⟩
      rcases otherReduced with ⟨otherWhole, otherRest⟩
      cases rests with
      | nil => exact .ok wholes
      | cons head tail =>
          cases head with
          | unary operators => exact .ok wholes
          | binary own lefts operators => exact .ok wholes
          | group => exact .error rfl

end Phase

namespace Program

theorem statement_alike {keyword otherKeyword : Option Int} {expr otherExpr : Expr}
    (keywords : Option.Rel likeness.line keyword otherKeyword)
    (exprs : expr.Alike likeness otherExpr) :
    (statement keyword expr).Alike likeness (statement otherKeyword otherExpr) := by
  cases keywords with
  | none => exact .expression exprs
  | some lines => exact .print exprs lines

theorem afterSkipped_alike {token other : Token} (tokens : likeness.token token other) :
    (afterSkipped token).Alike likeness (afterSkipped other) := by
  unfold afterSkipped
  rw [← likeness.kind_eq tokens]
  split
  · exact .ready
  · exact .skipping

theorem inside_alike (limit : Nat) {keyword otherKeyword : Option Int} {phase otherPhase : Phase}
    {token other : Token} (keywords : Option.Rel likeness.line keyword otherKeyword)
    (phases : phase.Alike likeness otherPhase) (tokens : likeness.token token other) :
    (inside limit keyword phase token).1.Alike likeness
        (inside limit otherKeyword otherPhase other).1 ∧
      Option.Rel (Event.Alike likeness) (inside limit keyword phase token).2
        (inside limit otherKeyword otherPhase other).2 := by
  have progress := Phase.take_alike limit phases tokens
  unfold inside
  generalize phase.take limit token = taken, otherPhase.take limit other = otherTaken at progress
  cases progress with
  | continues phases => exact ⟨.reading keywords phases, .none⟩
  | ended exprs =>
      dsimp only
      rw [← likeness.kind_eq tokens]
      split
      · exact ⟨.ready, .some (.read (statement_alike keywords exprs))⟩
      · exact ⟨afterSkipped_alike tokens, .some (.fault (.atToken tokens _))⟩
  | faulty cause taken =>
      refine ⟨?_, .some (.fault (.atToken tokens cause))⟩
      cases taken with
      | true => exact .startled
      | false => exact afterSkipped_alike tokens

theorem start_alike (limit : Nat) {token other : Token} (tokens : likeness.token token other) :
    (start limit token).1.Alike likeness (start limit other).1 ∧
      Option.Rel (Event.Alike likeness) (start limit token).2 (start limit other).2 := by
  unfold start
  rw [← likeness.kind_eq tokens]
  split
  · exact ⟨.reading (.some (likeness.line_of_token tokens)) (.expecting .nil), .none⟩
  · exact inside_alike limit .none (.expecting .nil) tokens

/-- Corresponding tokens take corresponding states to corresponding states and events. -/
theorem step_alike (limit : Nat) {state otherState : State} {token other : Token}
    (states : state.Alike likeness otherState) (tokens : likeness.token token other) :
    (step limit state token).1.Alike likeness (step limit otherState other).1 ∧
      Option.Rel (Event.Alike likeness) (step limit state token).2
        (step limit otherState other).2 := by
  have leading : leads token = leads other := by
    unfold leads
    rw [likeness.kind_eq tokens]
  cases states with
  | ready => exact start_alike limit tokens
  | reading keywords phases => exact inside_alike limit keywords phases tokens
  | startled => exact ⟨afterSkipped_alike tokens, .none⟩
  | skipping =>
      unfold step
      dsimp only
      rw [leading]
      split
      · exact start_alike limit tokens
      · exact ⟨afterSkipped_alike tokens, .none⟩

theorem finish_alike {ending otherEnding : Token} {state otherState : State}
    (endings : likeness.token ending otherEnding) (states : state.Alike likeness otherState) :
    Option.Rel (Fault.Alike likeness) (finish ending state) (finish otherEnding otherState) := by
  cases states with
  | ready => exact .none
  | startled => exact .none
  | skipping => exact .none
  | reading keywords phases =>
      rename_i keyword otherKeyword phase otherPhase
      have finishes := Phase.finish_alike phases
      simp only [finish]
      generalize phase.finish = finished, otherPhase.finish = otherFinished at finishes
      cases finishes with
      | ok exprs => exact .some (.atToken endings _)
      | error causes =>
          subst causes
          exact .some (.atToken endings _)

/-- Corresponding token lists complete corresponding events. -/
theorem events_alike (limit : Nat) {ending otherEnding : Token} {state otherState : State}
    {tokens others : List Token} (endings : likeness.token ending otherEnding)
    (states : state.Alike likeness otherState)
    (correspond : List.Forall₂ likeness.token tokens others) :
    List.Forall₂ (Event.Alike likeness) (events limit ending state tokens)
      (events limit otherEnding otherState others) := by
  induction correspond generalizing state otherState with
  | nil =>
      unfold events
      have faults := finish_alike endings states
      generalize finish ending state = found, finish otherEnding otherState = otherFound at faults
      cases faults with
      | none => exact .nil
      | some found => exact .cons (.fault found) .nil
  | cons head tail ih =>
      rename_i token other rest otherRest
      rcases step_alike limit states head with ⟨nexts, found⟩
      unfold events
      generalize step limit state token = taken,
        step limit otherState other = otherTaken at nexts found
      rcases taken with ⟨next, event⟩
      rcases otherTaken with ⟨otherNext, otherEvent⟩
      cases found with
      | none => exact ih nexts
      | some events => exact .cons events (ih nexts)

end Program

end Scriptlet
