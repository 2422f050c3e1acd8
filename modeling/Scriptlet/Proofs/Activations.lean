import Scriptlet.Proofs.Evaluation
import Scriptlet.Proofs.Form
import Scriptlet.Proofs.Reading.Spelling

/-!
# How deep recursion over expressions goes

An algorithm over expressions may call itself for each group, each operand of a prefix operator and
each operand of an infix operator. Chains of infix operators are as long as the source, so it takes
the left spine of a chain in a loop: only the operands along the spine are activations of their own.
`Visitor.within` is such an algorithm with room for so many activations at a time, and
`Expr.activations` is the room that it needs for a tree.

The depth limit counts groups and prefix operators, but an infix operator on the right of a looser
one takes an activation, too. There are four tiers, so at most four of these come before the next
group, prefix operator or leaf, whatever the length of the chain. The induction carries what the
rank of a tree still leaves of the four.
-/

namespace Scriptlet

/-- What an algorithm makes of a node, given what it makes of the parts of the node. -/
structure Visitor (α : Type) where
  absent : α
  literal : Option Value → α
  group : α → α
  unary : Token → α → α
  binary : α → Token → α → α

namespace Visitor

variable {α : Type}

/-- What a visitor makes of a tree. -/
def visit (visitor : Visitor α) : Expr → α
  | .absent => visitor.absent
  | .literal value _ => visitor.literal value
  | .group inner => visitor.group (visitor.visit inner)
  | .unary operator operand => visitor.unary operator (visitor.visit operand)
  | .binary left operator right =>
      visitor.binary (visitor.visit left) operator (visitor.visit right)

/-- Folds the left spine of a tree in a loop. Each operand along it is an activation. -/
def along (visitor : Visitor α) (activate : Expr → Option α) : Expr → Option α
  | .binary left operator right =>
      match visitor.along activate left, activate right with
      | some leftResult, some rightResult => some (visitor.binary leftResult operator rightResult)
      | _, _ => none
  | operand => activate operand

/-- Visits a tree with room for so many activations at a time. -/
def within (visitor : Visitor α) : Nat → Expr → Option α
  | 0, _ => none
  | _ + 1, .absent => some visitor.absent
  | _ + 1, .literal value _ => some (visitor.literal value)
  | room + 1, .group inner => (visitor.within room inner).map visitor.group
  | room + 1, .unary operator operand => (visitor.within room operand).map (visitor.unary operator)
  | room + 1, .binary left operator right =>
      visitor.along (visitor.within room) (.binary left operator right)

end Visitor

namespace Expr

/-- Whether the root of a tree is an infix operator. -/
def isInfix : Expr → Bool
  | .binary _ _ _ => true
  | _ => false

/-- How many activations a visit of a tree nests. An infix operator on the left of another one is
part of the same spine. -/
def activations : Expr → Nat
  | .absent => 1
  | .literal _ _ => 1
  | .group inner => inner.activations + 1
  | .unary _ operand => operand.activations + 1
  | .binary left _ right =>
      max (if left.isInfix then left.activations else left.activations + 1) (right.activations + 1)

/-- The operands along the left spine of a tree, the outermost first. -/
def spineOperands : Expr → List Expr
  | .binary left _ right => right :: left.spineOperands
  | operand => [operand]

/-- The most activations that an operand along the left spine nests. -/
def spineActivations (expr : Expr) : Nat :=
  (expr.spineOperands.map activations).foldr max 0

@[simp]
theorem spineActivations_binary (left right : Expr) (operator : Token) :
    (binary left operator right).spineActivations =
      max right.activations left.spineActivations :=
  rfl

theorem spineActivations_of_not_isInfix {expr : Expr} (noInfix : expr.isInfix = false) :
    expr.spineActivations = expr.activations := by
  cases expr with
  | binary left operator right => cases noInfix
  | _ => exact Nat.max_zero _

/-- An infix operator takes one activation more than the operands along its spine. -/
theorem activations_binary (left right : Expr) (operator : Token) :
    (binary left operator right).activations =
      (binary left operator right).spineActivations + 1 := by
  induction left generalizing operator right with
  | binary innermost inner middle leftIh rightIh =>
      have spine := leftIh middle inner
      simp only [spineActivations_binary] at spine
      simp only [activations, isInfix, if_true, spineActivations_binary] at spine ⊢
      omega
  | _ =>
      rw [spineActivations_binary, spineActivations_of_not_isInfix rfl]
      simp only [activations, isInfix, Bool.false_eq_true, if_false]
      omega

end Expr

namespace Visitor

variable {α : Type}

theorem along_eq {visitor : Visitor α} {room : Nat} {activate : Expr → Option α}
    (activates : ∀ expr, activate expr =
      if expr.activations ≤ room then some (visitor.visit expr) else none) (expr : Expr) :
    visitor.along activate expr =
      if expr.spineActivations ≤ room then some (visitor.visit expr) else none := by
  induction expr with
  | binary left operator right leftIh rightIh =>
      rw [along, leftIh, activates right, Expr.spineActivations_binary]
      by_cases leftFits : left.spineActivations ≤ room
      · by_cases rightFits : right.activations ≤ room
        · simp [leftFits, rightFits, visit]
        · simp [leftFits, rightFits]
      · simp [leftFits]
  | _ =>
      rw [Expr.spineActivations_of_not_isInfix rfl]
      exact activates _

/-- A visit succeeds exactly if there is room for the activations of the tree. -/
theorem within_eq (visitor : Visitor α) (room : Nat) (expr : Expr) :
    visitor.within room expr =
      if expr.activations ≤ room then some (visitor.visit expr) else none := by
  induction room generalizing expr with
  | zero =>
      have positive : 0 < expr.activations := by
        cases expr with
        | binary left operator right =>
            rw [Expr.activations_binary]
            omega
        | _ => simp [Expr.activations]
      rw [within, if_neg (by omega)]
  | succ room ih =>
      cases expr with
      | absent => simp [within, Expr.activations, visit]
      | literal value line => simp [within, Expr.activations, visit]
      | group inner =>
          rw [within, ih]
          by_cases fits : inner.activations ≤ room <;> simp [fits, Expr.activations, visit]
      | unary operator operand =>
          rw [within, ih]
          by_cases fits : operand.activations ≤ room <;> simp [fits, Expr.activations, visit]
      | binary left operator right =>
          rw [within, along_eq ih, Expr.activations_binary]
          simp only [Nat.add_le_add_iff_right]

/-- Evaluation as a visitor. -/
def evaluation : Visitor (Except Failure Value) where
  absent := .error .absentExpression
  literal value := .ok (value.getD .nil)
  group inner := inner
  unary operator operand :=
    match operand with
    | .ok value => operator.applyUnary value
    | .error failure => .error failure
  binary left operator right :=
    match left with
    | .ok leftValue =>
        match right with
        | .ok rightValue => operator.applyBinary leftValue rightValue
        | .error failure => .error failure
    | .error failure => .error failure

/-- Printing the prefix form as a visitor. -/
def printing : Visitor Text where
  absent := []
  literal := Expr.literalForm
  group inner := text "(group " ++ inner ++ text ")"
  unary operator operand := text "(" ++ operator.lexeme ++ text " " ++ operand ++ text ")"
  binary left operator right :=
    text "(" ++ operator.lexeme ++ text " " ++ left ++ text " " ++ right ++ text ")"

theorem visit_evaluation (expr : Expr) : evaluation.visit expr = expr.eval := by
  rw [Expr.eval_eq_meaning]
  induction expr with
  | absent => rfl
  | literal value line => rfl
  | group inner ih => exact ih
  | unary operator operand ih =>
      rw [visit, ih]
      rfl
  | binary left operator right leftIh rightIh =>
      rw [visit, leftIh, rightIh]
      rfl

theorem visit_printing (expr : Expr) : printing.visit expr = expr.form := by
  rw [Expr.form_eq_bracketed]
  induction expr with
  | absent => rfl
  | literal value line => cases value <;> rfl
  | group inner ih => simp only [visit, printing, Expr.bracketed, ← ih]
  | unary operator operand ih => simp only [visit, printing, Expr.bracketed, ← ih]
  | binary left operator right leftIh rightIh =>
      simp only [visit, printing, Expr.bracketed, ← leftIh, ← rightIh]

end Visitor

namespace Expr

theorem rank_eq_four_of_not_isInfix {expr : Expr} (noInfix : expr.isInfix = false) :
    expr.rank = 4 := by
  cases expr with
  | binary left operator right => cases noInfix
  | _ => rfl

/-- Each level of nesting leaves room for the four tiers, and a tree of a tighter tier takes less of
its last level. -/
theorem TierShaped.activations_add_rank_le {expr : Expr} (shaped : expr.TierShaped) :
    expr.activations + expr.rank ≤ 5 * expr.nesting + 5 := by
  induction shaped with
  | literal value line => simp [activations, rank, nesting]
  | group innerShaped ih =>
      simp only [activations, rank, nesting]
      omega
  | unary known operandShaped operandRank ih =>
      simp only [activations, rank, nesting]
      omega
  | @binary left right operator tier known leftShaped leftRank rightShaped rightRank leftIh
      rightIh =>
      rw [rank_binary known]
      simp only [activations, nesting]
      cases isInfix : left.isInfix with
      | true =>
          simp only [if_true]
          omega
      | false =>
          have leftAlone := rank_eq_four_of_not_isInfix isInfix
          have := tier.rank_lt_four
          simp only [Bool.false_eq_true, if_false]
          omega

/-- A tree can be evaluated and printed with room for so many activations at a time. -/
structure Shallow (room : Nat) (expr : Expr) : Prop where
  activations_le : expr.activations ≤ room
  evaluates : Visitor.evaluation.within room expr = some expr.eval
  prints : Visitor.printing.within room expr = some expr.form

theorem SpelledBy.shallow {limit : Nat} {expr : Expr} {tokens : List Token}
    (spelled : expr.SpelledBy limit tokens) : expr.Shallow (5 * (limit + 1)) := by
  have bound := spelled.shaped.activations_add_rank_le
  have nests := spelled.nests
  have fits : expr.activations ≤ 5 * (limit + 1) := by omega
  refine ⟨fits, ?_, ?_⟩
  · rw [Visitor.within_eq, if_pos fits, Visitor.visit_evaluation]
  · rw [Visitor.within_eq, if_pos fits, Visitor.visit_printing]

end Expr

namespace Program

/-- Evaluation and printing nest as deep as the depth limit allows, whatever the length of the
program: what is read under a depth limit, as a program or as one expression, takes at most five
activations for each level that the limit allows and five more. -/
theorem activations_bounded (limit : Nat) (tokens : List Token) :
    (∀ read, ofTokens limit tokens = .ok read →
      ∀ statement ∈ read, ∃ expr, statement.expr? = some expr ∧ expr.Shallow (5 * (limit + 1))) ∧
    (∀ statement ∈ (recover limit tokens).1,
      ∃ expr, statement.expr? = some expr ∧ expr.Shallow (5 * (limit + 1))) ∧
    ∀ expr, Expr.ofTokens limit tokens = .ok expr → expr.Shallow (5 * (limit + 1)) := by
  have recovered : ∀ statement ∈ (recover limit tokens).1,
      ∃ expr, statement.expr? = some expr ∧ expr.Shallow (5 * (limit + 1)) := by
    intro statement member
    rcases spelledWithin_of_mem_recover statement member with ⟨expr, spelling, isExpr, spelled, -⟩
    exact ⟨expr, isExpr, spelled.shallow⟩
  refine ⟨?_, recovered, ?_⟩
  · intro read isRead statement member
    rw [ofTokens_eq_recover] at isRead
    split at isRead
    · cases isRead
      exact recovered statement member
    · cases isRead
  · intro expr isRead
    rcases Expr.spelledBy_of_ofTokens isRead with ⟨spelling, spelled, -⟩
    exact spelled.shallow

/-- An expression that takes all the activations that depth one allows. -/
def steepest : List Token :=
  (Scan.ofSource (text "0 == 0 < 0 + 0 * (0 == 0 < 0 + 0 * 0);")).tokens

theorem activations_bounded_steepest :
    (∃ read statement, ofTokens 1 steepest = .ok read ∧ statement ∈ read ∧
      ∃ expr, statement.expr? = some expr ∧ expr.Shallow (5 * (1 + 1))) ∧
    (∃ statement ∈ (recover 1 steepest).1,
      ∃ expr, statement.expr? = some expr ∧ expr.Shallow (5 * (1 + 1))) ∧
    ∃ expr, Expr.ofTokens 1 steepest = .ok expr ∧ expr.activations = 5 * (1 + 1) ∧
      expr.Shallow (5 * (1 + 1)) := by
  rcases activations_bounded 1 steepest with ⟨ofProgram, ofRecovered, ofExpression⟩
  have length : (ofTokens 1 steepest).toOption.map List.length = some 1 ∧
      (recover 1 steepest).1 ≠ [] := by decide +kernel
  have found : (Expr.ofTokens 1 steepest).toOption.map Expr.activations = some 10 := by
    decide +kernel
  refine ⟨?_, ?_, ?_⟩
  · cases isRead : ofTokens 1 steepest with
    | error fault =>
        rw [isRead] at length
        cases length.1
    | ok read =>
        rw [isRead] at length
        rcases List.length_eq_one_iff.mp (Option.some.inj length.1) with ⟨statement, rfl⟩
        exact ⟨_, statement, rfl, .head _, ofProgram _ isRead statement (.head _)⟩
  · rcases List.exists_mem_of_ne_nil _ length.2 with ⟨statement, member⟩
    exact ⟨statement, member, ofRecovered statement member⟩
  · cases isRead : Expr.ofTokens 1 steepest with
    | error fault =>
        rw [isRead] at found
        cases found
    | ok expr =>
        rw [isRead] at found
        exact ⟨expr, rfl, Option.some.inj found, ofExpression expr isRead⟩

end Program

end Scriptlet
