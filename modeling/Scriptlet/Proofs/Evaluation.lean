import Scriptlet.Expr.Eval

/-!
# Evaluation by recursion

Expressions are evaluated by a machine with a list of waiting operators. Its meaning is the plain
recursion over the tree: left operand, right operand, operator, and the first failure on the way
ends it. The statement is generalised over the operators that wait around the tree.
-/

namespace Scriptlet.Expr

/-- What an expression evaluates to, by recursion over its tree. -/
def meaning : Expr → Except Failure Value
  | .absent => .error .absentExpression
  | .literal value _ => .ok (value.getD .nil)
  | .group inner => inner.meaning
  | .unary operator operand =>
      match operand.meaning with
      | .ok value => operator.applyUnary value
      | .error failure => .error failure
  | .binary left operator right =>
      match left.meaning with
      | .ok leftValue =>
          match right.meaning with
          | .ok rightValue => operator.applyBinary leftValue rightValue
          | .error failure => .error failure
      | .error failure => .error failure

/-- The machine evaluates a tree before it hands the value to what waits. -/
theorem enter_eq (expr : Expr) (frames : List Frame) :
    enter expr frames =
      match expr.meaning with
      | .ok value => resume value frames
      | .error failure => .error failure := by
  induction expr generalizing frames with
  | absent => rw [enter, meaning]
  | literal value line => rw [enter, meaning]
  | group inner ih => rw [enter, meaning, ih]
  | unary operator operand ih =>
      rw [enter, meaning, ih]
      cases operand.meaning with
      | error failure => rfl
      | ok value =>
          cases applied : operator.applyUnary value with
          | error failure => simp only [resume, applied]
          | ok result => simp only [resume, applied]
  | binary left operator right leftIh rightIh =>
      rw [enter, meaning, leftIh]
      cases left.meaning with
      | error failure => rfl
      | ok leftValue =>
          dsimp only
          rw [resume, rightIh]
          cases right.meaning with
          | error failure => rfl
          | ok rightValue =>
              cases applied : operator.applyBinary leftValue rightValue with
              | error failure => simp only [resume, applied]
              | ok result => simp only [resume, applied]

theorem eval_eq_meaning (expr : Expr) : expr.eval = expr.meaning := by
  rw [eval, enter_eq]
  cases expr.meaning with
  | error failure => rfl
  | ok value =>
      dsimp only
      rw [resume]

end Scriptlet.Expr
