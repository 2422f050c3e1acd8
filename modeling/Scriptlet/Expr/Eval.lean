import Scriptlet.Expr.Basic
import Scriptlet.Number.Numeral
import Scriptlet.Total

/-!
# Evaluation

Expressions are evaluated from left to right by a machine: `Expr.enter` goes down into a tree and
`Expr.resume` hands a finished value to the innermost operator that waits for one. What waits is a
list of frames, so the length of a program never costs stack. The operators themselves are
`Token.applyUnary` and `Token.applyBinary`.
-/

namespace Scriptlet

namespace Token

/-- A runtime fault at an operator. -/
def refuse (operator : Token) (cause : Cause) : Except Failure Value :=
  .error (.fault (.atToken operator cause))

/-- The fault of an operator that takes no such operands. -/
def refuseOperands (operator : Token) (left right : Value) : Except Failure Value :=
  operator.refuse (.invalidOperands operator.lexeme left right)

/-- Applies a prefix operator. Minus of anything but a number is nothing, and plus reads a number
from a text. -/
def applyUnary (operator : Token) (operand : Value) : Except Failure Value :=
  match operator.kind with
  | .minus =>
      match operand with
      | .number amount => .ok (.number amount.neg)
      | _ => .ok .nil
  | .bang | .keyword .notWord => .ok (.bool (!operand.isTruthy))
  | .plus =>
      match operand with
      | .string content =>
          match Numeral.decimal? content with
          | some amount => .ok (.number amount)
          | none => operator.refuse (.unreadableNumber operand)
      | _ => operator.refuse (.invalidOperand operand)
  | _ => operator.refuse (.unsupportedUnary operator.lexeme)

/-- Applies an operator that takes two numbers. -/
def applyNumeric (operator : Token) (combine : Number → Number → Value) (left right : Value) :
    Except Failure Value :=
  match left, right with
  | .number leftAmount, .number rightAmount => .ok (combine leftAmount rightAmount)
  | _, _ => operator.refuseOperands left right

/-- Whether two values of one kind are equal; values of different kinds and nothing cannot be
compared. -/
def equal? (left right : Value) : Option Bool :=
  match left, right with
  | .number leftAmount, .number rightAmount => some (leftAmount.same rightAmount)
  | .string leftContent, .string rightContent => some (leftContent = rightContent)
  | .bool leftTruth, .bool rightTruth => some (leftTruth = rightTruth)
  | _, _ => none

/-- Applies an equality test, after which `adjust` may turn the answer round. -/
def applyEquality (operator : Token) (adjust : Bool → Bool) (left right : Value) :
    Except Failure Value :=
  match equal? left right with
  | some equal => .ok (.bool (adjust equal))
  | none => operator.refuseOperands left right

/-- Applies a containment test, after which `adjust` may turn the answer round. -/
def applyContainment (operator : Token) (adjust : Bool → Bool) (left right : Value) :
    Except Failure Value :=
  match left, right with
  | .string part, .string whole => .ok (.bool (adjust (whole.includes part)))
  | _, _ => operator.refuseOperands left right

/-- Applies an infix operator. -/
def applyBinary (operator : Token) (left right : Value) : Except Failure Value :=
  match operator.kind with
  | .plus =>
      match left, right with
      | .string leftContent, .string rightContent => .ok (.string (leftContent ++ rightContent))
      | _, _ => operator.applyNumeric (fun x y => .number (x.add y)) left right
  | .minus => operator.applyNumeric (fun x y => .number (x.sub y)) left right
  | .star => operator.applyNumeric (fun x y => .number (x.mul y)) left right
  | .slash => operator.applyNumeric (fun x y => .number (x.div y)) left right
  | .greater => operator.applyNumeric (fun x y => .bool (y.lt x)) left right
  | .greaterEqual => operator.applyNumeric (fun x y => .bool (y.le x)) left right
  | .less => operator.applyNumeric (fun x y => .bool (x.lt y)) left right
  | .lessEqual => operator.applyNumeric (fun x y => .bool (x.le y)) left right
  | .equalEqual => operator.applyEquality id left right
  | .bangEqual => operator.applyEquality not left right
  | .keyword .inWord => operator.applyContainment id left right
  | .bangIn => operator.applyContainment not left right
  | _ => operator.refuse (.unsupportedBinary operator.lexeme)

end Token

namespace Expr

/-- An operator that waits for an operand to be evaluated. -/
inductive Frame where
  | awaitsOperand (operator : Token)
  | awaitsLeft (operator : Token) (right : Expr)
  | awaitsRight (left : Value) (operator : Token)

/-- Bounds the steps that evaluating a tree takes. -/
def evalWeight : Expr → Nat
  | .absent => 1
  | .literal _ _ => 1
  | .group inner => inner.evalWeight + 1
  | .unary _ operand => operand.evalWeight + 2
  | .binary left _ right => left.evalWeight + right.evalWeight + 3

/-- Bounds the steps that a waiting operator still takes. -/
def Frame.weight : Frame → Nat
  | .awaitsOperand _ => 1
  | .awaitsLeft _ right => right.evalWeight + 2
  | .awaitsRight _ _ => 1

/-- Bounds the steps that all waiting operators still take. -/
def waiting (frames : List Frame) : Nat :=
  total Frame.weight frames

mutual

/-- Evaluates a tree and hands its value to the waiting operators. -/
def enter (expr : Expr) (frames : List Frame) : Except Failure Value :=
  match expr with
  | .absent => .error .absentExpression
  | .literal value _ => resume (value.getD .nil) frames
  | .group inner => enter inner frames
  | .unary operator operand => enter operand (.awaitsOperand operator :: frames)
  | .binary left operator right => enter left (.awaitsLeft operator right :: frames)
termination_by expr.evalWeight + waiting frames
decreasing_by
  all_goals simp [waiting, evalWeight, Frame.weight]
  all_goals omega

/-- Hands a value to the operator that waits for it. -/
def resume (value : Value) (frames : List Frame) : Except Failure Value :=
  match frames with
  | [] => .ok value
  | .awaitsOperand operator :: rest =>
      match operator.applyUnary value with
      | .ok result => resume result rest
      | .error failure => .error failure
  | .awaitsLeft operator right :: rest => enter right (.awaitsRight value operator :: rest)
  | .awaitsRight left operator :: rest =>
      match operator.applyBinary left value with
      | .ok result => resume result rest
      | .error failure => .error failure
termination_by waiting frames
decreasing_by
  all_goals simp [waiting, Frame.weight]
  all_goals omega

end

/-- Evaluates an expression. -/
def eval (expr : Expr) : Except Failure Value :=
  enter expr []

end Expr

end Scriptlet
