import Scriptlet.Expr.Basic
import Scriptlet.Total

/-!
# Prefix forms

The fully parenthesised prefix form of an expression. `Expr.form` assembles it from a list of
pieces, unfolding one level of a tree at a time, so that neither a long chain of operators nor deep
nesting needs a stack.
-/

namespace Scriptlet

namespace Expr

/-- The text of a literal; one without a value shows as nothing does. -/
def literalForm (value : Option Value) : Text :=
  (value.getD .nil).inspect

/-- A part of a prefix form: text, or a tree still to be unfolded. -/
inductive Piece where
  | words (content : Text)
  | tree (expr : Expr)

/-- One level of a prefix form. -/
def pieces : Expr → List Piece
  | .absent => []
  | .literal value _ => [.words (literalForm value)]
  | .group inner => [.words (text "(group "), .tree inner, .words (text ")")]
  | .unary operator operand =>
      [.words (text "(" ++ operator.lexeme ++ text " "), .tree operand, .words (text ")")]
  | .binary left operator right =>
      [.words (text "(" ++ operator.lexeme ++ text " "), .tree left, .words (text " "),
        .tree right, .words (text ")")]

/-- Bounds the pieces that unfolding a tree takes. -/
def formWeight : Expr → Nat
  | .absent => 1
  | .literal _ _ => 2
  | .group inner => inner.formWeight + 3
  | .unary _ operand => operand.formWeight + 3
  | .binary left _ right => left.formWeight + right.formWeight + 4

/-- Bounds the steps that a piece takes. -/
def Piece.weight : Piece → Nat
  | .words _ => 1
  | .tree expr => expr.formWeight

theorem total_weight_pieces (expr : Expr) :
    total Piece.weight expr.pieces < expr.formWeight := by
  cases expr <;> simp [pieces, Piece.weight, formWeight] <;> omega

/-- Writes pieces out behind the text written so far, which is kept latest first. -/
def assemble : List Piece → List Text → Text
  | [], written => written.reverse.flatten
  | .words content :: rest, written => assemble rest (content :: written)
  | .tree expr :: rest, written => assemble (expr.pieces ++ rest) written
termination_by pieces => total Piece.weight pieces
decreasing_by
  · simp [Piece.weight]
  · have := total_weight_pieces expr
    simp only [total_append, total_cons, Piece.weight]
    omega

/-- The prefix form of an expression. -/
def form (expr : Expr) : Text :=
  assemble [.tree expr] []

end Expr

end Scriptlet
