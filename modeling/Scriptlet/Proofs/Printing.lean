import Scriptlet.Expr.Form

/-!
# Prefix forms by recursion

A prefix form is assembled from a list of pieces, without recursion over the tree. What comes out is
the plain recursion over the tree, `Expr.bracketed`, for every tree and every lexeme of an operator.
What is assembled first stands first, so the form of a tree can be split off from what is assembled
behind it.

Along a left spine the recursion can be turned into two loops: one opens the operators from the
outermost to the innermost, and one closes them in the other order, each with its right operand.
-/

namespace Scriptlet.Expr

theorem assemble_eq_append (pieces : List Piece) (written : List Text) :
    assemble pieces written = written.reverse.flatten ++ assemble pieces [] := by
  have independent :
      ∃ out, ∀ written, assemble pieces written = written.reverse.flatten ++ out := by
    induction pieces, written using assemble.induct with
    | case1 written => exact ⟨[], fun written => by simp [assemble]⟩
    | case2 content rest written ih =>
        rcases ih with ⟨out, assembled⟩
        exact ⟨content ++ out, fun written => by simp [assemble, assembled]⟩
    | case3 expr rest written ih =>
        rcases ih with ⟨out, assembled⟩
        exact ⟨out, fun written => by rw [assemble, assembled]⟩
  rcases independent with ⟨out, assembled⟩
  rw [assembled written, assembled []]
  rfl

theorem assemble_append (front back : List Piece) (written : List Text) :
    assemble (front ++ back) written = assemble front written ++ assemble back [] := by
  induction front, written using assemble.induct with
  | case1 written =>
      rw [List.nil_append, assemble_eq_append]
      simp [assemble]
  | case2 content rest written ih => rw [List.cons_append, assemble, ih, assemble]
  | case3 expr rest written ih =>
      rw [List.cons_append, assemble, ← List.append_assoc, ih, assemble]

theorem assemble_nil : assemble [] [] = [] := by
  rw [assemble]
  rfl

theorem assemble_words (content : Text) (rest : List Piece) :
    assemble (.words content :: rest) [] = content ++ assemble rest [] := by
  rw [assemble, assemble_eq_append]
  simp

theorem assemble_tree (expr : Expr) (rest : List Piece) :
    assemble (.tree expr :: rest) [] = expr.form ++ assemble rest [] :=
  assemble_append [.tree expr] rest []

theorem form_eq (expr : Expr) : expr.form = assemble expr.pieces [] := by
  rw [form, assemble, List.append_nil]

/-- The prefix form of a tree, by recursion. A missing tree has no text, and a literal without a
value is shown as nothing is. -/
def bracketed : Expr → Text
  | .absent => []
  | .literal none _ => text "nil"
  | .literal (some value) _ => value.inspect
  | .group inner => text "(group " ++ inner.bracketed ++ text ")"
  | .unary operator operand =>
      text "(" ++ operator.lexeme ++ text " " ++ operand.bracketed ++ text ")"
  | .binary left operator right =>
      text "(" ++ operator.lexeme ++ text " " ++ left.bracketed ++ text " " ++ right.bracketed ++
        text ")"

theorem form_eq_bracketed (expr : Expr) : expr.form = expr.bracketed := by
  induction expr with
  | absent => rw [form_eq, pieces, assemble_nil, bracketed]
  | literal value line =>
      rw [form_eq, pieces, assemble_words, assemble_nil, List.append_nil]
      cases value <;> rfl
  | group inner ih =>
      rw [form_eq, pieces, bracketed, ← ih]
      simp [assemble_words, assemble_tree, assemble_nil]
  | unary operator operand ih =>
      rw [form_eq, pieces, bracketed, ← ih]
      simp [assemble_words, assemble_tree, assemble_nil]
  | binary left operator right leftIh rightIh =>
      rw [form_eq, pieces, bracketed, ← leftIh, ← rightIh]
      simp [assemble_words, assemble_tree, assemble_nil]

/-- The operators along the left spine of a tree with their right operands, the outermost first. -/
def spine : Expr → List (Token × Expr)
  | .binary left operator right => (operator, right) :: left.spine
  | _ => []

/-- The tree at the end of the left spine. -/
def innermost : Expr → Expr
  | .binary left _ _ => left.innermost
  | expr => expr

/-- Opens an operator of a spine. -/
def opened (level : Token × Expr) : Text :=
  text "(" ++ level.1.lexeme ++ text " "

/-- Closes an operator of a spine behind its right operand. -/
def closed (level : Token × Expr) : Text :=
  text " " ++ level.2.form ++ text ")"

theorem form_eq_along_spine (expr : Expr) :
    expr.form =
      expr.spine.flatMap opened ++ expr.innermost.form ++ expr.spine.reverse.flatMap closed := by
  induction expr with
  | binary left operator right leftIh rightIh =>
      rw [form_eq_bracketed, bracketed, ← form_eq_bracketed left, ← form_eq_bracketed right, leftIh]
      simp [spine, innermost, opened, closed]
  | _ => simp [spine, innermost]

/-- Prefix forms are the recursion over the tree. Along a left spine this comes to opening all its
operators, writing what stands at its end, and closing the operators from there outwards. -/
theorem form_is_recursive (expr : Expr) :
    expr.form = expr.bracketed ∧
      expr.form =
        expr.spine.flatMap opened ++ expr.innermost.form ++ expr.spine.reverse.flatMap closed :=
  ⟨expr.form_eq_bracketed, expr.form_eq_along_spine⟩

end Scriptlet.Expr
