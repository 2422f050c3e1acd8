import Scriptlet.Fault

/-!
# Expressions

Expression trees. Reading a source only builds complete trees; a tree built by hand may lack
children and literal values, which is why there is an absent expression and a literal may hold no
value.
-/

namespace Scriptlet

/-- An expression tree. -/
inductive Expr where
  | absent
  | literal (value : Option Value) (line : Int)
  | group (inner : Expr)
  | unary (operator : Token) (operand : Expr)
  | binary (left : Expr) (operator : Token) (right : Expr)
  deriving DecidableEq, Inhabited

namespace Expr

/-- The line of an expression: that of its operator or literal, looked up inside groups. -/
def line : Expr → Int
  | .absent => 0
  | .literal _ line => line
  | .group inner => inner.line
  | .unary operator _ => operator.line
  | .binary _ operator _ => operator.line

end Expr

end Scriptlet
