import Scriptlet.Expr.Form

/-!
# Statements

A program is a list of statements: expressions to print, and expressions to evaluate for their
faults alone.
-/

namespace Scriptlet

/-- A statement; one built by hand may be missing. -/
inductive Statement where
  | absent
  | print (expr : Expr) (line : Int)
  | expression (expr : Expr)
  deriving DecidableEq

namespace Statement

/-- The line of a statement: that of its keyword, or of its expression. -/
def line : Statement → Int
  | .absent => 0
  | .print _ line => line
  | .expression expr => expr.line

/-- The prefix form of a statement. -/
def form : Statement → Text
  | .absent => []
  | .print expr _ => text "(print " ++ expr.form ++ text ")"
  | .expression expr => text "(expr " ++ expr.form ++ text ")"

end Statement

end Scriptlet
