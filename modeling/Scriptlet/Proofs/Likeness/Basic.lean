import Mathlib.Data.List.Forall2
import Scriptlet.Program.Reading

/-!
# Likeness

Two sources can differ in layout and still be read and run alike. A `Likeness` says which tokens
correspond to each other: they must be of one kind, and their literals and lines must correspond.
Everything that is built from tokens then corresponds as well, and this file lifts a likeness to
trees, statements, faults and failures. `Likeness.upToLines` is the closest one that forgets where
things stand.
-/

namespace Scriptlet

/-- Results that both succeed or both fail, with corresponding values or failures. -/
inductive Concur {Failed Value : Type} (failures : Failed → Failed → Prop)
    (values : Value → Value → Prop) : Except Failed Value → Except Failed Value → Prop where
  | ok {value other : Value} (succeeded : values value other) :
      Concur failures values (.ok value) (.ok other)
  | error {failure other : Failed} (failed : failures failure other) :
      Concur failures values (.error failure) (.error other)

/-- Which tokens, lines and literal values correspond to each other. -/
structure Likeness where
  token : Token → Token → Prop
  line : Int → Int → Prop
  value : Value → Value → Prop
  kind_eq : ∀ {one other : Token}, token one other → one.kind = other.kind
  line_of_token : ∀ {one other : Token}, token one other → line one.line other.line
  literal_of_token : ∀ {one other : Token}, token one other →
    Option.Rel value one.literal other.literal
  value_of_word : ∀ named ∈ [Value.nil, .bool false, .bool true], value named named

/-- Tokens correspond that differ in their lines only. -/
def Likeness.upToLines : Likeness where
  token one other :=
    one.kind = other.kind ∧ one.lexeme = other.lexeme ∧ one.literal = other.literal
  line _ _ := True
  value := Eq
  kind_eq same := same.1
  line_of_token _ := trivial
  literal_of_token {one other} same := by
    rw [same.2.2]
    cases other.literal with
    | none => exact .none
    | some value => exact .some rfl
  value_of_word _ _ := rfl

theorem Likeness.kinds_eq (likeness : Likeness) {tokens others : List Token}
    (correspond : List.Forall₂ likeness.token tokens others) :
    tokens.map Token.kind = others.map Token.kind := by
  induction correspond with
  | nil => rfl
  | cons head tail ih => rw [List.map_cons, List.map_cons, likeness.kind_eq head, ih]

variable (likeness : Likeness)

/-- Trees of one shape, with corresponding operators and literals. -/
inductive Expr.Alike : Expr → Expr → Prop where
  | absent : Alike .absent .absent
  | literal {value otherValue : Option Value} {line otherLine : Int}
      (values : Option.Rel likeness.value value otherValue)
      (lines : likeness.line line otherLine) :
      Alike (.literal value line) (.literal otherValue otherLine)
  | group {inner otherInner : Expr} (inside : Alike inner otherInner) :
      Alike (.group inner) (.group otherInner)
  | unary {operator otherOperator : Token} {operand otherOperand : Expr}
      (operators : likeness.token operator otherOperator)
      (operands : Alike operand otherOperand) :
      Alike (.unary operator operand) (.unary otherOperator otherOperand)
  | binary {operator otherOperator : Token} {left otherLeft right otherRight : Expr}
      (lefts : Alike left otherLeft) (operators : likeness.token operator otherOperator)
      (rights : Alike right otherRight) :
      Alike (.binary left operator right) (.binary otherLeft otherOperator otherRight)

inductive Statement.Alike : Statement → Statement → Prop where
  | absent : Alike .absent .absent
  | print {expr otherExpr : Expr} {line otherLine : Int} (exprs : expr.Alike likeness otherExpr)
      (lines : likeness.line line otherLine) : Alike (.print expr line) (.print otherExpr otherLine)
  | expression {expr otherExpr : Expr} (exprs : expr.Alike likeness otherExpr) :
      Alike (.expression expr) (.expression otherExpr)

/-- Faults of one cause at corresponding places. -/
structure Fault.Alike (one other : Fault) : Prop where
  causes : one.cause = other.cause
  lines : likeness.line one.line other.line
  tokens : Option.Rel likeness.token one.token other.token

inductive Failure.Alike : Failure → Failure → Prop where
  | fault {one other : Fault} (found : one.Alike likeness other) : Alike (.fault one) (.fault other)
  | faults {ones others : List Fault} (found : List.Forall₂ (Fault.Alike likeness) ones others) :
      Alike (.faults ones) (.faults others)
  | outside {failure : Failure} (faultless : failure.faults? = none) : Alike failure failure

variable {likeness}

theorem Fault.Alike.atToken {one other : Token} (tokens : likeness.token one other)
    (cause : Cause) : Alike likeness (.atToken one cause) (.atToken other cause) where
  causes := rfl
  lines := likeness.line_of_token tokens
  tokens := .some tokens

theorem Failure.ofFaults?_alike {ones others : List Fault}
    (found : List.Forall₂ (Fault.Alike likeness) ones others) :
    Option.Rel (Failure.Alike likeness) (ofFaults? ones) (ofFaults? others) := by
  cases found with
  | nil => exact .none
  | cons head tail =>
      cases tail with
      | nil => exact .some (.fault head)
      | cons second rest => exact .some (.faults (.cons head (.cons second rest)))

/-- A token without its line. -/
def Token.unnumbered (token : Token) : Token :=
  { token with line := 0 }

/-- A fault without the lines in it. -/
def Fault.unnumbered (fault : Fault) : Fault :=
  { fault with line := 0, token := fault.token.map Token.unnumbered }

/-- A failure without the lines in it. -/
def Failure.unnumbered : Failure → Failure
  | .fault found => .fault found.unnumbered
  | .faults found => .faults (found.map Fault.unnumbered)
  | .within context failure => .within context failure.unnumbered
  | failure => failure

theorem Likeness.upToLines_iff {one other : Token} :
    upToLines.token one other ↔ one.unnumbered = other.unnumbered := by
  simp [upToLines, Token.unnumbered]

theorem Fault.unnumbered_eq_of_alike {one other : Fault}
    (alike : one.Alike Likeness.upToLines other) : one.unnumbered = other.unnumbered := by
  rcases one with ⟨cause, line, token⟩
  rcases other with ⟨otherCause, otherLine, otherToken⟩
  rcases alike with ⟨rfl, -, tokens⟩
  cases tokens with
  | none => rfl
  | some same => simp [unnumbered, Likeness.upToLines_iff.mp same]

theorem Failure.unnumbered_eq_of_alike {one other : Failure}
    (alike : one.Alike Likeness.upToLines other) : one.unnumbered = other.unnumbered := by
  cases alike with
  | fault found => simp [unnumbered, Fault.unnumbered_eq_of_alike found]
  | outside faultless => rfl
  | faults found =>
      simp only [unnumbered, faults.injEq]
      induction found with
      | nil => rfl
      | cons head tail ih =>
          rw [List.map_cons, List.map_cons, Fault.unnumbered_eq_of_alike head, ih]

/-- A token that lies a number of lines further down. -/
def Token.shifted (lines : Int) (token : Token) : Token :=
  { token with line := token.line + lines }

/-- A fault that lies a number of lines further down, with its token. -/
def Fault.shifted (lines : Int) (fault : Fault) : Fault :=
  { fault with line := fault.line + lines, token := fault.token.map (Token.shifted lines) }

/-- A failure whose faults lie a number of lines further down. -/
def Failure.shifted (lines : Int) : Failure → Failure
  | .fault found => .fault (found.shifted lines)
  | .faults found => .faults (found.map (Fault.shifted lines))
  | .within context failure => .within context (failure.shifted lines)
  | failure => failure

/-- Tokens correspond to themselves a number of lines further down. -/
def Likeness.shifted (lines : Int) : Likeness where
  token one other := other = one.shifted lines
  line one other := other = one + lines
  value := Eq
  kind_eq moved := by rw [moved]; rfl
  line_of_token moved := by rw [moved]; rfl
  literal_of_token {one other} moved := by
    rw [moved]
    change Option.Rel Eq one.literal one.literal
    cases one.literal with
    | none => exact .none
    | some value => exact .some rfl
  value_of_word _ _ := rfl

theorem Fault.shifted_eq_of_alike {lines : Int} {one other : Fault}
    (alike : one.Alike (Likeness.shifted lines) other) : other = one.shifted lines := by
  rcases one with ⟨cause, line, token⟩
  rcases other with ⟨otherCause, otherLine, otherToken⟩
  rcases alike with ⟨rfl, rfl, tokens⟩
  cases tokens with
  | none => rfl
  | @some token otherToken moved =>
      have same : otherToken = token.shifted lines := moved
      rw [same]
      rfl

theorem Fault.map_shifted_eq_of_alike {lines : Int} {ones others : List Fault}
    (alike : List.Forall₂ (Fault.Alike (Likeness.shifted lines)) ones others) :
    others = ones.map (Fault.shifted lines) := by
  induction alike with
  | nil => rfl
  | cons head tail ih => rw [List.map_cons, ← shifted_eq_of_alike head, ← ih]

theorem Failure.shifted_of_faultless (lines : Int) {failure : Failure}
    (faultless : failure.faults? = none) : failure.shifted lines = failure := by
  induction failure with
  | fault found => cases faultless
  | faults found => cases faultless
  | within context failure ih => rw [shifted, ih faultless]
  | _ => rfl

theorem Failure.shifted_eq_of_alike {lines : Int} {one other : Failure}
    (alike : one.Alike (Likeness.shifted lines) other) : other = one.shifted lines := by
  cases alike with
  | fault found => rw [shifted, Fault.shifted_eq_of_alike found]
  | faults found => rw [shifted, Fault.map_shifted_eq_of_alike found]
  | outside faultless => exact (shifted_of_faultless lines faultless).symm

end Scriptlet
