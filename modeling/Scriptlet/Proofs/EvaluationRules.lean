import Scriptlet.Proofs.Evaluation
import Scriptlet.Proofs.Grammar.Basic
import Scriptlet.Proofs.Text.Lines

/-!
# The rules of evaluation

What an expression evaluates to, said by rules instead of a program. `Combines` lists what the infix
operators make of two values, `Token.Unary` and `Token.Binary` add what is refused, and
`Expr.Evaluates` evaluates operands from left to right: an operator is applied only to operands that
both have a value, and the first failure is the failure of the whole. Trees may be built by hand, so
there are rules for missing operands, for literals without a value and for unknown operators.

Evaluation follows the rules, and the rules allow nothing else. What the rules call the sum of two
numbers is their exact sum, rounded once, by `Number.rounds_add`, and so are the other results of
arithmetic.
-/

namespace Scriptlet

/-- What negation makes of a value. Nothing counts as false, and of the texts only the empty one
counts as true. -/
inductive Value.Negates : Value → Bool → Prop where
  | nil : Negates .nil true
  | bool (truth : Bool) : Negates (.bool truth) (!truth)
  | number (amount : Number) : Negates (.number amount) false
  | emptyText : Negates (.string []) false
  | text {content : Text} (filled : content ≠ []) : Negates (.string content) true

/-- Whether two values are equal, for the values that can be compared: two of one kind, and never
nothing. -/
inductive Value.Compares : Value → Value → Bool → Prop where
  | numbers (left right : Number) : Compares (.number left) (.number right) (left.same right)
  | texts {left right : Text} {equal : Bool} (holds : equal ↔ left = right) :
      Compares (.string left) (.string right) equal
  | truths {left right : Bool} {equal : Bool} (holds : equal ↔ left = right) :
      Compares (.bool left) (.bool right) equal

/-- What an infix operator makes of two values that it takes. -/
inductive Combines : TokenKind → Value → Value → Value → Prop where
  | sum (left right : Number) :
      Combines .plus (.number left) (.number right) (.number (left.add right))
  | joint (front back : Text) :
      Combines .plus (.string front) (.string back) (.string (front ++ back))
  | difference (left right : Number) :
      Combines .minus (.number left) (.number right) (.number (left.sub right))
  | product (left right : Number) :
      Combines .star (.number left) (.number right) (.number (left.mul right))
  | quotient (left right : Number) :
      Combines .slash (.number left) (.number right) (.number (left.div right))
  | greater (left right : Number) :
      Combines .greater (.number left) (.number right) (.bool (right.lt left))
  | greaterEqual (left right : Number) :
      Combines .greaterEqual (.number left) (.number right) (.bool (right.le left))
  | less (left right : Number) :
      Combines .less (.number left) (.number right) (.bool (left.lt right))
  | lessEqual (left right : Number) :
      Combines .lessEqual (.number left) (.number right) (.bool (left.le right))
  | equal {left right : Value} {equal : Bool} (compared : left.Compares right equal) :
      Combines .equalEqual left right (.bool equal)
  | unequal {left right : Value} {equal : Bool} (compared : left.Compares right equal) :
      Combines .bangEqual left right (.bool (!equal))
  | within {part whole : Text} {inside : Bool} (holds : inside ↔ part <:+: whole) :
      Combines (.keyword .inWord) (.string part) (.string whole) (.bool inside)
  | outside {part whole : Text} {inside : Bool} (holds : inside ↔ part <:+: whole) :
      Combines .bangIn (.string part) (.string whole) (.bool (!inside))

namespace Token

/-- What a prefix operator makes of a value. Minus of anything but a number is nothing; plus reads a
number from a text. -/
inductive Unary (operator : Token) : Value → Except Failure Value → Prop where
  | minus (amount : Number) (kind : operator.kind = .minus) :
      Unary operator (.number amount) (.ok (.number amount.neg))
  | minusOther {operand : Value} (kind : operator.kind = .minus)
      (other : ∀ amount, operand ≠ .number amount) : Unary operator operand (.ok .nil)
  | negation {operand : Value} {truth : Bool}
      (kind : operator.kind = .bang ∨ operator.kind = .keyword .notWord)
      (negates : operand.Negates truth) : Unary operator operand (.ok (.bool truth))
  | plus {content : Text} {amount : Number} (kind : operator.kind = .plus)
      (reads : Numeral.decimal? content = some amount) :
      Unary operator (.string content) (.ok (.number amount))
  | unreadable {content : Text} (kind : operator.kind = .plus)
      (unread : Numeral.decimal? content = none) :
      Unary operator (.string content)
        (.error (.fault (.atToken operator (.unreadableNumber (.string content)))))
  | plusOther {operand : Value} (kind : operator.kind = .plus)
      (other : ∀ content, operand ≠ .string content) :
      Unary operator operand (.error (.fault (.atToken operator (.invalidOperand operand))))
  | unknown {operand : Value} (unknown : operator.kind ∉ unaryOperators) :
      Unary operator operand
        (.error (.fault (.atToken operator (.unsupportedUnary operator.lexeme))))

/-- What an infix operator makes of two values: what it combines them to, if it takes them. -/
inductive Binary (operator : Token) : Value → Value → Except Failure Value → Prop where
  | combined {left right value : Value} (combines : Combines operator.kind left right value) :
      Binary operator left right (.ok value)
  | refused {left right : Value} {tier : Tier} (known : operator.kind ∈ tier.operators)
      (unfit : ∀ value, ¬Combines operator.kind left right value) :
      Binary operator left right
        (.error (.fault (.atToken operator (.invalidOperands operator.lexeme left right))))
  | unknown {left right : Value} (unknown : ∀ tier : Tier, operator.kind ∉ tier.operators) :
      Binary operator left right
        (.error (.fault (.atToken operator (.unsupportedBinary operator.lexeme))))

end Token

/-- What an expression evaluates to. -/
inductive Expr.Evaluates : Expr → Except Failure Value → Prop where
  | absent : Evaluates .absent (.error .absentExpression)
  | literal (value : Value) (line : Int) : Evaluates (.literal (some value) line) (.ok value)
  | emptyLiteral (line : Int) : Evaluates (.literal none line) (.ok .nil)
  | group {inner : Expr} {result : Except Failure Value} (evaluates : inner.Evaluates result) :
      Evaluates (.group inner) result
  | unary {operator : Token} {operand : Expr} {value : Value} {result : Except Failure Value}
      (evaluates : operand.Evaluates (.ok value)) (applied : operator.Unary value result) :
      Evaluates (.unary operator operand) result
  | operandFails {operator : Token} {operand : Expr} {failure : Failure}
      (fails : operand.Evaluates (.error failure)) :
      Evaluates (.unary operator operand) (.error failure)
  | binary {left right : Expr} {operator : Token} {leftValue rightValue : Value}
      {result : Except Failure Value} (leftEvaluates : left.Evaluates (.ok leftValue))
      (rightEvaluates : right.Evaluates (.ok rightValue))
      (applied : operator.Binary leftValue rightValue result) :
      Evaluates (.binary left operator right) result
  | leftFails {left right : Expr} {operator : Token} {failure : Failure}
      (fails : left.Evaluates (.error failure)) :
      Evaluates (.binary left operator right) (.error failure)
  | rightFails {left right : Expr} {operator : Token} {leftValue : Value} {failure : Failure}
      (leftEvaluates : left.Evaluates (.ok leftValue))
      (fails : right.Evaluates (.error failure)) :
      Evaluates (.binary left operator right) (.error failure)

theorem Value.negates_iff {value : Value} {truth : Bool} :
    value.Negates truth ↔ truth = !value.isTruthy := by
  constructor
  · intro negates
    cases negates with
    | text filled => simp [isTruthy, filled]
    | _ => rfl
  · rintro rfl
    rcases value with _ | truth | amount | (_ | ⟨byte, rest⟩)
    · exact .nil
    · exact .bool truth
    · exact .number amount
    · exact .emptyText
    · exact .text (List.cons_ne_nil byte rest)

theorem Value.compares_iff {left right : Value} {equal : Bool} :
    left.Compares right equal ↔ Token.equal? left right = some equal := by
  constructor
  · intro compares
    cases compares with
    | numbers left right => rfl
    | texts holds => simp [Token.equal?, ← holds]
    | truths holds => simp [Token.equal?, ← holds]
  · intro compared
    unfold Token.equal? at compared
    split at compared
    · cases compared
      exact .numbers _ _
    · cases compared
      exact .texts (by simp)
    · cases compared
      exact .truths (by simp)
    · cases compared

theorem Combines.known {kind : TokenKind} {left right value : Value}
    (combines : Combines kind left right value) : ∃ tier : Tier, kind ∈ tier.operators := by
  have found : (Tier.ofKind? kind).isSome := by cases combines <;> rfl
  rcases Option.isSome_iff_exists.mp found with ⟨tier, isTier⟩
  exact ⟨tier, Tier.ofKind?_eq_some_iff.mp isTier⟩

namespace Token

theorem applyUnary_eq_of_unary {operator : Token} {operand : Value}
    {result : Except Failure Value} (applied : operator.Unary operand result) :
    operator.applyUnary operand = result := by
  cases applied with
  | minus amount kind => simp [applyUnary, kind]
  | minusOther kind other => cases operand <;> simp_all [applyUnary]
  | negation kind negates =>
      rw [Value.negates_iff] at negates
      rcases kind with kind | kind <;> simp [applyUnary, kind, negates]
  | plus kind reads => simp [applyUnary, kind, reads]
  | unreadable kind unread => simp [applyUnary, kind, unread, refuse]
  | plusOther kind other => cases operand <;> simp_all [applyUnary, refuse]
  | unknown unknown =>
      unfold applyUnary
      split <;> simp_all [unaryOperators, refuse]

theorem unary_applyUnary (operator : Token) (operand : Value) :
    operator.Unary operand (operator.applyUnary operand) := by
  unfold applyUnary
  split
  · rename_i kind
    cases operand with
    | number amount => exact .minus amount kind
    | _ => exact .minusOther kind (by simp)
  · rename_i kind
    exact .negation (.inl kind) (Value.negates_iff.mpr rfl)
  · rename_i kind
    exact .negation (.inr kind) (Value.negates_iff.mpr rfl)
  · rename_i kind
    cases operand with
    | string content =>
        dsimp only
        split
        · rename_i amount reads
          exact .plus kind reads
        · rename_i unread
          exact .unreadable kind unread
    | _ => exact .plusOther kind (by simp)
  · exact .unknown (by simp_all [unaryOperators])

theorem applyBinary_eq_of_combines {operator : Token} {left right value : Value}
    (combines : Combines operator.kind left right value) :
    operator.applyBinary left right = .ok value := by
  generalize same : operator.kind = kind at combines
  cases combines with
  | equal compared => simp [applyBinary, same, applyEquality, Value.compares_iff.mp compared]
  | unequal compared => simp [applyBinary, same, applyEquality, Value.compares_iff.mp compared]
  | @within part whole inside holds =>
      have found : whole.includes part = inside := by
        rw [Bool.eq_iff_iff, Text.includes_iff, holds]
      simp [applyBinary, same, applyContainment, found]
  | @outside part whole inside holds =>
      have found : whole.includes part = inside := by
        rw [Bool.eq_iff_iff, Text.includes_iff, holds]
      simp [applyBinary, same, applyContainment, found]
  | _ => simp [applyBinary, same, applyNumeric]

theorem binary_refuseOperands {operator : Token} {tier : Tier} {left right : Value}
    (known : operator.kind ∈ tier.operators)
    (refuses : operator.applyBinary left right = operator.refuseOperands left right) :
    operator.Binary left right (operator.refuseOperands left right) := by
  refine .refused known ?_
  intro value combines
  rw [applyBinary_eq_of_combines combines] at refuses
  cases refuses

section Families

variable {operator : Token} {left right : Value} {result : Except Failure Value}
  (applies : operator.applyBinary left right = result)

include applies

theorem binary_of_applyNumeric {combine : Number → Number → Value} {tier : Tier}
    (applied : operator.applyNumeric combine left right = result)
    (known : operator.kind ∈ tier.operators)
    (numbers : ∀ x y, Combines operator.kind (.number x) (.number y) (combine x y)) :
    operator.Binary left right result := by
  unfold applyNumeric at applied
  split at applied
  · rw [← applied]
    exact .combined (numbers _ _)
  · rw [← applied] at applies ⊢
    exact binary_refuseOperands known applies

theorem binary_of_applyEquality {adjust : Bool → Bool}
    (applied : operator.applyEquality adjust left right = result)
    (known : operator.kind ∈ Tier.equality.operators)
    (compared : ∀ equal, left.Compares right equal →
      Combines operator.kind left right (.bool (adjust equal))) :
    operator.Binary left right result := by
  unfold applyEquality at applied
  split at applied
  · rename_i equal found
    rw [← applied]
    exact .combined (compared equal (Value.compares_iff.mpr found))
  · rw [← applied] at applies ⊢
    exact binary_refuseOperands known applies

theorem binary_of_applyContainment {adjust : Bool → Bool}
    (applied : operator.applyContainment adjust left right = result)
    (known : operator.kind ∈ Tier.comparison.operators)
    (contained : ∀ part whole (inside : Bool), (inside ↔ part <:+: whole) →
      Combines operator.kind (.string part) (.string whole) (.bool (adjust inside))) :
    operator.Binary left right result := by
  unfold applyContainment at applied
  split at applied
  · rw [← applied]
    exact .combined (contained _ _ _ Text.includes_iff)
  · rw [← applied] at applies ⊢
    exact binary_refuseOperands known applies

end Families

theorem binary_applyBinary (operator : Token) (left right : Value) :
    operator.Binary left right (operator.applyBinary left right) := by
  generalize applies : operator.applyBinary left right = result
  have applied := applies
  have knows {kind : TokenKind} {tier : Tier} (same : operator.kind = kind)
      (found : Tier.ofKind? kind = some tier) : operator.kind ∈ tier.operators :=
    Tier.ofKind?_eq_some_iff.mp (same ▸ found)
  unfold applyBinary at applied
  split at applied <;> rename_i kind
  · split at applied
    · rw [← applied]
      exact .combined (kind ▸ .joint _ _)
    · exact binary_of_applyNumeric applies applied (knows kind rfl) (kind ▸ .sum)
  · exact binary_of_applyNumeric applies applied (knows kind rfl) (kind ▸ .difference)
  · exact binary_of_applyNumeric applies applied (knows kind rfl) (kind ▸ .product)
  · exact binary_of_applyNumeric applies applied (knows kind rfl) (kind ▸ .quotient)
  · exact binary_of_applyNumeric applies applied (knows kind rfl) (kind ▸ .greater)
  · exact binary_of_applyNumeric applies applied (knows kind rfl) (kind ▸ .greaterEqual)
  · exact binary_of_applyNumeric applies applied (knows kind rfl) (kind ▸ .less)
  · exact binary_of_applyNumeric applies applied (knows kind rfl) (kind ▸ .lessEqual)
  · exact binary_of_applyEquality applies applied (knows kind rfl)
      fun _ found => kind ▸ .equal found
  · exact binary_of_applyEquality applies applied (knows kind rfl)
      fun _ found => kind ▸ .unequal found
  · exact binary_of_applyContainment applies applied (knows kind rfl)
      fun _ _ _ holds => kind ▸ .within holds
  · exact binary_of_applyContainment applies applied (knows kind rfl)
      fun _ _ _ holds => kind ▸ .outside holds
  · rw [← applied]
    refine .unknown ?_
    intro tier
    cases tier <;> simp_all [Tier.operators]

theorem applyBinary_eq_of_binary {operator : Token} {left right : Value}
    {result : Except Failure Value} (applied : operator.Binary left right result) :
    operator.applyBinary left right = result := by
  have follows := operator.binary_applyBinary left right
  generalize applies : operator.applyBinary left right = other at follows
  cases applied with
  | combined combines => rw [← applies, applyBinary_eq_of_combines combines]
  | refused known unfit =>
      cases follows with
      | combined combines => exact absurd combines (unfit _)
      | refused => rfl
      | unknown unknown => exact absurd known (unknown _)
  | unknown unknown =>
      cases follows with
      | combined combines =>
          rcases combines.known with ⟨tier, known⟩
          exact absurd known (unknown tier)
      | refused known unfit => exact absurd known (unknown _)
      | unknown => rfl

end Token

namespace Expr

theorem evaluates_meaning (expr : Expr) : expr.Evaluates expr.meaning := by
  induction expr with
  | absent => exact .absent
  | literal value line =>
      cases value with
      | none => exact .emptyLiteral line
      | some value => exact .literal value line
  | group inner ih => exact .group ih
  | unary operator operand ih =>
      rw [meaning]
      generalize operand.meaning = result at ih
      cases result with
      | error failure => exact .operandFails ih
      | ok value => exact .unary ih (operator.unary_applyUnary value)
  | binary left operator right leftIh rightIh =>
      rw [meaning]
      generalize left.meaning = leftResult, right.meaning = rightResult at leftIh rightIh
      cases leftResult with
      | error failure => exact .leftFails leftIh
      | ok leftValue =>
          cases rightResult with
          | error failure => exact .rightFails leftIh rightIh
          | ok rightValue =>
              exact .binary leftIh rightIh (operator.binary_applyBinary leftValue rightValue)

theorem meaning_eq_of_evaluates {expr : Expr} {result : Except Failure Value}
    (evaluates : expr.Evaluates result) : expr.meaning = result := by
  induction evaluates with
  | absent => rfl
  | literal value line => rfl
  | emptyLiteral line => rfl
  | group evaluates ih => exact ih
  | unary evaluates applied ih =>
      simp only [meaning, ih, Token.applyUnary_eq_of_unary applied]
  | operandFails fails ih => simp only [meaning, ih]
  | binary leftEvaluates rightEvaluates applied leftIh rightIh =>
      simp only [meaning, leftIh, rightIh, Token.applyBinary_eq_of_binary applied]
  | leftFails fails ih => simp only [meaning, ih]
  | rightFails leftEvaluates fails leftIh ih => simp only [meaning, leftIh, ih]

/-- Evaluating an expression gives what the recursion over its tree gives, and this is the one
result that the rules of evaluation allow. -/
theorem eval_follows_rules (expr : Expr) :
    expr.eval = expr.meaning ∧
      ∀ result, expr.eval = result ↔ expr.Evaluates result := by
  refine ⟨expr.eval_eq_meaning, ?_⟩
  intro result
  rw [eval_eq_meaning]
  constructor
  · rintro rfl
    exact expr.evaluates_meaning
  · exact meaning_eq_of_evaluates

end Expr

end Scriptlet
