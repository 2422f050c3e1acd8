import Mathlib.Data.List.Induction
import Scriptlet.Proofs.Evaluation
import Scriptlet.Proofs.Number.Overflow
import Scriptlet.Proofs.Scanning.Written

/-!
# Texts that plus reads

Unary plus reads a number from a text. It succeeds exactly on the numerals of the grammar, gives the
number nearest to what the numeral denotes, an infinity if there is none, and gives a number literal
its own value.

That only the first five significant digits of an exponent count can show in long texts only. In
what 8000 digits can write, an exponent of 10000 already leaves nothing but an infinity or a zero.
-/

namespace Scriptlet

namespace Decimal

/-- Above this exponent every decimal is too large, unless it is zero. -/
theorem round_far_up (negative : Bool) (digits : Nat) {exponent : Int} (far : 1024 ≤ exponent) :
    round negative ⟨digits, exponent⟩ =
      if digits = 0 then .zero negative else .infinite negative := by
  have noShift : (-exponent).toNat = 0 := by omega
  by_cases vanishes : digits = 0
  · rw [if_pos vanishes]
    apply round_eq_zero
    simp [vanishes]
  · rw [if_neg vanishes, round_eq_infinite_iff]
    have enough : 54 + Number.lastPlace ≤ exponent.toNat := by
      unfold Number.lastPlace
      omega
    simp only [TooLarge, noShift, Nat.pow_eq, Nat.pow_zero, Nat.mul_one]
    generalize Number.lastPlace = last at enough
    calc (2 ^ 54 - 1) * 2 ^ last ≤ 2 ^ 54 * 2 ^ last := Nat.mul_le_mul_right _ (Nat.sub_le _ _)
      _ = 2 ^ (54 + last) := (Nat.pow_add 2 54 last).symm
      _ ≤ 10 ^ (54 + last) := Nat.pow_le_pow_left (by decide) _
      _ ≤ 10 ^ exponent.toNat := Nat.pow_le_pow_right (by decide) enough
      _ ≤ digits * 10 ^ exponent.toNat := Nat.le_mul_of_pos_left _ (Nat.pos_of_ne_zero vanishes)

/-- Below this exponent a decimal of so many digits is nearest to zero. -/
theorem round_far_down (negative : Bool) {digits count : Nat} {exponent : Int}
    (short : digits < 10 ^ count) (far : exponent + count + 1100 ≤ 0) :
    round negative ⟨digits, exponent⟩ = .zero negative := by
  have noShift : exponent.toNat = 0 := by omega
  have enough : count + (unitPlaces + 1) ≤ (-exponent).toNat := by
    unfold unitPlaces
    omega
  apply round_eq_zero
  unfold one
  generalize unitPlaces = places at enough
  simp only [noShift, Nat.pow_eq, Nat.pow_zero, Nat.mul_one]
  calc 2 * (digits * 2 ^ places) = digits * 2 ^ (places + 1) := by ring
    _ ≤ 10 ^ count * 10 ^ (places + 1) :=
        Nat.mul_le_mul (Nat.le_of_lt short) (Nat.pow_le_pow_left (by decide) _)
    _ = 10 ^ (count + (places + 1)) := (Nat.pow_add 10 count (places + 1)).symm
    _ ≤ 10 ^ (-exponent).toNat := Nat.pow_le_pow_right (by decide) enough

end Decimal

namespace Numeral

theorem digitValue_le {digit : UInt8} (isDigit : Numeral.isDigit digit) : digitValue digit ≤ 9 := by
  have bounds := isDigit_iff.mp isDigit
  simp only [digitValue, isDigit, if_true]
  omega

theorem ofDigits_concat (digits : Text) (digit : UInt8) :
    ofDigits 10 (digits ++ [digit]) = ofDigits 10 digits * 10 + digitValue digit := by
  simp [ofDigits, List.foldl_append]

theorem saturating_concat (digits : Text) (digit : UInt8) :
    saturating (digits ++ [digit]) =
      if saturating digits < 10000 then saturating digits * 10 + digitValue digit
      else saturating digits := by
  rw [saturating, List.foldl_append]
  rfl

theorem ofDigits_lt {digits : Text} (areDigits : ∀ digit ∈ digits, isDigit digit) :
    ofDigits 10 digits < 10 ^ digits.length := by
  induction digits using List.reverseRecOn with
  | nil => decide
  | append_singleton front digit ih =>
      rw [List.forall_mem_append, List.forall_mem_singleton] at areDigits
      have value := digitValue_le areDigits.2
      have less := ih areDigits.1
      rw [ofDigits_concat, List.length_append, List.length_singleton, Nat.pow_succ]
      omega

/-- Digits are counted as they are, or both what they are and what they count is large. -/
theorem saturating_cases {digits : Text} (areDigits : ∀ digit ∈ digits, isDigit digit) :
    (saturating digits = ofDigits 10 digits ∧ ofDigits 10 digits < 100000) ∨
      (10000 ≤ saturating digits ∧ 100000 ≤ ofDigits 10 digits) := by
  induction digits using List.reverseRecOn with
  | nil => decide
  | append_singleton front digit ih =>
      rw [List.forall_mem_append, List.forall_mem_singleton] at areDigits
      have value := digitValue_le areDigits.2
      rw [ofDigits_concat, saturating_concat]
      rcases ih areDigits.1 with ⟨same, small⟩ | ⟨counted, large⟩
      · by_cases few : saturating front < 10000
        · left
          rw [if_pos few]
          omega
        · right
          rw [if_neg few]
          omega
      · right
        rw [if_neg (Nat.not_lt.mpr counted)]
        omega

theorem Mantissa.length_le {mantissa digits : Text} {places : Nat}
    (isMantissa : Mantissa mantissa digits places) :
    digits.length ≤ mantissa.length ∧ places ≤ mantissa.length := by
  cases isMantissa with
  | whole starts areDigits => exact ⟨Nat.le_refl _, Nat.zero_le _⟩
  | pointed starts areDigits arePlaces =>
      simp only [List.length_append, List.length_cons]
      omega

theorem Mantissa.areDigits {mantissa digits : Text} {places : Nat}
    (isMantissa : Mantissa mantissa digits places) : ∀ digit ∈ digits, isDigit digit := by
  cases isMantissa with
  | whole starts areDigits => exact areDigits
  | pointed starts areDigits arePlaces => exact List.forall_mem_append.mpr ⟨areDigits, arePlaces⟩

/-- In short texts, exponents beyond what is counted make no difference. -/
theorem Spells.value_of_short {source : Text} {numeral : Numeral}
    (spells : Spells (ofDigits 10) source numeral) (short : source.length ≤ 8000) :
    ∃ counted, Spells saturating source counted ∧ counted.value = numeral.value := by
  cases spells with
  | infinite signed isWord => exact ⟨_, .infinite signed isWord, rfl⟩
  | nan isWord => exact ⟨_, .nan isWord, rfl⟩
  | @decimal sign mantissa power digits negative places exponent signed isMantissa isExponent =>
      cases isExponent with
      | none => exact ⟨_, .decimal signed isMantissa .none, rfl⟩
      | @written letter own count downward isLetter ownSigned starts areDigits =>
          have isCounted : Exponent saturating _ _ := .written isLetter ownSigned starts areDigits
          refine ⟨_, .decimal signed isMantissa isCounted, ?_⟩
          rcases saturating_cases areDigits with ⟨same, -⟩ | ⟨counted, large⟩
          · rw [same]
          · have lengths := isMantissa.length_le
            have below := ofDigits_lt isMantissa.areDigits
            simp only [List.length_append] at short
            cases downward with
            | false =>
                simp only [value, Bool.false_eq_true, if_false]
                rw [Decimal.round_far_up negative _ (by omega),
                  Decimal.round_far_up negative _ (by omega)]
            | true =>
                simp only [value, if_true]
                rw [Decimal.round_far_down negative below (by omega),
                  Decimal.round_far_down negative below (by omega)]

end Numeral

namespace Expr

theorem eval_plus {operator : Token} (plus : operator.kind = .plus) {operand : Expr}
    {content : Text} (evaluates : operand.eval = .ok (.string content)) (number : Number) :
    (unary operator operand).eval = .ok (.number number) ↔
      Numeral.decimal? content = some number := by
  rw [eval_eq_meaning] at evaluates ⊢
  rw [meaning, evaluates]
  simp only [Token.applyUnary, plus]
  cases Numeral.decimal? content with
  | none => simp [Token.refuse]
  | some found => simp

/-- What plus gives is a number. -/
theorem exists_number_of_eval_plus {operator : Token} (plus : operator.kind = .plus)
    {operand : Expr} {content : Text} (evaluates : operand.eval = .ok (.string content))
    {value : Value} (succeeds : (unary operator operand).eval = .ok value) :
    ∃ number, value = .number number := by
  rw [eval_eq_meaning] at evaluates succeeds
  rw [meaning, evaluates] at succeeds
  simp only [Token.applyUnary, plus] at succeeds
  cases read : Numeral.decimal? content with
  | none =>
      rw [read] at succeeds
      cases succeeds
  | some found =>
      rw [read] at succeeds
      cases succeeds
      exact ⟨found, rfl⟩

/-- The tree evaluates to the number nearest to what a numeral denotes, which is the infinity of its
sign exactly if the numeral is a decimal too large for the finite numbers. -/
structure EvaluatesTo (expr : Expr) (numeral : Numeral) : Prop where
  nearest : expr.eval = .ok (.number numeral.value)
  infinite_iff : ∀ negative magnitude, numeral = .decimal negative magnitude →
    (expr.eval = .ok (.number (.infinite negative)) ↔ magnitude.TooLarge)

theorem evaluatesTo_of_eval {expr : Expr} {numeral : Numeral}
    (evaluates : expr.eval = .ok (.number numeral.value)) : expr.EvaluatesTo numeral := by
  refine ⟨evaluates, ?_⟩
  rintro negative magnitude rfl
  rw [evaluates, ← Decimal.round_eq_infinite_iff negative]
  simp [Numeral.value]

/-- Unary plus succeeds on a text exactly if the text is a decimal numeral, a word for infinity or
the word for what is not a number. It gives the nearest number, and the infinity of the sign if the
decimal is too large; and it gives the lexeme of a number token the number that the token carries.
In a text of up to 8000 bytes that holds with the exponent as it is written, too. -/
theorem plus_reads_numerals {operator : Token} (plus : operator.kind = .plus) {operand : Expr}
    {content : Text} (evaluates : operand.eval = .ok (.string content)) :
    ((∃ value, (unary operator operand).eval = .ok value) ↔
      ∃ numeral, Numeral.Spells Numeral.saturating content numeral) ∧
    (∀ numeral, Numeral.Spells Numeral.saturating content numeral →
      (unary operator operand).EvaluatesTo numeral) ∧
    (content.length ≤ 8000 → ∀ numeral, Numeral.Spells (Numeral.ofDigits 10) content numeral →
      (unary operator operand).EvaluatesTo numeral) ∧
    ∀ source, ∀ token ∈ (Scan.ofSource source).tokens, token.kind = .number →
      token.lexeme = content →
        ∃ numeral, Numeral.ofText? content = some numeral ∧
          token.literal = some (.number numeral.value) ∧
          (unary operator operand).eval = .ok (.number numeral.value) := by
  have reads : ∀ numeral, Numeral.Spells Numeral.saturating content numeral →
      (unary operator operand).eval = .ok (.number numeral.value) := by
    intro numeral spells
    rw [eval_plus plus evaluates, Numeral.decimal?_eq_some_iff]
    exact ⟨numeral, spells, rfl⟩
  refine ⟨⟨?_, ?_⟩, ?_, ?_, ?_⟩
  · rintro ⟨value, succeeds⟩
    rcases exists_number_of_eval_plus plus evaluates succeeds with ⟨number, rfl⟩
    rw [eval_plus plus evaluates, Numeral.decimal?_eq_some_iff] at succeeds
    rcases succeeds with ⟨numeral, spells, -⟩
    exact ⟨numeral, spells⟩
  · rintro ⟨numeral, spells⟩
    exact ⟨_, reads numeral spells⟩
  · intro numeral spells
    exact evaluatesTo_of_eval (reads numeral spells)
  · intro short numeral spells
    rcases spells.value_of_short short with ⟨counted, spellsToo, same⟩
    apply evaluatesTo_of_eval
    rw [← same]
    exact reads counted spellsToo
  · intro source token member isNumber isLexeme
    have written := Scan.written_of_mem_tokens token member
    cases written with
    | number plain line =>
        subst isLexeme
        have isRead := plain.decimal?
        rcases Numeral.decimal?_eq_some_iff.mp isRead with ⟨numeral, spells, same⟩
        rw [← same]
        exact ⟨numeral, spells.read.2.2, rfl, reads numeral spells⟩
    | word known line =>
        have noNumber : ∀ entry ∈ vocabulary, entry.1 ≠ .number := by decide
        exact absurd isNumber (noNumber _ known)
    | identifier lexeme line => cases isNumber
    | string unquoted line => cases isNumber
    | ending line => cases isNumber

/-- The prefix operator that reads numbers. -/
def plusMark : Token :=
  { kind := .plus, lexeme := text "+", line := 1 }

/-- Reads a number from a text. -/
def reading (content : Text) : Expr :=
  .unary plusMark (.literal (some (.string content)) 1)

theorem eval_literal (value : Value) (line : Int) :
    (literal (some value) line).eval = .ok value := by
  rw [eval_eq_meaning]
  rfl

theorem plus_reads_numerals_largeAndLiteral :
    (reading (text "-1e999")).eval = .ok (.number (.infinite true)) ∧
      ∃ numeral, Numeral.ofText? (text "12.50") = some numeral ∧
        (reading (text "12.50")).eval = .ok (.number numeral.value) := by
  have isPlus : plusMark.kind = .plus := rfl
  constructor
  · have spells : Numeral.Spells Numeral.saturating (text "-1e999") (.decimal true ⟨1, 999⟩) :=
      Numeral.spells_of_read (by decide +kernel) (by decide +kernel) (by decide +kernel)
    rcases plus_reads_numerals isPlus (eval_literal (.string (text "-1e999")) 1) with
      ⟨-, reads, -, -⟩
    exact ((reads _ spells).infinite_iff true ⟨1, 999⟩ rfl).mpr (by decide +kernel)
  · have scanned : ∃ token ∈ (Scan.ofSource (text "12.50")).tokens,
        token.kind = .number ∧ token.lexeme = text "12.50" := by decide +kernel
    rcases scanned with ⟨token, member, isNumber, isLexeme⟩
    rcases plus_reads_numerals isPlus (eval_literal (.string (text "12.50")) 1) with
      ⟨-, -, -, literals⟩
    rcases literals _ token member isNumber isLexeme with ⟨numeral, read, -, evaluates⟩
    exact ⟨numeral, read, evaluates⟩

end Expr

end Scriptlet
