import Scriptlet.Proofs.Grammar.Completeness
import Scriptlet.Proofs.Number.Reading
import Scriptlet.Proofs.Number.Words
import Scriptlet.Proofs.Reading.Runs
import Scriptlet.Proofs.Scanning.Spacing

/-!
# Numbers read back from their texts

The text of a number can be read in two ways, by unary plus and as a source. Plus reads the texts of
all numbers, signs and words included. A source knows unsigned digits only, so that a negative
number, or negative zero, is a number token behind a minus, and there is no literal for an infinity.
Both ways give back the number, and so its bits.

A text is printed with a digit on each side of the point. That is what makes it a single token.
-/

namespace Scriptlet

open Glyph

namespace Text

theorem glyphs_of_ascii {source : Text} (ascii : ∀ item ∈ source, item < 0x80) :
    source.glyphs = source.map fun item => char (Char.ofNat item.toNat) := by
  induction source with
  | nil => rfl
  | cons item rest ih =>
      rw [List.forall_mem_cons] at ascii
      have later := ih ascii.2
      rw [glyphs_eq_glyphsFrom] at later ⊢
      rw [glyphsFrom_cons_of_ascii ascii.1, later]
      rfl

end Text

namespace Numeral

theorem lt_of_isDigit {item : UInt8} (digit : isDigit item) : item < 0x80 := by
  have bounds := isDigit_iff.mp digit
  rw [UInt8.lt_iff_toNat_lt]
  simp only [UInt8.toNat_ofNat]
  omega

theorem isDigit_char {item : UInt8} (digit : isDigit item) :
    (char (Char.ofNat item.toNat)).isDigit := by
  have bounds := isDigit_iff.mp digit
  generalize item.toNat = code at bounds
  have digits : ∀ code < 58, 48 ≤ code → (char (Char.ofNat code)).isDigit := by decide
  exact digits code (by omega) bounds.1

theorem forall_isDigit_map {digits : Text} (areDigits : ∀ digit ∈ digits, isDigit digit) :
    ∀ glyph ∈ digits.map fun item => char (Char.ofNat item.toNat), glyph.isDigit := by
  intro glyph member
  rcases List.mem_map.mp member with ⟨digit, inDigits, rfl⟩
  exact isDigit_char (areDigits digit inDigits)

/-- A plain numeral that does not end in its point is a number token. -/
theorem Plain.lexeme {source : Text} {decimal : Decimal} (plain : Plain source decimal)
    (ends : ∀ front, source ≠ front ++ [byte '.']) : Lexeme .number source.glyphs := by
  have ascii : ∀ item ∈ source, item < 0x80 := by
    intro item member
    rcases plain.isDigit_or_point item member with digit | rfl
    · exact lt_of_isDigit digit
    · decide
  rw [Text.glyphs_of_ascii ascii]
  cases plain with
  | whole starts areDigits =>
      rcases List.exists_cons_of_ne_nil starts with ⟨first, rest, rfl⟩
      rw [List.forall_mem_cons] at areDigits
      exact .whole (isDigit_char areDigits.1) (forall_isDigit_map areDigits.2)
  | @fraction digits places starts areDigits arePlaces =>
      rcases List.exists_cons_of_ne_nil starts with ⟨first, rest, rfl⟩
      cases places with
      | nil => exact absurd rfl (ends _)
      | cons place more =>
          rw [List.forall_mem_cons] at areDigits arePlaces
          rw [List.map_append]
          exact .fraction (isDigit_char areDigits.1) (forall_isDigit_map areDigits.2)
            (isDigit_char arePlaces.1) (forall_isDigit_map arePlaces.2)

/-- Digits at the end are no point. -/
theorem append_digits_ne {front digits : Text} (starts : digits ≠ [])
    (areDigits : ∀ digit ∈ digits, isDigit digit) (other : Text) :
    front ++ digits ≠ other ++ [byte '.'] := by
  intro same
  have last := congrArg List.getLast? same
  rw [List.getLast?_append_of_ne_nil _ starts, List.getLast?_concat] at last
  have digit := areDigits _ (List.mem_of_getLast? last)
  revert digit
  decide

end Numeral

namespace Decimal

/-- A decimal that is written out ends in a digit. -/
theorem positional_ne (decimal : Decimal) (other : Text) :
    decimal.positional ≠ other ++ [byte '.'] := by
  have areDigits := @Text.isDigit_of_mem_ofNat decimal.digits
  rcases decimal with ⟨digits, power | power⟩
  · have allDigits := List.forall_mem_append.mpr
      ⟨areDigits, @Numeral.isDigit_of_mem_replicate power⟩
    exact @Numeral.append_digits_ne [] _ (by simp [Text.ofNat_ne_nil]) allDigits other
  · simp only [positional]
    split
    · rename_i fits
      rw [List.append_cons]
      apply Numeral.append_digits_ne
      · intro nothing
        rw [List.drop_eq_nil_iff] at nothing
        omega
      · intro digit member
        exact areDigits digit (List.mem_of_mem_drop member)
    · exact Numeral.append_digits_ne (Text.ofNat_ne_nil digits) areDigits other

end Decimal

namespace Number

/-- The text of a finite number without its sign is a number token. -/
theorem lexeme_text (units : Nat) (representable : Representable units) :
    Lexeme .number (finite false units representable).text.glyphs := by
  rcases (Unsigned.finite units representable).text_cases with
    ⟨isInfinite, -⟩ | ⟨decimal, plain, -⟩
  · cases isInfinite
  · apply plain.lexeme
    intro front
    by_cases vanishes : units = 0
    · have zero : (finite false units representable).text = [] ++ [byte '0'] := by
        simp only [Number.text, vanishes, if_true]
        rfl
      rw [zero]
      exact Numeral.append_digits_ne (by decide) (by decide +kernel) front
    · simpa [Number.text, vanishes] using Decimal.positional_ne _ front

end Number

namespace Segment

theorem split_number {glyphs : List Glyph} (isLexeme : Lexeme .number glyphs) :
    split glyphs = [⟨.token .number, glyphs⟩] := by
  have isToken : IsToken ⟨.token .number, glyphs⟩ := ⟨.number, rfl, isLexeme⟩
  have alone := isToken.split_append (.inl rfl)
  rwa [List.append_nil, split] at alone

theorem extent_minus (rest : List Glyph) : extent (char '-') rest = (.token .minus, 0) := by
  have noName : (char '-').startsName = false := by decide +kernel
  have noDigit : (char '-').isDigit = false := by decide
  have isMark : mark? (char '-').scalar = some .minus := rfl
  have others : isBlank (char '-').scalar = false ∧ (char '-').is '!' = false ∧
      (char '-').is '/' = false ∧ (char '-').is '"' = false := by decide
  simp only [extent, noName, noDigit, isMark, others, Bool.false_eq_true, if_false]

theorem split_minus (glyphs : List Glyph) :
    split (char '-' :: glyphs) = ⟨.token .minus, [char '-']⟩ :: split glyphs := by
  rw [split_cons, extent_minus]
  rfl

end Segment

/-- A number token that carries a number. -/
def Token.Carries (token : Token) (number : Number) : Prop :=
  token.kind = .number ∧ token.literal = some (.number number)

namespace Scan

theorem ofSource_number {source : Text} {number : Number}
    (isLexeme : Lexeme .number source.glyphs) (read : Numeral.decimal? source = some number) :
    ∃ token line, token.Carries number ∧ ofSource source = ⟨[token, ending line], []⟩ := by
  rw [ofSource, Segment.split_number isLexeme]
  refine ⟨_, _, ⟨rfl, ?_⟩, rfl⟩
  simp [Segment.literal?, Segment.bytes, Text.join_glyphs, read]

theorem ofSource_minus {source : Text} {number : Number}
    (isLexeme : Lexeme .number source.glyphs) (read : Numeral.decimal? source = some number) :
    ∃ operator token line, operator.kind = .minus ∧ token.Carries number ∧
      ofSource (byte '-' :: source) = ⟨[operator, token, ending line], []⟩ := by
  have glyphs : Text.glyphs (byte '-' :: source) = char '-' :: source.glyphs :=
    Text.glyphsFrom_cons_of_ascii (by decide) [] source
  rw [ofSource, glyphs, Segment.split_minus, Segment.split_number isLexeme]
  refine ⟨_, _, _, rfl, ⟨rfl, ?_⟩, rfl⟩
  simp [Segment.literal?, Segment.bytes, Text.join_glyphs, read]

end Scan

namespace Expr

/-- Tokens that spell a tree are read as that tree when the end of the source follows them. -/
theorem ofTokens_of_spelledBy {limit : Nat} {expr : Expr} {spelling : List Token} {last : Token}
    (spelled : expr.SpelledBy limit spelling) (noEnd : ∀ token ∈ spelling, token.kind ≠ .eof)
    (isEnd : last.kind = .eof) : ofTokens limit (spelling ++ [last]) = .ok expr := by
  have body : (Input.ofTokens (spelling ++ [last])).body = spelling ++ [] := by
    rw [Input.body_append noEnd]
    simp [Input.ofTokens, isEnd]
  rw [ofTokens, body]
  exact read_of_spelledBy spelled (.inl rfl)

theorem spelledBy_number {token : Token} {number : Number} (carries : token.Carries number)
    (limit : Nat) : (literal (some (.number number)) token.line).SpelledBy limit [token] where
  yields := .literal (.carried (.inl carries.1) carries.2)
  shaped := .literal _ _
  nests := Nat.zero_le _

theorem spelledBy_minus {operator token : Token} {number : Number} {limit : Nat}
    (isMinus : operator.kind = .minus) (carries : token.Carries number) (room : 1 ≤ limit) :
    (unary operator (literal (some (.number number)) token.line)).SpelledBy limit
      [operator, token] where
  yields := .unary (spelledBy_number carries limit).yields
  shaped := by
    refine .unary ?_ (.literal _ _) rfl
    rw [isMinus]
    decide
  nests := by simpa [nesting] using room

/-- How the text of a finite number is read: digits are a literal, and a sign is a minus. -/
inductive Denotes : Expr → Number → Prop where
  | unsigned (units : Nat) (representable : Representable units) (line : Int) :
      Denotes (.literal (some (.number (.finite false units representable))) line)
        (.finite false units representable)
  | minus (units : Nat) (representable : Representable units) {operator : Token}
      (isMinus : operator.kind = .minus) (line : Int) :
      Denotes (.unary operator (.literal (some (.number (.finite false units representable))) line))
        (.finite true units representable)

theorem Denotes.eval {expr : Expr} {number : Number} (denotes : Denotes expr number) :
    expr.eval = .ok (.number number) := by
  rw [eval_eq_meaning]
  cases denotes with
  | unsigned units representable line => rfl
  | minus units representable isMinus line =>
      simp only [meaning, Token.applyUnary, isMinus]
      rfl

end Expr

namespace Engine

theorem one_le_depth {setting : Int} {recovers : Bool} {engine : Engine}
    (created : create setting recovers = .ok engine) : 1 ≤ engine.depth := by
  unfold create at created
  split at created
  · cases created
  · cases created
    simp only [depthLimit]
    split
    · decide
    · omega

theorem expression_of_scan {engine : Engine} {source : Text} {spelling : List Token} {line : Nat}
    {expr : Expr} (scanned : Scan.ofSource source = ⟨spelling ++ [Scan.ending line], []⟩)
    (spelled : expr.SpelledBy engine.depth spelling)
    (noEnd : ∀ token ∈ spelling, token.kind ≠ .eof) : engine.expression source = .ok expr := by
  have found : tokens source = .ok (spelling ++ [Scan.ending line]) := by
    rw [tokens_of_faultless (by rw [scanned]), scanned]
  have isEnd : (Scan.ending line).kind = .eof := rfl
  rw [expression, found]
  simp only [Expr.ofTokens_of_spelledBy spelled noEnd isEnd]

theorem exists_denotes {engine : Engine} (room : 1 ≤ engine.depth) (negative : Bool) (units : Nat)
    (representable : Representable units) :
    ∃ expr, engine.expression (Number.finite negative units representable).text = .ok expr ∧
      expr.Denotes (.finite negative units representable) := by
  have isLexeme := Number.lexeme_text units representable
  have read := Number.decimal?_text (.finite false units representable)
  cases negative with
  | false =>
      rcases Scan.ofSource_number isLexeme read with ⟨token, line, carries, scanned⟩
      have noEnd : ∀ other ∈ [token], other.kind ≠ .eof := by simp [carries.1]
      have spelled := Expr.spelledBy_number carries engine.depth
      exact ⟨_, expression_of_scan scanned spelled noEnd, .unsigned units representable _⟩
  | true =>
      rcases Scan.ofSource_minus isLexeme read with
        ⟨operator, token, line, isMinus, carries, scanned⟩
      have noEnd : ∀ other ∈ [operator, token], other.kind ≠ .eof := by simp [isMinus, carries.1]
      have spelled := Expr.spelledBy_minus isMinus carries room
      rw [Number.text_finite_true]
      exact ⟨_, expression_of_scan scanned spelled noEnd, .minus units representable isMinus _⟩

end Engine

/-- Every number is read back from its text, bit by bit. Unary plus reads the texts of all numbers,
and an engine evaluates the texts of the finite ones; a negative number, or negative zero, is then
the minus of a literal. What is not a number has a text, too, and plus reads it as such. -/
theorem Number.text_roundTrips (bits : UInt64) :
    (ofBits bits ≠ .nan → (ofBits bits).toBits = bits) ∧
    (∀ (operator : Token) (operand : Expr), operator.kind = .plus →
      operand.eval = .ok (.string (ofBits bits).text) →
        (Expr.unary operator operand).eval = .ok (.number (ofBits bits))) ∧
    ∀ (negative : Bool) (units : Nat) (representable : Representable units),
      ofBits bits = .finite negative units representable →
        ∀ (setting : Int) (recovers : Bool) (engine : Engine),
          Engine.create setting recovers = .ok engine →
            (∃ expr, engine.expression (ofBits bits).text = .ok expr ∧
              expr.Denotes (ofBits bits)) ∧
            ∀ sink next : Sink, sink.write (ofBits bits).text = .ok next →
              engine.evaluate (ofBits bits).text sink = (next, .ok (.number (ofBits bits))) := by
  refine ⟨toBits_ofBits, ?_, ?_⟩
  · intro operator operand plus evaluates
    rw [Expr.eval_plus plus evaluates, decimal?_text]
  · intro negative units representable isFinite setting recovers engine created
    rw [isFinite]
    rcases Engine.exists_denotes (Engine.one_le_depth created) negative units representable with
      ⟨expr, read, denotes⟩
    refine ⟨⟨expr, read, denotes⟩, ?_⟩
    intro sink next written
    rw [Engine.evaluate, read]
    simp only [Expr.runPrinted, denotes.eval, Value.text, written]

theorem Number.text_roundTrips_negativeZero :
    (ofBits 0x8000000000000000).toBits = 0x8000000000000000 ∧
      (Expr.reading (Scriptlet.text "-0")).eval = .ok (.number (zero true)) ∧
      ∃ next, Engine.evaluate { depth := 1 } (Scriptlet.text "-0") {} =
        (next, .ok (.number (zero true))) := by
  rcases text_roundTrips 0x8000000000000000 with ⟨sameBits, plus, evaluates⟩
  have isZero : ofBits 0x8000000000000000 = zero true := by decide +kernel
  have spelled : (zero true).text = Scriptlet.text "-0" := by decide +kernel
  rw [isZero, spelled] at plus evaluates
  refine ⟨?_, ?_, ?_⟩
  · apply sameBits
    rw [isZero]
    rintro ⟨⟩
  · exact plus _ _ rfl (Expr.eval_literal _ _)
  · have created : Engine.create 1 false = .ok { depth := 1 } := rfl
    have accepted : Sink.write {} (Scriptlet.text "-0") =
        .ok { written := [Scriptlet.text "-0"] } := rfl
    exact ⟨_, (evaluates true 0 representable_zero rfl 1 false _ created).2 _ _ accepted⟩

end Scriptlet
