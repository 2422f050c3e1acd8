import Mathlib.Data.List.TakeWhile
import Mathlib.Tactic.Ring
import Scriptlet.Number.Numeral
import Scriptlet.Proofs.Number.Rounding

/-!
# The text of numbers

Number literals and the texts that numbers without a sign are printed as have one form: decimal
digits, perhaps with a point and more digits. `Numeral.Plain` is that form together with the decimal
it spells. The decimal that a number is printed as rounds to the number.
-/

namespace Scriptlet

namespace Numeral

theorem isDigit_iff {byte : UInt8} : isDigit byte ↔ 48 ≤ byte.toNat ∧ byte.toNat ≤ 57 := by
  simp [isDigit, UInt8.le_iff_toNat_le]

theorem foldl_ofDigits (base value : Nat) (digits : Text) :
    digits.foldl (fun value digit => value * base + digitValue digit) value =
      value * Nat.pow base digits.length + ofDigits base digits := by
  induction digits generalizing value with
  | nil => simp [ofDigits]
  | cons digit rest ih =>
      rw [ofDigits, List.foldl_cons, List.foldl_cons, ih, ih (0 * base + digitValue digit),
        List.length_cons, @Nat.pow_eq _ (_ + 1), Nat.pow_succ, Nat.pow_eq]
      ring

theorem ofDigits_append (base : Nat) (front back : Text) :
    ofDigits base (front ++ back) =
      ofDigits base front * Nat.pow base back.length + ofDigits base back := by
  rw [ofDigits, List.foldl_append, foldl_ofDigits]
  rfl

theorem ofDigits_replicate_zero (base count : Nat) :
    ofDigits base (List.replicate count (byte '0')) = 0 := by
  have zero : digitValue (byte '0') = 0 := by decide
  induction count with
  | zero => rfl
  | succ count ih =>
      rw [List.replicate_succ', ofDigits_append, ih]
      simp [ofDigits, zero]

theorem isDigit_byte {digit : Char} (isDigit : digit.isDigit) :
    Numeral.isDigit (byte digit) ∧ digitValue (byte digit) = digit.toNat - 48 := by
  have bounds : 48 ≤ digit.toNat ∧ digit.toNat ≤ 57 := by
    simpa [Char.isDigit, UInt32.le_iff_toNat_le] using isDigit
  have spelled : (byte digit).toNat = digit.toNat := by
    rw [byte, UInt8.toNat_ofNat']
    omega
  have passes : Numeral.isDigit (byte digit) := isDigit_iff.mpr (by omega)
  exact ⟨passes, by simp [digitValue, passes, spelled]⟩

theorem ofDigits_map_byte {digits : List Char} (areDigits : ∀ digit ∈ digits, digit.isDigit)
    (value : Nat) :
    (digits.map byte).foldl (fun value digit => value * 10 + digitValue digit) value =
      Nat.ofDigitChars 10 digits value := by
  induction digits generalizing value with
  | nil => rfl
  | cons digit rest ih =>
      rw [List.forall_mem_cons] at areDigits
      rw [List.map_cons, List.foldl_cons, ih areDigits.2, Nat.ofDigitChars_cons,
        (isDigit_byte areDigits.1).2, Nat.mul_comm]
      rfl

end Numeral

namespace Text

theorem isDigit_of_mem_ofNat {number : Nat} : ∀ digit ∈ ofNat number, Numeral.isDigit digit := by
  intro digit member
  rcases List.mem_map.mp member with ⟨character, spelled, rfl⟩
  exact (Numeral.isDigit_byte (Nat.isDigit_of_mem_toDigits (by decide) (by decide) spelled)).1

theorem ofNat_ne_nil (number : Nat) : ofNat number ≠ [] := by
  simp [ofNat, Nat.toDigits_ne_nil]

/-- The digits of a natural number spell it. -/
theorem ofDigits_ofNat (number : Nat) : Numeral.ofDigits 10 (ofNat number) = number := by
  rw [Numeral.ofDigits, ofNat, Numeral.ofDigits_map_byte, Nat.ofDigitChars_ten_toDigits]
  intro digit spelled
  exact Nat.isDigit_of_mem_toDigits (by decide) (by decide) spelled

end Text

namespace Numeral

/-- The numerals without sign and exponent, and the decimals they spell. -/
inductive Plain : Text → Decimal → Prop where
  | whole {digits : Text} (starts : digits ≠ []) (areDigits : ∀ digit ∈ digits, isDigit digit) :
      Plain digits ⟨ofDigits 10 digits, 0⟩
  | fraction {digits places : Text} (starts : digits ≠ [])
      (areDigits : ∀ digit ∈ digits, isDigit digit)
      (arePlaces : ∀ digit ∈ places, isDigit digit) :
      Plain (digits ++ byte '.' :: places)
        ⟨ofDigits 10 (digits ++ places), -(places.length : Int)⟩

theorem Plain.exists_cons {source : Text} {decimal : Decimal} (plain : Plain source decimal) :
    ∃ first rest, source = first :: rest ∧ isDigit first := by
  cases plain with
  | whole starts areDigits =>
      rcases List.exists_cons_of_ne_nil starts with ⟨first, rest, rfl⟩
      exact ⟨first, rest, rfl, areDigits first (.head rest)⟩
  | fraction starts areDigits arePlaces =>
      rcases List.exists_cons_of_ne_nil starts with ⟨first, rest, rfl⟩
      exact ⟨first, rest ++ _, rfl, areDigits first (.head rest)⟩

theorem lower_of_isDigit_or_point {item : UInt8} (plain : isDigit item ∨ item = byte '.') :
    lower item = item := by
  rcases plain with digit | rfl
  · have bounds := isDigit_iff.mp digit
    simp [lower, UInt8.le_iff_toNat_le]
    omega
  · decide

theorem isDigit_of_mem_replicate {count : Nat} :
    ∀ digit ∈ List.replicate count (byte '0'), isDigit digit := by
  intro digit member
  rw [List.eq_of_mem_replicate member]
  decide

/-- Zeros behind the digits are worth an exponent. -/
theorem exists_plain_padded (number power : Nat) :
    ∃ other, Plain (Text.ofNat number ++ List.replicate power (byte '0')) other ∧
      ∀ negative, other.round negative = Decimal.round negative ⟨number, .ofNat power⟩ := by
  have areDigits := List.forall_mem_append.mpr
    ⟨@Text.isDigit_of_mem_ofNat number, @isDigit_of_mem_replicate power⟩
  refine ⟨_, .whole (by simp [Text.ofNat_ne_nil]) areDigits, fun negative => ?_⟩
  have whole : (0 : Int) + (0 : Nat) = (0 : Nat) := rfl
  have shifted : Int.ofNat power + (0 : Nat) = power := by simp
  rw [Decimal.round_eq negative whole, Decimal.round_eq negative shifted, ofDigits_append,
    Text.ofDigits_ofNat, ofDigits_replicate_zero, List.length_replicate, Nat.add_zero,
    @Nat.pow_eq 10 0, Nat.pow_zero, Nat.mul_one]

/-- A point among the digits. -/
theorem plain_pointed {number places : Nat} (fits : places < (Text.ofNat number).length) :
    Plain ((Text.ofNat number).take ((Text.ofNat number).length - places) ++
        byte '.' :: (Text.ofNat number).drop ((Text.ofNat number).length - places))
      ⟨number, -(places : Int)⟩ := by
  have starts : (Text.ofNat number).take ((Text.ofNat number).length - places) ≠ [] := by
    simp only [ne_eq, List.take_eq_nil_iff, Text.ofNat_ne_nil, or_false]
    omega
  have count :
      ((Text.ofNat number).drop ((Text.ofNat number).length - places)).length = places := by
    rw [List.length_drop]
    omega
  have plain := Plain.fraction starts
    (fun digit member => Text.isDigit_of_mem_ofNat digit (List.mem_of_mem_take member))
    (fun digit (member : digit ∈ (Text.ofNat number).drop ((Text.ofNat number).length - places)) =>
      Text.isDigit_of_mem_ofNat digit (List.mem_of_mem_drop member))
  rwa [List.take_append_drop, Text.ofDigits_ofNat, count] at plain

/-- A point before all the digits, and zeros that fill the places. -/
theorem plain_filled {number places : Nat} (exceeds : (Text.ofNat number).length ≤ places) :
    Plain (text "0." ++ List.replicate (places - (Text.ofNat number).length) (byte '0') ++
        Text.ofNat number)
      ⟨number, -(places : Int)⟩ := by
  have arePlaces := List.forall_mem_append.mpr
    ⟨@isDigit_of_mem_replicate (places - (Text.ofNat number).length),
      @Text.isDigit_of_mem_ofNat number⟩
  have plain := Plain.fraction (List.cons_ne_nil (byte '0') []) (by decide +kernel) arePlaces
  have worth : ofDigits 10 [byte '0'] = 0 := by decide
  rwa [ofDigits_append, ofDigits_append, ofDigits_replicate_zero, Text.ofDigits_ofNat, worth,
    List.length_append, List.length_replicate, Nat.sub_add_cancel exceeds, Nat.zero_mul,
    Nat.zero_mul, Nat.zero_add, Nat.zero_add] at plain

/-- A decimal written out is a plain numeral, of a decimal that rounds to the same number. -/
theorem exists_plain_positional (decimal : Decimal) :
    ∃ other, Plain decimal.positional other ∧
      ∀ negative, other.round negative = decimal.round negative := by
  rcases decimal with ⟨number, power | power⟩
  · exact exists_plain_padded number power
  · refine ⟨⟨number, .negSucc power⟩, ?_, fun _ => rfl⟩
    simp only [Decimal.positional]
    split
    · rename_i fits
      exact plain_pointed fits
    · rename_i exceeds
      exact plain_filled (Nat.le_of_not_lt exceeds)

end Numeral

namespace Number

/-- The numbers that literals denote: without a sign, perhaps beyond every finite number. -/
inductive Unsigned : Number → Prop where
  | infinite : Unsigned (.infinite false)
  | finite (units : Nat) (representable : Representable units) :
      Unsigned (.finite false units representable)

theorem Unsigned.ofRatio (numerator denominator : Nat) :
    Unsigned (Number.ofRatio false numerator denominator) := by
  rw [Number.ofRatio]
  split
  · exact .finite _ _
  · exact .infinite

theorem Unsigned.round (decimal : Decimal) : Unsigned (decimal.round false) := by
  rw [Decimal.round]
  split
  · exact Unsigned.ofRatio _ _
  · exact Unsigned.ofRatio _ _

theorem Unsigned.text_cases {number : Number} (unsigned : Unsigned number) :
    (number = .infinite false ∧ number.text = Scriptlet.text "inf") ∨
      ∃ decimal, Numeral.Plain number.text decimal ∧ decimal.round false = number := by
  cases unsigned with
  | infinite => exact .inl ⟨rfl, rfl⟩
  | finite units representable =>
      right
      by_cases vanishes : units = 0
      · subst vanishes
        have plain := Numeral.Plain.whole (List.cons_ne_nil (byte '0') []) (by decide +kernel)
        refine ⟨_, plain, ?_⟩
        have worth : Numeral.ofDigits 10 [byte '0'] = 0 := by decide
        have whole : (0 : Int) + (0 : Nat) = (0 : Nat) := rfl
        rw [worth, Decimal.round_eq false whole, Nat.pow_eq, Nat.pow_zero, Nat.mul_one,
          Nat.zero_mul, ofRatio_of_representable false representable]
      · rcases Numeral.exists_plain_positional (Decimal.shortest units representable) with
          ⟨decimal, plain, rounded⟩
        refine ⟨decimal, ?_, ?_⟩
        · simpa [Number.text, vanishes] using plain
        · rw [rounded, Decimal.round_shortest]

theorem text_finite_true (units : Nat) (representable : Representable units) :
    (finite true units representable).text =
      byte '-' :: (finite false units representable).text := by
  simp only [Number.text, if_true, Bool.false_eq_true, if_false]

end Number

end Scriptlet
