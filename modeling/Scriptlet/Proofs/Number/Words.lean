import Mathlib.Tactic.Ring
import Scriptlet.Proofs.Number.Rounding

/-!
# Interchange words

A word of 64 bits stands for a number, and every word that stands for a number, rather than for
what is not one, is the word of that number. So an operation that gives back the same number gives
back the same bits. The leading bit of a number is not written in its word: it shows by the exponent
field, and numbers too small to have it are written with the exponent zero.
-/

namespace Scriptlet.Number

/-- A word in its three fields. -/
structure Fields (word : Nat) (negative : Bool) (exponent fraction : Nat) : Prop where
  whole : word = (if negative then 2 ^ 63 else 0) + exponent * 2 ^ 52 + fraction
  exponent_lt : exponent < 2 ^ 11
  fraction_lt : fraction < 2 ^ 52

theorem exists_fields {word : Nat} (bound : word < 2 ^ 64) :
    Fields word (decide (2 ^ 63 ≤ word)) (word / 2 ^ 52 % 2 ^ 11) (word % 2 ^ 52) := by
  refine ⟨?_, Nat.mod_lt _ (by decide), Nat.mod_lt _ (by decide)⟩
  by_cases negative : 2 ^ 63 ≤ word
  · simp only [negative, decide_true, if_true]
    omega
  · simp only [negative, decide_false, Bool.false_eq_true, if_false]
    omega

/-- Small fractions are magnitudes as they are. -/
theorem log2_fraction {fraction : Nat} (small : fraction < 2 ^ 52) : fraction.log2 - 52 = 0 := by
  by_cases vanishes : fraction = 0
  · rw [vanishes, Nat.log2_zero]
  · have bound := (Nat.log2_lt vanishes).mpr small
    omega

theorem two_pow_le_limit {places : Nat} (low : places ≤ 2098) : 2 ^ places ≤ limit := by
  unfold limit
  generalize 2098 = top at low
  exact Nat.pow_le_pow_right (by decide) low

theorem representable_fraction {fraction : Nat} (small : fraction < 2 ^ 52) :
    Representable fraction := by
  constructor
  · exact Nat.lt_of_lt_of_le small (two_pow_le_limit (by decide))
  · rw [log2_fraction small, Nat.pow_eq, Nat.pow_zero]
    exact Nat.one_dvd fraction

/-- With the leading bit and an exponent, a fraction has its 53 bits at that exponent. -/
theorem log2_normal {fraction : Nat} (small : fraction < 2 ^ 52) (shift : Nat) :
    ((2 ^ 52 + fraction) * 2 ^ shift).log2 - 52 = shift := by
  have leading : (2 ^ 52 + fraction).log2 = 52 := by
    rw [Nat.log2_eq_iff (by omega)]
    omega
  have shifted := @log2_shifted (2 ^ 52 + fraction) (by omega) shift
  rw [Nat.pow_eq, leading] at shifted
  rw [shifted]
  omega

theorem representable_normal {fraction shift : Nat} (small : fraction < 2 ^ 52)
    (low : shift ≤ 2045) : Representable ((2 ^ 52 + fraction) * 2 ^ shift) := by
  constructor
  · calc (2 ^ 52 + fraction) * 2 ^ shift < 2 ^ 53 * 2 ^ shift :=
          Nat.mul_lt_mul_of_pos_right (by omega) (Nat.two_pow_pos shift)
      _ = 2 ^ (53 + shift) := (Nat.pow_add 2 53 shift).symm
      _ ≤ limit := two_pow_le_limit (by omega)
  · rw [log2_normal small, Nat.pow_eq]
    exact Nat.dvd_mul_left _ _

/-- A word that stands for a number is the word of that number. -/
theorem toBits_ofBits {bits : UInt64} (isNumber : ofBits bits ≠ .nan) :
    (ofBits bits).toBits = bits := by
  have fields := exists_fields bits.toNat_lt
  simp only [ofBits, Nat.pow_eq] at isNumber ⊢
  generalize decide (2 ^ 63 ≤ bits.toNat) = negative, bits.toNat / 2 ^ 52 % 2 ^ 11 = exponent,
    bits.toNat % 2 ^ 52 = fraction at fields isNumber ⊢
  have whole {word : Nat}
      (same : word = (if negative then 2 ^ 63 else 0) + exponent * 2 ^ 52 + fraction) :
      UInt64.ofNat word = bits := by
    rw [same, ← fields.whole, UInt64.ofNat_toNat]
  by_cases special : exponent = 2047
  · subst special
    simp only [if_true] at isNumber ⊢
    by_cases exact : fraction = 0
    · rw [if_pos exact]
      apply whole
      simp only [exact, Nat.pow_eq, Nat.add_zero]
    · rw [if_neg exact] at isNumber
      exact absurd rfl isNumber
  · rw [if_neg special]
    have small := fields.fraction_lt
    by_cases subnormal : exponent = 0
    · rw [if_pos subnormal, ofRatio_of_representable negative (representable_fraction small)]
      apply whole
      simp only [log2_fraction small, subnormal, Nat.pow_eq, Nat.pow_zero, Nat.div_one]
    · have bound := fields.exponent_lt
      have representable := @representable_normal fraction (exponent - 1) small (by omega)
      rw [if_neg subnormal, ofRatio_of_representable negative representable]
      apply whole
      have positive := Nat.two_pow_pos (exponent - 1)
      simp only [log2_normal small, Nat.pow_eq, Nat.mul_div_cancel _ positive]
      omega

end Scriptlet.Number
