import Mathlib.Tactic.Ring
import Scriptlet.Proofs.Number.Rounding

/-!
# Where rounding leaves the finite numbers

A decimal becomes infinite when it reaches the middle between the largest finite number and the
limit. The middle itself is as near to the one as to the other and goes to the limit, which is even.
The argument is about the last place that rounding keeps: below the highest place a ratio stays
below the limit, above it the ratio is beyond the limit already, and at the highest place the
question is when the nearest count of 53 bits needs one bit more.
-/

namespace Scriptlet

namespace Number

theorem div_le_nearest (numerator denominator : Nat) :
    numerator / denominator ≤ nearest numerator denominator := by
  simp only [nearest]
  split
  · exact Nat.le_refl _
  · split
    · exact Nat.le_refl _
    · exact Nat.le_succ _

/-- Rounding reaches an even number from half a step below it. -/
theorem le_nearest_iff {numerator denominator bound : Nat} (positive : 0 < denominator)
    (even : bound % 2 = 0) (nonzero : 0 < bound) :
    bound ≤ nearest numerator denominator ↔ (2 * bound - 1) * denominator ≤ 2 * numerator := by
  have parts := Nat.div_add_mod numerator denominator
  have small := Nat.mod_lt numerator positive
  have least := div_le_nearest numerator denominator
  generalize quotient : numerator / denominator = whole at parts least
  generalize remainder : numerator % denominator = rest at parts small
  rcases Nat.lt_trichotomy (whole + 1) bound with below | same | above
  · have most : nearest numerator denominator ≤ whole + 1 := by
      apply nearest_le
      omega
    constructor
    · intro reaches
      omega
    · intro reaches
      have step : denominator * (whole + 1) ≤ denominator * (bound - 1) := by
        apply Nat.mul_le_mul_left
        omega
      have twice :
          (2 * bound - 1) * denominator = 2 * (denominator * (bound - 1)) + denominator := by
        rw [show 2 * bound - 1 = 2 * (bound - 1) + 1 by omega]
        ring
      rw [Nat.mul_add, Nat.mul_one] at step
      omega
  · have odd : whole % 2 ≠ 0 := by omega
    have half : (2 * bound - 1) * denominator = 2 * (denominator * whole) + denominator := by
      rw [← same, show 2 * (whole + 1) - 1 = 2 * whole + 1 by omega]
      ring
    simp only [nearest, quotient, remainder]
    rw [half, ← parts, ← same]
    by_cases less : 2 * rest < denominator
    · simp only [less, if_true]
      omega
    · simp only [less, if_false, odd, decide_false, Bool.and_false, Bool.false_eq_true]
      omega
  · have step : denominator * bound ≤ denominator * whole := by
      apply Nat.mul_le_mul_left
      omega
    have twice : (2 * bound - 1) * denominator ≤ 2 * (denominator * bound) := by
      calc (2 * bound - 1) * denominator ≤ 2 * bound * denominator :=
            Nat.mul_le_mul_right _ (Nat.sub_le _ _)
        _ = 2 * (denominator * bound) := by ring
    constructor
    · intro reaches
      omega
    · intro reaches
      omega

/-- Below a place, neither a ratio nor its rounding needs more than 53 bits at that place. -/
theorem roundUnits_lt {top numerator denominator : Nat} (positive : 0 < denominator)
    (below : places numerator denominator < top) :
    roundUnits numerator denominator < 2 ^ (53 + top) ∧
      2 * numerator < 2 ^ (53 + top) * denominator := by
  have log : (numerator / denominator).log2 - 52 = places numerator denominator := rfl
  have bound := nearest_le_of_places numerator denominator
  have quotient := Nat.lt_log2_self (n := numerator / denominator)
  constructor
  · simp only [roundUnits, Nat.pow_eq] at bound ⊢
    rw [Nat.pow_add]
    apply Nat.lt_of_le_of_lt (Nat.mul_le_mul_right _ bound)
    exact Nat.mul_lt_mul_of_pos_left (Nat.pow_lt_pow_right (by decide) below) (Nat.two_pow_pos 53)
  · have fits : numerator / denominator < 2 ^ (52 + top) := by
      apply Nat.lt_of_lt_of_le quotient
      apply Nat.pow_le_pow_right (by decide)
      omega
    have doubled : 2 ^ (53 + top) = 2 * 2 ^ (52 + top) := by
      rw [show 53 + top = 52 + top + 1 by omega, Nat.pow_succ']
    rw [doubled, Nat.mul_assoc]
    exact Nat.mul_lt_mul_of_pos_left ((Nat.div_lt_iff_lt_mul positive).mp fits) (by decide)

/-- Where places are dropped, a ratio has 53 bits or more. -/
theorem pow_le_div_of_places {numerator denominator : Nat}
    (somePlaces : 0 < places numerator denominator) :
    2 ^ (52 + places numerator denominator) ≤ numerator / denominator := by
  have log : (numerator / denominator).log2 - 52 = places numerator denominator := rfl
  have nonzero : numerator / denominator ≠ 0 := by
    intro vanishes
    rw [vanishes, Nat.log2_zero] at log
    omega
  have least := Nat.log2_self_le nonzero
  rwa [show (numerator / denominator).log2 = 52 + places numerator denominator by omega] at least

/-- Where places are dropped, 53 bits are kept. -/
theorem pow_le_nearest_of_places {numerator denominator : Nat}
    (somePlaces : 0 < places numerator denominator) :
    2 ^ 52 ≤ nearest numerator (denominator * 2 ^ places numerator denominator) := by
  apply Nat.le_trans _ (div_le_nearest _ _)
  rw [← Nat.div_div_eq_div_mul, Nat.le_div_iff_mul_le (Nat.two_pow_pos _), ← Nat.pow_add]
  exact pow_le_div_of_places somePlaces

/-- Above a place, both a ratio and its rounding need more than 53 bits at that place. -/
theorem le_roundUnits {top numerator denominator : Nat} (positive : 0 < denominator)
    (above : top < places numerator denominator) :
    2 ^ (53 + top) ≤ roundUnits numerator denominator ∧
      2 ^ (54 + top) * denominator ≤ 2 * numerator := by
  have quotient := pow_le_div_of_places (Nat.zero_lt_of_lt above)
  have kept := pow_le_nearest_of_places (Nat.zero_lt_of_lt above)
  simp only [roundUnits, Nat.pow_eq]
  generalize places numerator denominator = place at above quotient kept ⊢
  constructor
  · calc 2 ^ (53 + top) ≤ 2 ^ (52 + place) := Nat.pow_le_pow_right (by decide) (by omega)
      _ = 2 ^ 52 * 2 ^ place := Nat.pow_add 2 52 place
      _ ≤ _ := Nat.mul_le_mul_right _ kept
  · calc 2 ^ (54 + top) * denominator ≤ 2 ^ (53 + place) * denominator :=
          Nat.mul_le_mul_right _ (Nat.pow_le_pow_right (by decide) (by omega))
      _ = 2 * (2 ^ (52 + place) * denominator) := by ring
      _ ≤ 2 * numerator := Nat.mul_le_mul_left 2 ((Nat.le_div_iff_mul_le positive).mp quotient)

/-- A ratio is rounded up to a power of two, or beyond it, exactly if it reaches half a step below
it. The step is the last of 53 bits. -/
theorem le_roundUnits_iff (top numerator : Nat) {denominator : Nat} (positive : 0 < denominator) :
    2 ^ (53 + top) ≤ roundUnits numerator denominator ↔
      (2 ^ 54 - 1) * (2 ^ top * denominator) ≤ 2 * numerator := by
  rcases Nat.lt_trichotomy (places numerator denominator) top with below | own | above
  · rcases roundUnits_lt positive below with ⟨rounded, exact⟩
    have less : 2 ^ (53 + top) * denominator ≤ (2 ^ 54 - 1) * (2 ^ top * denominator) := by
      rw [Nat.pow_add, Nat.mul_assoc]
      exact Nat.mul_le_mul_right _ (by decide)
    omega
  · have scale : 0 < denominator * 2 ^ top := Nat.mul_pos positive (Nat.two_pow_pos top)
    simp only [roundUnits, own, Nat.pow_eq]
    rw [Nat.pow_add, Nat.mul_le_mul_right_iff (Nat.two_pow_pos top),
      le_nearest_iff scale (by decide) (by decide), Nat.mul_comm denominator]
    exact Iff.rfl
  · rcases le_roundUnits positive above with ⟨rounded, exact⟩
    have more : (2 ^ 54 - 1) * (2 ^ top * denominator) ≤ 2 ^ (54 + top) * denominator := by
      rw [Nat.pow_add, Nat.mul_assoc]
      exact Nat.mul_le_mul_right _ (by decide)
    omega

/-- A ratio is rounded to zero if it is at most half a unit. -/
theorem ofRatio_eq_zero (negative : Bool) {numerator denominator : Nat}
    (small : 2 * numerator ≤ denominator) (positive : 0 < denominator) :
    ofRatio negative numerator denominator = zero negative := by
  have less : numerator < denominator := by omega
  have noPlaces : places numerator denominator = 0 := by
    rw [places, Nat.div_eq_of_lt less, Nat.log2_zero]
  have vanishes : roundUnits numerator denominator = 0 := by
    simp only [roundUnits, noPlaces, Nat.pow_eq, Nat.pow_zero, Nat.mul_one, nearest,
      Nat.div_eq_of_lt less, Nat.mod_eq_of_lt less]
    split
    · rfl
    · have half : 2 * numerator = denominator := by omega
      simp [half]
  simp only [ofRatio, vanishes, limit_pos, dif_pos, zero]

/-- The last of the 53 bits of the largest finite number is worth two to that power. -/
def lastPlace : Nat := 970

theorem limit_eq : limit = 2 ^ (53 + (unitPlaces + 1 + lastPlace)) := by
  have top : 2098 = 53 + (unitPlaces + 1 + lastPlace) := rfl
  unfold limit
  generalize 2098 = exponent at top
  rw [Nat.pow_eq, top]

theorem one_pos : 0 < one := by
  unfold one
  apply Nat.two_pow_pos

theorem two_pow_last :
    2 ^ (unitPlaces + 1 + lastPlace) = Nat.pow 2 lastPlace * (2 * one) := by
  unfold one
  generalize unitPlaces = places
  rw [Nat.pow_eq, Nat.pow_eq, Nat.mul_comm, ← Nat.pow_succ', ← Nat.pow_add]

theorem ofRatio_eq_infinite_iff (negative : Bool) (numerator : Nat) {denominator : Nat}
    (positive : 0 < denominator) :
    ofRatio negative numerator denominator = .infinite negative ↔
      (2 ^ 54 - 1) * (2 ^ (unitPlaces + 1 + lastPlace) * denominator) ≤ 2 * numerator := by
  rw [← le_roundUnits_iff _ numerator positive, ← limit_eq, ofRatio]
  split
  · rename_i below
    simp only [reduceCtorEq, false_iff, Nat.not_le]
    exact below
  · rename_i beyond
    simp only [true_iff]
    exact Nat.le_of_not_lt beyond

end Number

namespace Decimal

/-- A decimal is too large for the finite numbers if it reaches the middle between the largest of
them and 2¹⁰²⁴. -/
def TooLarge (decimal : Decimal) : Prop :=
  (Nat.pow 2 54 - 1) * Nat.pow 2 Number.lastPlace * Nat.pow 10 (-decimal.exponent).toNat ≤
    decimal.digits * Nat.pow 10 decimal.exponent.toNat

instance (decimal : Decimal) : Decidable decimal.TooLarge :=
  inferInstanceAs (Decidable (_ ≤ _))

theorem round_eq_infinite_iff (negative : Bool) (decimal : Decimal) :
    decimal.round negative = .infinite negative ↔ decimal.TooLarge := by
  rcases decimal with ⟨digits, exponent⟩
  have shifted : exponent + (-exponent).toNat = exponent.toNat := by omega
  have positive : 0 < Nat.pow 10 (-exponent).toNat := Nat.pow_pos (by decide)
  have half : 0 < 2 * one := Nat.mul_pos (by decide) Number.one_pos
  rw [round_eq negative shifted, Number.ofRatio_eq_infinite_iff negative _ positive,
    Number.two_pow_last, TooLarge]
  have scaled (last shift power : Nat) :
      (2 ^ 54 - 1) * (last * (2 * one) * shift) ≤ 2 * (digits * power * one) ↔
        (Nat.pow 2 54 - 1) * last * shift ≤ digits * power := by
    have left : (2 ^ 54 - 1) * (last * (2 * one) * shift) =
        (Nat.pow 2 54 - 1) * last * shift * (2 * one) := by
      rw [Nat.pow_eq]
      ring
    have right : 2 * (digits * power * one) = digits * power * (2 * one) := by ring
    rw [left, right, Nat.mul_le_mul_right_iff half]
  exact scaled _ _ _

/-- A decimal is rounded to zero if it is at most half a unit. -/
theorem round_eq_zero (negative : Bool) {digits : Nat} {exponent : Int}
    (small : 2 * (digits * Nat.pow 10 exponent.toNat * one) ≤ Nat.pow 10 (-exponent).toNat) :
    round negative ⟨digits, exponent⟩ = .zero negative := by
  have shifted : exponent + (-exponent).toNat = exponent.toNat := by omega
  rw [round_eq negative shifted]
  exact Number.ofRatio_eq_zero negative small (Nat.pow_pos (by decide))

end Decimal

end Scriptlet
