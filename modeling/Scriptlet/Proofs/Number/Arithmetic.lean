import Mathlib.Algebra.Order.Field.Basic
import Mathlib.Data.Rat.Cast.Order
import Mathlib.Tactic.FieldSimp
import Scriptlet.Proofs.Number.Overflow

/-!
# Arithmetic rounds once

The sum, the difference, the product and the quotient of finite numbers are the numbers nearest to
the exact results. Of the counts of units with at most 53 bits none is nearer than the one that the
result has, and where another one is as near, the count of the result has an even last bit. A result
is infinite exactly if the count that it would have is beyond the limit.
-/

namespace Scriptlet

namespace Number

/-- A count of units with at most 53 significant bits. -/
def IsShort (units : Nat) : Prop :=
  Nat.pow 2 (units.log2 - 52) ∣ units

/-- The rational number of a finite number. -/
def value (negative : Bool) (units : Nat) : ℚ :=
  signed negative units / one

/-- A count of units that is nearest to a magnitude, with an even last bit if another one is as
near. -/
structure IsNearest (magnitude : ℚ) (units : Nat) : Prop where
  short : IsShort units
  closest : ∀ other, IsShort other →
    |(units / one : ℚ) - magnitude| ≤ |(other / one : ℚ) - magnitude|
  even : ∀ other, IsShort other → other ≠ units →
    |(other / one : ℚ) - magnitude| ≤ |(units / one : ℚ) - magnitude| →
    2 ∣ units / 2 ^ (units.log2 - 52)

/-- What a magnitude is rounded to. -/
inductive Rounds (negative : Bool) (magnitude : ℚ) : Number → Prop where
  | finite {units : Nat} (representable : Representable units)
      (nearest : IsNearest magnitude units) :
      Rounds negative magnitude (.finite negative units representable)
  | infinite {units : Nat} (beyond : limit ≤ units) (nearest : IsNearest magnitude units) :
      Rounds negative magnitude (.infinite negative)

variable {numerator denominator : Nat}

/-- How far a count is from a ratio, times the denominator. -/
def distance (numerator denominator count : Nat) : Nat :=
  ((count * denominator : Nat) - numerator : Int).natAbs

theorem distance_of_le {count : Nat} (below : count ≤ numerator / denominator) :
    distance numerator denominator count =
      (numerator / denominator - count) * denominator + numerator % denominator := by
  have parts := Nat.div_add_mod' numerator denominator
  rcases Nat.exists_eq_add_of_le below with ⟨steps, whole⟩
  rw [whole, Nat.add_mul] at parts
  rw [distance, whole, Nat.add_sub_cancel_left]
  generalize count * denominator = reached at parts ⊢
  omega

theorem distance_of_lt {count : Nat} (above : numerator / denominator < count)
    (positive : 0 < denominator) :
    distance numerator denominator count + numerator % denominator =
      (count - numerator / denominator) * denominator := by
  have parts := Nat.div_add_mod' numerator denominator
  have small := Nat.mod_lt numerator positive
  rcases Nat.exists_eq_add_of_lt above with ⟨steps, rfl⟩
  have least : denominator ≤ (steps + 1) * denominator := Nat.le_mul_of_pos_left _ (by omega)
  rw [distance, show numerator / denominator + steps + 1 - numerator / denominator = steps + 1
    by omega, Nat.add_assoc, Nat.add_mul]
  generalize numerator / denominator * denominator = reached at parts ⊢
  generalize (steps + 1) * denominator = further at least ⊢
  omega

/-- No natural number is nearer to a ratio than the nearest one; if another one is as near, the
nearest one is even. -/
theorem nearest_spec (positive : 0 < denominator) (other : Nat) :
    distance numerator denominator (nearest numerator denominator) ≤
        distance numerator denominator other ∧
      (other ≠ nearest numerator denominator →
        distance numerator denominator other ≤
          distance numerator denominator (nearest numerator denominator) →
        nearest numerator denominator % 2 = 0) := by
  have small := Nat.mod_lt numerator positive
  have here := distance_of_le (Nat.le_refl (numerator / denominator))
  have next := distance_of_lt (Nat.lt_succ_self (numerator / denominator)) positive
  rw [Nat.sub_self, Nat.zero_mul, Nat.zero_add] at here
  rw [Nat.succ_eq_add_one, Nat.add_sub_cancel_left, Nat.one_mul] at next
  -- The nearest number is one of the two around the ratio, and all others are beyond these.
  have beyond : other = numerator / denominator ∨ other = numerator / denominator + 1 ∨
      denominator + numerator % denominator ≤ distance numerator denominator other ∨
        2 * denominator ≤ distance numerator denominator other + numerator % denominator := by
    rcases Nat.lt_trichotomy other (numerator / denominator) with below | same | above
    · have steps : denominator ≤ (numerator / denominator - other) * denominator :=
        Nat.le_mul_of_pos_left _ (by omega)
      have far := distance_of_le (Nat.le_of_lt below)
      omega
    · exact .inl same
    · by_cases adjacent : other = numerator / denominator + 1
      · exact .inr (.inl adjacent)
      · have steps : 2 * denominator ≤ (other - numerator / denominator) * denominator :=
          Nat.mul_le_mul_right _ (by omega)
        have far := distance_of_lt above positive
        omega
  simp only [nearest]
  split
  · rcases beyond with rfl | rfl | below | above <;> omega
  · split
    · rename_i tie
      simp only [Bool.and_eq_true, decide_eq_true_eq] at tie
      rcases beyond with rfl | rfl | below | above <;> omega
    · rename_i noTie
      simp only [Bool.and_eq_true, decide_eq_true_eq, not_and] at noTie
      rcases beyond with rfl | rfl | below | above <;> omega

theorem distance_shifted (numerator denominator count shift : Nat) :
    distance numerator (denominator * 2 ^ shift) count =
      distance numerator denominator (count * 2 ^ shift) := by
  rw [distance, distance, Nat.mul_comm denominator, Nat.mul_assoc]

/-- A count of at most 53 bits that reaches below the last kept place is far below the ratio. -/
theorem lt_pow_of_not_dvd {count shift : Nat} (short : IsShort count)
    (reaches : ¬2 ^ shift ∣ count) : count < 2 ^ (52 + shift) := by
  have lower : count.log2 - 52 < shift := by
    by_contra notLower
    apply reaches
    simp only [IsShort, Nat.pow_eq] at short
    exact (Nat.pow_dvd_pow 2 (by omega)).trans short
  exact Nat.lt_of_lt_of_le Nat.lt_log2_self (Nat.pow_le_pow_right (by decide) (by omega))

/-- Rounding a ratio to 53 bits gives a count that none of these is nearer than; if another one is
as near, the last of the kept bits is even. -/
theorem roundUnits_spec (positive : 0 < denominator) {other : Nat} (short : IsShort other) :
    distance numerator denominator (roundUnits numerator denominator) ≤
        distance numerator denominator other ∧
      (other ≠ roundUnits numerator denominator →
        distance numerator denominator other ≤
          distance numerator denominator (roundUnits numerator denominator) →
        nearest numerator (denominator * 2 ^ places numerator denominator) % 2 = 0) := by
  have unit : 0 < 2 ^ places numerator denominator := Nat.two_pow_pos _
  have spec := @nearest_spec numerator _ (Nat.mul_pos positive unit)
  simp only [distance_shifted] at spec
  rw [roundUnits]
  simp only [Nat.pow_eq]
  by_cases kept : 2 ^ places numerator denominator ∣ other
  · rcases kept with ⟨count, rfl⟩
    rw [Nat.mul_comm (2 ^ _) count]
    refine ⟨(spec count).1, fun differs => (spec count).2 ?_⟩
    rintro rfl
    exact differs rfl
  · have somePlaces : 0 < places numerator denominator := by
      by_contra none
      apply kept
      rw [Nat.eq_zero_of_not_pos none, Nat.pow_zero]
      exact Nat.one_dvd other
    have below := lt_pow_of_not_dvd short kept
    have least := pow_le_div_of_places somePlaces
    -- The power of two between the count and the ratio has the places that are kept.
    have closer := (spec (2 ^ 52)).1
    rw [← Nat.pow_add, distance_of_le least] at closer
    have far := distance_of_le (Nat.le_trans (Nat.le_of_lt below) least)
    have steps : (numerator / denominator - 2 ^ (52 + places numerator denominator)) * denominator <
        (numerator / denominator - other) * denominator :=
      Nat.mul_lt_mul_of_pos_right (by omega) positive
    refine ⟨by omega, ?_⟩
    intro differs near
    omega

/-- The last bit of a rounded count is the last of the bits that are kept, unless rounding has
reached the next power of two. -/
theorem even_roundUnits
    (even : nearest numerator (denominator * 2 ^ places numerator denominator) % 2 = 0) :
    2 ∣ roundUnits numerator denominator /
      2 ^ ((roundUnits numerator denominator).log2 - 52) := by
  have most := nearest_le_of_places numerator denominator
  have least := @pow_le_nearest_of_places numerator denominator
  rw [roundUnits]
  simp only [Nat.pow_eq] at most ⊢
  generalize places numerator denominator = shift at even most least ⊢
  generalize nearest numerator (denominator * 2 ^ shift) = count at even most least ⊢
  rcases Nat.eq_zero_or_pos count with rfl | positive
  · simp
  · have log : (count * 2 ^ shift).log2 = count.log2 + shift := log2_shifted positive shift
    rw [log]
    rcases Nat.lt_or_eq_of_le most with below | rfl
    · have kept : count.log2 + shift - 52 = shift := by
        have bits : count.log2 < 53 := (Nat.log2_lt (by omega)).mpr below
        rcases Nat.eq_zero_or_pos shift with rfl | somePlaces
        · omega
        · have leading : 52 ≤ count.log2 := (Nat.le_log2 (by omega)).mpr (least somePlaces)
          omega
      rw [kept, Nat.mul_div_cancel _ (Nat.two_pow_pos shift)]
      exact Nat.dvd_of_mod_eq_zero even
    · rw [Nat.log2_two_pow, show 53 + shift - 52 = shift + 1 by omega, ← Nat.pow_add,
        Nat.pow_div (by omega) (by decide)]
      exact dvd_pow_self 2 (by omega)

theorem cast_one_pos : (0 : ℚ) < one :=
  Nat.cast_pos.mpr one_pos

/-- The distance of two rational numbers, from that of their counts of units. -/
theorem abs_units_sub (count : Nat) (positive : 0 < denominator) :
    |(count / one : ℚ) - numerator / denominator / one| =
      distance numerator denominator count / (denominator * one) := by
  have onePositive := cast_one_pos
  have denominatorPositive : (0 : ℚ) < denominator := Nat.cast_pos.mpr positive
  have difference : (count / one : ℚ) - numerator / denominator / one =
      (count * denominator - numerator) / (denominator * one) := by
    field_simp
  rw [difference, abs_div, abs_of_pos (mul_pos denominatorPositive onePositive), distance,
    Nat.cast_natAbs]
  push_cast
  rfl

/-- A ratio of units is rounded to the number that is nearest to it. -/
theorem rounds_ofRatio (negative : Bool) (numerator : Nat) (positive : 0 < denominator) :
    Rounds negative (numerator / denominator / one) (ofRatio negative numerator denominator) := by
  have scale : (0 : ℚ) < denominator * one := mul_pos (Nat.cast_pos.mpr positive) cast_one_pos
  have isNearest : IsNearest (numerator / denominator / one)
      (roundUnits numerator denominator) := by
    refine ⟨dvd_roundUnits numerator denominator, ?_, ?_⟩
    · intro other short
      rw [abs_units_sub _ positive, abs_units_sub _ positive, div_le_div_iff_of_pos_right scale,
        Nat.cast_le]
      exact (roundUnits_spec positive short).1
    · intro other short differs near
      rw [abs_units_sub _ positive, abs_units_sub _ positive, div_le_div_iff_of_pos_right scale,
        Nat.cast_le] at near
      exact even_roundUnits ((roundUnits_spec positive short).2 differs near)
  unfold ofRatio
  split
  · exact .finite _ isNearest
  · rename_i beyond
    exact .infinite (Nat.le_of_not_lt beyond) isNearest

variable {left right : Bool} {leftUnits rightUnits : Nat}
  {isLeft : Representable leftUnits} {isRight : Representable rightUnits}

theorem abs_value (negative : Bool) (units : Nat) : |value negative units| = units / one := by
  have magnitude : |(signed negative units : ℚ)| = units := by
    cases negative <;> simp [signed]
  rw [value, abs_div, abs_of_pos cast_one_pos, magnitude]

theorem value_not (negative : Bool) (units : Nat) :
    value (!negative) units = -value negative units := by
  have opposite : signed (!negative) units = -signed negative units := by
    cases negative <;> simp [signed]
  rw [value, value, opposite, Int.cast_neg, neg_div]

/-- The sum of two numbers is the exact sum, rounded. Only negative zeros sum to negative zero. -/
theorem rounds_add :
    Rounds
      (if value left leftUnits + value right rightUnits = 0 then left && right
        else value left leftUnits + value right rightUnits < 0)
      |value left leftUnits + value right rightUnits|
      (add (.finite left leftUnits isLeft) (.finite right rightUnits isRight)) := by
  have onePositive := cast_one_pos
  have exact : value left leftUnits + value right rightUnits =
      (signed left leftUnits + signed right rightUnits : ℤ) / one := by
    rw [value, value, ← add_div, Int.cast_add]
  rw [exact, add]
  generalize signed left leftUnits + signed right rightUnits = sum
  have magnitude : |(sum / one : ℚ)| = sum.natAbs / (1 : Nat) / one := by
    rw [abs_div, abs_of_pos onePositive, Nat.cast_one, div_one, Nat.cast_natAbs, Int.cast_abs]
  rw [magnitude]
  by_cases vanishes : sum = 0
  · subst vanishes
    rw [if_pos rfl, Int.cast_zero, zero_div, if_pos rfl,
      ← ofRatio_eq_zero (left && right) (show 2 * 0 ≤ 1 by decide) Nat.one_pos]
    exact rounds_ofRatio _ 0 Nat.one_pos
  · have nonzero : (sum / one : ℚ) ≠ 0 :=
      div_ne_zero (Int.cast_ne_zero.mpr vanishes) onePositive.ne'
    have below : (sum / one : ℚ) < 0 ↔ sum < 0 := by
      rw [div_lt_iff₀ onePositive, zero_mul, Int.cast_lt_zero]
    rw [if_neg vanishes, if_neg nonzero]
    simp only [below]
    exact rounds_ofRatio _ _ Nat.one_pos

/-- The difference of two numbers is the exact difference, rounded. -/
theorem rounds_sub :
    Rounds
      (if value left leftUnits - value right rightUnits = 0 then left && !right
        else value left leftUnits - value right rightUnits < 0)
      |value left leftUnits - value right rightUnits|
      (sub (.finite left leftUnits isLeft) (.finite right rightUnits isRight)) := by
  rw [sub_eq_add_neg, ← value_not]
  exact rounds_add

/-- The product of two numbers is the exact product, rounded. -/
theorem rounds_mul :
    Rounds (left != right) |value left leftUnits * value right rightUnits|
      (mul (.finite left leftUnits isLeft) (.finite right rightUnits isRight)) := by
  have exact : |value left leftUnits * value right rightUnits| =
      (leftUnits * rightUnits : Nat) / one / one := by
    rw [abs_mul, abs_value, abs_value, Nat.cast_mul, div_mul_div_comm, div_div]
  rw [exact]
  exact rounds_ofRatio _ _ one_pos

/-- The quotient of two numbers is the exact quotient, rounded. -/
theorem rounds_div (nonzero : rightUnits ≠ 0) :
    Rounds (left != right) |value left leftUnits / value right rightUnits|
      (div (.finite left leftUnits isLeft) (.finite right rightUnits isRight)) := by
  have onePositive := cast_one_pos
  have exact : |value left leftUnits / value right rightUnits| =
      (leftUnits * one : Nat) / rightUnits / one := by
    rw [abs_div, abs_value, abs_value, Nat.cast_mul, div_div_div_cancel_right₀ onePositive.ne',
      mul_div_right_comm, mul_div_cancel_right₀ _ onePositive.ne']
  rw [exact, div, if_neg nonzero]
  exact rounds_ofRatio _ _ (Nat.pos_of_ne_zero nonzero)

end Number

end Scriptlet
