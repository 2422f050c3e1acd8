/-!
# Numbers

The numbers of the language are the 64-bit binary floating-point numbers. Every finite one is a
whole number of units of 2⁻¹⁰⁷⁴, so its magnitude is a natural number, and the exact result of an
operation is a ratio of natural numbers that `Number.ofRatio` rounds once, to the nearest number and
to the even neighbour when two are equally near.

Which naturals are magnitudes is stated by `Representable`: at most 53 significant bits, and below
2²⁰⁹⁸ units. Powers are spelled `Nat.pow`, which means the same whatever instances of `^` are
around.
-/

namespace Scriptlet

/-- The binary places of the unit: a number is counted in units of 2 to minus that power. -/
def unitPlaces : Nat := 1074

/-- One, counted in units. -/
def one : Nat := Nat.pow 2 unitPlaces

/-- Magnitudes stay below 2¹⁰²⁴, counted in units. -/
def limit : Nat := Nat.pow 2 2098

/-- The magnitudes: counts of units with at most 53 significant bits, below the limit. -/
def Representable (units : Nat) : Prop :=
  units < limit ∧ Nat.pow 2 (units.log2 - 52) ∣ units

instance (units : Nat) : Decidable (Representable units) :=
  inferInstanceAs (Decidable (_ ∧ _))

/-- A 64-bit binary floating-point number. -/
inductive Number where
  | nan
  | infinite (negative : Bool)
  | finite (negative : Bool) (units : Nat) (representable : Representable units)
  deriving DecidableEq

namespace Number

/-- The nearest natural number to a ratio, the even one of two that are equally near. -/
def nearest (numerator denominator : Nat) : Nat :=
  let quotient := numerator / denominator
  let twice := 2 * (numerator % denominator)
  if twice < denominator then quotient
  else if twice = denominator && quotient % 2 = 0 then quotient
  else quotient + 1

/-- How many binary places beyond the unit a ratio keeps none of: its 53 bits start there. -/
def places (numerator denominator : Nat) : Nat :=
  (numerator / denominator).log2 - 52

/-- The multiple of the last kept place that is nearest to a ratio of units. -/
def roundUnits (numerator denominator : Nat) : Nat :=
  nearest numerator (denominator * Nat.pow 2 (places numerator denominator)) *
    Nat.pow 2 (places numerator denominator)

theorem nearest_le {numerator denominator bound : Nat}
    (below : numerator / denominator < bound) : nearest numerator denominator ≤ bound := by
  simp only [nearest]
  split
  · omega
  · split <;> omega

/-- Rounding keeps at most 53 bits, or lands on the next power of two. -/
theorem nearest_le_of_places (numerator denominator : Nat) :
    nearest numerator (denominator * Nat.pow 2 (places numerator denominator)) ≤ Nat.pow 2 53 := by
  apply nearest_le
  simp only [Nat.pow_eq]
  rw [← Nat.div_div_eq_div_mul, Nat.div_lt_iff_lt_mul (Nat.two_pow_pos _), ← Nat.pow_add]
  apply Nat.lt_of_lt_of_le (Nat.lt_log2_self (n := numerator / denominator))
  apply Nat.pow_le_pow_right (by decide)
  simp only [places]
  omega

/-- Moving a number up by whole binary places moves its leading bit by as many. -/
theorem log2_shifted {count : Nat} (positive : 0 < count) (shift : Nat) :
    (count * Nat.pow 2 shift).log2 = count.log2 + shift := by
  simp only [Nat.pow_eq]
  have nonzero : count ≠ 0 := by omega
  have product : count * 2 ^ shift ≠ 0 := Nat.mul_ne_zero nonzero (Nat.ne_of_gt (Nat.two_pow_pos _))
  rw [Nat.log2_eq_iff product]
  constructor
  · rw [Nat.pow_add]
    exact Nat.mul_le_mul_right _ (Nat.log2_self_le nonzero)
  · rw [show count.log2 + shift + 1 = (count.log2 + 1) + shift by omega, Nat.pow_add]
    exact Nat.mul_lt_mul_of_pos_right Nat.lt_log2_self (Nat.two_pow_pos _)

/-- A count of at most 53 bits, moved up by whole binary places, has at most 53 bits. -/
theorem dvd_shifted {count : Nat} (bound : count ≤ Nat.pow 2 53) (shift : Nat) :
    Nat.pow 2 ((count * Nat.pow 2 shift).log2 - 52) ∣ count * Nat.pow 2 shift := by
  rcases Nat.eq_zero_or_pos count with rfl | positive
  · simp
  · rw [log2_shifted positive]
    simp only [Nat.pow_eq] at bound ⊢
    by_cases small : count < 2 ^ 53
    · have log : count.log2 < 53 := (Nat.log2_lt (by omega)).2 small
      exact Nat.dvd_mul_left_of_dvd (Nat.pow_dvd_pow 2 (by omega)) count
    · obtain rfl : count = 2 ^ 53 := by omega
      rw [Nat.log2_two_pow, ← Nat.pow_add]
      exact Nat.pow_dvd_pow 2 (by omega)

theorem dvd_roundUnits (numerator denominator : Nat) :
    Nat.pow 2 ((roundUnits numerator denominator).log2 - 52) ∣ roundUnits numerator denominator :=
  dvd_shifted (nearest_le_of_places numerator denominator) _

/-- The number nearest to a ratio of units, infinite when that is beyond the limit. -/
def ofRatio (negative : Bool) (numerator denominator : Nat) : Number :=
  if below : roundUnits numerator denominator < limit then
    .finite negative (roundUnits numerator denominator)
      ⟨below, dvd_roundUnits numerator denominator⟩
  else
    .infinite negative

theorem limit_pos : 0 < limit := by
  unfold limit
  apply Nat.two_pow_pos

theorem representable_zero : Representable 0 :=
  ⟨limit_pos, Nat.dvd_zero _⟩

/-- Zero of either sign. -/
def zero (negative : Bool) : Number :=
  .finite negative 0 representable_zero

/-- A finite number's signed count of units. -/
def signed (negative : Bool) (units : Nat) : Int :=
  if negative then -(units : Int) else units

/-- Changes the sign. -/
def neg : Number → Number
  | .nan => .nan
  | .infinite negative => .infinite !negative
  | .finite negative units representable => .finite (!negative) units representable

/-- The sum; opposite infinities have none, and opposite numbers sum to positive zero. -/
def add : Number → Number → Number
  | .nan, _ => .nan
  | _, .nan => .nan
  | .infinite left, .infinite right => if left = right then .infinite left else .nan
  | .infinite left, .finite .. => .infinite left
  | .finite .., .infinite right => .infinite right
  | .finite left leftUnits _, .finite right rightUnits _ =>
      let sum := signed left leftUnits + signed right rightUnits
      if sum = 0 then zero (left && right) else ofRatio (sum < 0) sum.natAbs 1

/-- The difference: the sum with the opposite. -/
def sub (left right : Number) : Number :=
  left.add right.neg

/-- The product; zero times infinity has none. -/
def mul : Number → Number → Number
  | .nan, _ => .nan
  | _, .nan => .nan
  | .infinite left, .infinite right => .infinite (left != right)
  | .infinite left, .finite right units _ => if units = 0 then .nan else .infinite (left != right)
  | .finite left units _, .infinite right => if units = 0 then .nan else .infinite (left != right)
  | .finite left leftUnits _, .finite right rightUnits _ =>
      ofRatio (left != right) (leftUnits * rightUnits) one

/-- The quotient; a number other than zero divided by zero is infinite. -/
def div : Number → Number → Number
  | .nan, _ => .nan
  | _, .nan => .nan
  | .infinite _, .infinite _ => .nan
  | .infinite left, .finite right _ _ => .infinite (left != right)
  | .finite left _ _, .infinite right => zero (left != right)
  | .finite left leftUnits _, .finite right rightUnits _ =>
      if rightUnits = 0 then
        if leftUnits = 0 then .nan else .infinite (left != right)
      else
        ofRatio (left != right) (leftUnits * one) rightUnits

/-- The place of a number in the order; both zeros share one and infinity lies at the limit. -/
def rank? : Number → Option Int
  | .nan => none
  | .infinite negative => some (signed negative limit)
  | .finite negative units _ => some (signed negative units)

/-- Compares two numbers by their places in the order; a comparison with no number is false. -/
def compares (test : Int → Int → Bool) (left right : Number) : Bool :=
  match left.rank?, right.rank? with
  | some leftRank, some rightRank => test leftRank rightRank
  | _, _ => false

/-- Strictly smaller. -/
def lt (left right : Number) : Bool :=
  compares (fun leftRank rightRank => leftRank < rightRank) left right

/-- Smaller or equal. -/
def le (left right : Number) : Bool :=
  compares (fun leftRank rightRank => leftRank ≤ rightRank) left right

/-- Equal in the order: the zeros are equal, and nothing equals what is not a number. -/
def same (left right : Number) : Bool :=
  compares (fun leftRank rightRank => leftRank = rightRank) left right

/-- The number of an interchange word: a sign bit, eleven exponent bits, 52 fraction bits. -/
def ofBits (bits : UInt64) : Number :=
  let word := bits.toNat
  let negative := Nat.pow 2 63 ≤ word
  let exponent := word / Nat.pow 2 52 % Nat.pow 2 11
  let fraction := word % Nat.pow 2 52
  if exponent = 2047 then
    if fraction = 0 then .infinite negative else .nan
  else if exponent = 0 then
    ofRatio negative fraction 1
  else
    ofRatio negative ((Nat.pow 2 52 + fraction) * Nat.pow 2 (exponent - 1)) 1

/-- The interchange word of a number; what is not a number has one quiet word. -/
def toBits (number : Number) : UInt64 :=
  let sign (negative : Bool) : Nat := if negative then Nat.pow 2 63 else 0
  match number with
  | .nan => 0x7ff8000000000000
  | .infinite negative => UInt64.ofNat (sign negative + 2047 * Nat.pow 2 52)
  | .finite negative units _ =>
      let shift := units.log2 - 52
      UInt64.ofNat (sign negative + shift * Nat.pow 2 52 + units / Nat.pow 2 shift)

end Number

end Scriptlet
