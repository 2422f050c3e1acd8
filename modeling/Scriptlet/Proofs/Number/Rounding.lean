import Scriptlet.Number.Decimal

/-!
# Rounding decimals

A decimal is rounded through a ratio of units, and the same ratio can be written in many ways. Here
rounding is shown to depend on the ratio alone. Moving zeros between the digits and the exponent of
a decimal therefore changes nothing, and the shortest decimal of a number, which is found among the
leading digits of the exact expansion, rounds back to that number.
-/

namespace Scriptlet

namespace Number

theorem nearest_mul {scale : Nat} (positive : 0 < scale) (numerator denominator : Nat) :
    nearest (numerator * scale) (denominator * scale) = nearest numerator denominator := by
  have scaled (rest : Nat) : 2 * (rest * scale) = 2 * rest * scale := by rw [Nat.mul_assoc]
  simp only [nearest, Nat.mul_div_mul_right _ _ positive, Nat.mul_mod_mul_right, scaled,
    Nat.mul_lt_mul_right positive, Nat.mul_right_cancel_iff positive]

theorem places_mul {scale : Nat} (positive : 0 < scale) (numerator denominator : Nat) :
    places (numerator * scale) (denominator * scale) = places numerator denominator := by
  simp only [places, Nat.mul_div_mul_right _ _ positive]

theorem roundUnits_mul {scale : Nat} (positive : 0 < scale) (numerator denominator : Nat) :
    roundUnits (numerator * scale) (denominator * scale) = roundUnits numerator denominator := by
  simp only [roundUnits, places_mul positive, Nat.mul_right_comm denominator scale,
    nearest_mul positive]

/-- Rounding depends on the ratio, not on how it is written. -/
theorem ofRatio_mul (negative : Bool) {scale : Nat} (positive : 0 < scale)
    (numerator denominator : Nat) :
    ofRatio negative (numerator * scale) (denominator * scale) =
      ofRatio negative numerator denominator := by
  simp only [ofRatio, roundUnits_mul positive]

theorem roundUnits_of_representable {units : Nat} (representable : Representable units) :
    roundUnits units 1 = units := by
  have divides := representable.2
  have positive : 0 < Nat.pow 2 (units.log2 - 52) := Nat.two_pow_pos _
  simp only [roundUnits, places, Nat.div_one, Nat.one_mul, nearest,
    Nat.mod_eq_zero_of_dvd divides, Nat.mul_zero, positive, if_true]
  exact Nat.div_mul_cancel divides

/-- A magnitude is rounded to itself. -/
theorem ofRatio_of_representable (negative : Bool) {units : Nat}
    (representable : Representable units) :
    ofRatio negative units 1 = .finite negative units representable := by
  simp only [ofRatio, roundUnits_of_representable representable, representable.1, dif_pos]

theorem neg_ofRatio (negative : Bool) (numerator denominator : Nat) :
    (ofRatio negative numerator denominator).neg = ofRatio (!negative) numerator denominator := by
  simp only [ofRatio]
  split
  · rfl
  · rfl

end Number

namespace Decimal

/-- The sign plays no part in rounding. -/
theorem neg_round (negative : Bool) (decimal : Decimal) :
    (decimal.round negative).neg = decimal.round (!negative) := by
  simp only [round]
  split
  · rw [Number.neg_ofRatio]
  · rw [Number.neg_ofRatio]

/-- A decimal is a ratio whose denominator may be any power of ten that is large enough. -/
theorem round_eq (negative : Bool) {digits : Nat} {exponent : Int} {shift power : Nat}
    (shifted : exponent + shift = power) :
    round negative ⟨digits, exponent⟩ =
      .ofRatio negative (digits * Nat.pow 10 power * one) (Nat.pow 10 shift) := by
  cases exponent with
  | ofNat own =>
      have same : power = own + shift := by
        simp only [Int.ofNat_eq_natCast] at shifted
        omega
      have scale := Number.ofRatio_mul negative (Nat.pow_pos (n := shift) (by decide : 0 < 10))
        (digits * Nat.pow 10 own * one) 1
      simp only [round, Nat.pow_eq, Nat.one_mul] at scale ⊢
      rw [← scale, same, Nat.pow_add, ← Nat.mul_assoc, Nat.mul_right_comm _ one]
  | negSucc own =>
      have same : shift = own + 1 + power := by
        rw [Int.negSucc_eq] at shifted
        omega
      have scale := Number.ofRatio_mul negative (Nat.pow_pos (n := power) (by decide : 0 < 10))
        (digits * one) (Nat.pow 10 (own + 1))
      simp only [round, Nat.pow_eq] at scale ⊢
      rw [← scale, same, Nat.pow_add 10 (own + 1), Nat.mul_right_comm digits one]

theorem round_mk_succ (negative : Bool) (digits : Nat) (exponent : Int) :
    round negative ⟨digits, exponent + 1⟩ = round negative ⟨digits * 10, exponent⟩ := by
  have shifted : exponent + (-exponent).toNat = exponent.toNat := by omega
  have shiftedNext : exponent + 1 + (-exponent).toNat = (exponent.toNat + 1 : Nat) := by omega
  rw [round_eq negative shifted, round_eq negative shiftedNext]
  simp only [Nat.pow_eq, Nat.pow_succ', Nat.mul_assoc]

theorem round_strip (negative : Bool) (digits : Nat) (exponent : Int) (fuel : Nat) :
    round negative (trimmed.strip digits exponent fuel) = round negative ⟨digits, exponent⟩ := by
  induction fuel generalizing digits exponent with
  | zero => rfl
  | succ fuel ih =>
      rw [trimmed.strip]
      split
      · rename_i ends
        rw [ih, round_mk_succ, Nat.div_mul_cancel (Nat.dvd_of_mod_eq_zero ends.2)]
      · rfl

theorem round_trimmed (negative : Bool) (decimal : Decimal) :
    round negative decimal.trimmed = round negative decimal :=
  round_strip negative decimal.digits decimal.exponent decimal.digits

theorem five_pow_mul_one : Nat.pow 5 unitPlaces * one = Nat.pow 10 unitPlaces := by
  unfold one
  generalize unitPlaces = places
  exact (Nat.mul_pow 5 2 places).symm

theorem round_exact (negative : Bool) {units : Nat} (representable : Representable units) :
    round negative (exact units) = .finite negative units representable := by
  have shifted : -(unitPlaces : Int) + unitPlaces = (0 : Nat) := by omega
  have scale := Number.ofRatio_mul negative (Nat.pow_pos (n := unitPlaces) (by decide : 0 < 10))
    units 1
  have rounded := scale.trans (Number.ofRatio_of_representable negative representable)
  rw [Nat.one_mul] at rounded
  rw [exact, round_eq negative shifted, @Nat.pow_eq 10 0, Nat.pow_zero, Nat.mul_one,
    Nat.mul_assoc, five_pow_mul_one, Nat.pow_eq, rounded]

theorem round_search {number : Number} {expansion : Decimal}
    (exact : expansion.round false = number) (dropped : Nat) :
    (search number expansion dropped).round false = number := by
  induction dropped with
  | zero => exact exact
  | succ dropped ih =>
      rw [search]
      dsimp only
      split
      · assumption
      · split
        · assumption
        · exact ih

/-- The shortest decimal of a number rounds to that number. -/
theorem round_shortest {units : Nat} (representable : Representable units) :
    (shortest units representable).round false = .finite false units representable := by
  rw [shortest, round_trimmed]
  exact round_search (round_exact false representable) _

end Decimal

end Scriptlet
