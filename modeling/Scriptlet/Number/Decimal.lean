import Scriptlet.Number.Basic
import Scriptlet.Text.Basic

/-!
# Decimal text of numbers

A finite number is written with the fewest decimal digits that read back as the same number, the
nearest such decimal if there are two, and never with an exponent. The search runs over the leading
digits of the exact decimal expansion, which is finite because a unit is a power of two: counting
units, the expansion is `units` times 5¹⁰⁷⁴ in decimal places of order -1074. The whole expansion
reads back, so the search always ends.
-/

namespace Scriptlet

/-- A non-negative decimal: `digits` times ten to the `exponent`. -/
structure Decimal where
  digits : Nat
  exponent : Int
  deriving DecidableEq, Repr

namespace Decimal

/-- The number nearest to a decimal. -/
def round (negative : Bool) (decimal : Decimal) : Number :=
  match decimal.exponent with
  | .ofNat power => .ofRatio negative (decimal.digits * Nat.pow 10 power * one) 1
  | .negSucc power => .ofRatio negative (decimal.digits * one) (Nat.pow 10 (power + 1))

/-- The same decimal without zeros at the end of its digits. -/
def trimmed (decimal : Decimal) : Decimal :=
  strip decimal.digits decimal.exponent decimal.digits
where
  /-- Moves final zeros into the exponent; the fuel bounds their number. -/
  strip (digits : Nat) (exponent : Int) : Nat → Decimal
    | 0 => ⟨digits, exponent⟩
    | fuel + 1 =>
        if digits ≠ 0 ∧ digits % 10 = 0 then strip (digits / 10) (exponent + 1) fuel
        else ⟨digits, exponent⟩

/-- The exact decimal expansion of a count of units. -/
def exact (units : Nat) : Decimal :=
  ⟨units * Nat.pow 5 unitPlaces, -(unitPlaces : Int)⟩

/-- The two neighbours of a decimal that keep all but its last `dropped` digits, nearest first; of
two equally near ones the even one comes first. -/
def neighbours (decimal : Decimal) (dropped : Nat) : Decimal × Decimal :=
  let scale := Nat.pow 10 dropped
  let below := decimal.digits / scale
  let twice := 2 * (decimal.digits % scale)
  let exponent := decimal.exponent + dropped
  if twice < scale ∨ (twice = scale ∧ below % 2 = 0) then (⟨below, exponent⟩, ⟨below + 1, exponent⟩)
  else (⟨below + 1, exponent⟩, ⟨below, exponent⟩)

/-- The first decimal that reads back as a number, dropping ever fewer digits of its expansion. -/
def search (number : Number) (expansion : Decimal) : Nat → Decimal
  | 0 => expansion
  | dropped + 1 =>
      let (near, far) := expansion.neighbours (dropped + 1)
      if near.round false = number then near
      else if far.round false = number then far
      else search number expansion dropped

/-- At least as many decimal digits as a natural number has: a binary digit is worth less than
0.30103 decimal ones. -/
def digitBound (number : Nat) : Nat :=
  (number.log2 + 1) * 30103 / 100000 + 1

/-- The shortest decimal that reads back as a positive number of units. -/
def shortest (units : Nat) (representable : Representable units) : Decimal :=
  let expansion := exact units
  (search (.finite false units representable) expansion (digitBound expansion.digits)).trimmed

/-- The text of a decimal, written out without an exponent. -/
def positional (decimal : Decimal) : Text :=
  let digits := Text.ofNat decimal.digits
  match decimal.exponent with
  | .ofNat power => digits ++ List.replicate power (byte '0')
  | .negSucc power =>
      let places := power + 1
      if places < digits.length then
        digits.take (digits.length - places) ++ byte '.' :: digits.drop (digits.length - places)
      else
        text "0." ++ List.replicate (places - digits.length) (byte '0') ++ digits

end Decimal

/-- The text of a number. -/
def Number.text : Number → Text
  | .nan => Scriptlet.text "NaN"
  | .infinite negative => Scriptlet.text (if negative then "-inf" else "inf")
  | .finite negative units representable =>
      let magnitude :=
        if units = 0 then Scriptlet.text "0" else (Decimal.shortest units representable).positional
      if negative then byte '-' :: magnitude else magnitude

end Scriptlet
