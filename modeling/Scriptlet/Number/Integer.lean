import Scriptlet.Number.Numeral

/-!
# Integer numerals

Integers as they are written on command lines and in settings: an optional sign, an optional mark
for base two, eight or sixteen (a leading zero alone means eight), and digits. Underscores may
separate digits where they are allowed at all.
-/

namespace Scriptlet.Integer

/-- Why a text is no integer of 64 bits. -/
inductive Misread where
  | malformed
  | outOfRange
  deriving DecidableEq, Repr

/-- The base that an unsigned numeral is written in, and the digits behind its mark. -/
def splitBase (source : Text) : Nat × Text :=
  match source with
  | 48 :: mark :: digit :: rest =>
      if Numeral.lower mark = byte 'x' then (16, digit :: rest)
      else if Numeral.lower mark = byte 'o' then (8, digit :: rest)
      else if Numeral.lower mark = byte 'b' then (2, digit :: rest)
      else (8, mark :: digit :: rest)
  | 48 :: digit :: rest => (8, digit :: rest)
  | _ => (10, source)

/-- The value of a digit in a base. -/
def digit? (base : Nat) (digit : UInt8) : Option Nat :=
  if Numeral.isHexDigit digit && Numeral.digitValue digit < base then
    some (Numeral.digitValue digit)
  else
    none

/-- Reads digits behind a value as long as the value fits 64 bits; underscores may be passed over.
The first thing wrong counts, be it a byte that is no digit or a digit too many. -/
def readDigits (underscores : Bool) (base value : Nat) : Text → Except Misread Nat
  | [] => .ok value
  | next :: rest =>
      if underscores && next = byte '_' then readDigits underscores base value rest
      else match digit? base next with
        | none => .error .malformed
        | some digit =>
            if value * base + digit < Nat.pow 2 64 then
              readDigits underscores base (value * base + digit) rest
            else
              .error .outOfRange

/-- Whether the underscores of an unsigned numeral separate digits; the mark of the base counts as
one. -/
def wellSeparated (source : Text) : Bool :=
  match source with
  | 48 :: mark :: rest =>
      if Numeral.lower mark = byte 'x' then Numeral.separated Numeral.isHexDigit .digit rest
      else if Numeral.lower mark = byte 'o' || Numeral.lower mark = byte 'b' then
        Numeral.separated Numeral.isDigit .digit rest
      else Numeral.separated Numeral.isDigit .other source
  | _ => Numeral.separated Numeral.isDigit .other source

/-- Reads an unsigned integer below 2⁶⁴. -/
def readUnsigned (source : Text) : Except Misread Nat :=
  if source.isEmpty then .error .malformed
  else
    let (base, digits) := splitBase source
    match readDigits true base 0 digits with
    | .error misread => .error misread
    | .ok value =>
        if source.contains (byte '_') && !wellSeparated source then .error .malformed else .ok value

/-- The signed integer of 64 bits with a sign and a magnitude. -/
def signed (negative : Bool) (value : Nat) : Except Misread Int :=
  if negative then if value ≤ Nat.pow 2 63 then .ok (-(value : Int)) else .error .outOfRange
  else if value < Nat.pow 2 63 then .ok value
  else .error .outOfRange

/-- Reads a signed integer of 64 bits. -/
def read (source : Text) : Except Misread Int :=
  let (negative, digits) := Numeral.splitSign source
  match readUnsigned digits with
  | .error misread => .error misread
  | .ok value => signed negative value

/-- Reads a signed integer of 64 bits that is written with decimal digits alone. -/
def readDecimal (source : Text) : Except Misread Int :=
  let (negative, digits) := Numeral.splitSign source
  if digits.isEmpty then .error .malformed
  else match readDigits false 10 0 digits with
    | .error misread => .error misread
    | .ok value => signed negative value

end Scriptlet.Integer
