import Scriptlet.Number.Numeral

/-!
# Points in time

A date is a year of four digits, a month and a day, joined by hyphens. A time of day may follow it:
behind a letter T it has an offset from universal time, behind spaces it has none.
-/

namespace Scriptlet.Yaml

namespace Timestamp

/-- Reads a number of one digit or two. -/
def number? : Text → Option (Nat × Text)
  | first :: second :: rest =>
      if !Numeral.isDigit first then none
      else if Numeral.isDigit second then
        some (Numeral.digitValue first * 10 + Numeral.digitValue second, rest)
      else some (Numeral.digitValue first, second :: rest)
  | [first] => if Numeral.isDigit first then some (Numeral.digitValue first, []) else none
  | [] => none

/-- Reads a number below a limit. -/
def below? (limit : Nat) (source : Text) : Option (Nat × Text) :=
  (number? source).filter fun (value, _) => value < limit

/-- Passes over a mark. -/
def mark? (mark : Char) : Text → Option Text
  | [] => none
  | first :: rest => if first = byte mark then some rest else none

/-- The number of days of a month. -/
def daysOf (year month : Nat) : Nat :=
  match month with
  | 2 => if year % 4 = 0 && (year % 100 ≠ 0 || year % 400 = 0) then 29 else 28
  | 4 | 6 | 9 | 11 => 30
  | _ => 31

/-- Reads a date, and gives what follows it. -/
def date? (source : Text) : Option Text := do
  let digits := source.takeWhile Numeral.isDigit
  if digits.length ≠ 4 then none
  else
    let year := Numeral.ofDigits 10 digits
    let rest ← mark? '-' (source.drop 4)
    let (month, rest) ← below? 13 rest
    let rest ← mark? '-' rest
    let (day, rest) ← number? rest
    if 1 ≤ month && 1 ≤ day && day ≤ daysOf year month then some rest else none

/-- Passes over the fraction of a second, if there is one. -/
def skipFraction : Text → Text
  | point :: digit :: rest =>
      if (point = byte '.' || point = byte ',') && Numeral.isDigit digit then
        rest.dropWhile Numeral.isDigit
      else point :: digit :: rest
  | source => source

/-- Reads a time of day, and gives what follows it. -/
def clock? (source : Text) : Option Text := do
  let (_, rest) ← below? 24 source
  let rest ← mark? ':' rest
  let (_, rest) ← below? 60 rest
  let rest ← mark? ':' rest
  let (_, rest) ← below? 60 rest
  return skipFraction rest

/-- Whether a text is an offset from universal time: a letter Z, or hours and minutes. -/
def isOffset : Text → Bool
  | [90] => true
  | [sign, hour, hourUnit, 58, minute, minuteUnit] =>
      (sign = byte '+' || sign = byte '-') &&
        [hour, hourUnit, minute, minuteUnit].all Numeral.isDigit &&
        Numeral.ofDigits 10 [hour, hourUnit] ≤ 24 && Numeral.ofDigits 10 [minute, minuteUnit] ≤ 60
  | _ => false

end Timestamp

/-- Whether a text is a point in time. -/
def isTimestamp (source : Text) : Bool :=
  match Timestamp.date? source with
  | none => false
  | some [] => true
  | some (next :: rest) =>
      if next = byte 'T' || next = byte 't' then
        ((Timestamp.clock? rest).map Timestamp.isOffset).getD false
      else if next = byte ' ' then
        ((Timestamp.clock? (rest.dropWhile (· = byte ' '))).map List.isEmpty).getD false
      else false

end Scriptlet.Yaml
