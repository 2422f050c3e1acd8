import Scriptlet.Number.Decimal

/-!
# Numerals

The texts that denote numbers: an optional sign and decimal digits with an optional point and an
optional exponent, or hexadecimal digits after `0x` with a mandatory binary exponent, or the words
for infinity and for what is not a number. Single underscores may separate digits. `Numeral.ofText?`
accepts exactly these and keeps the exact value; `Numeral.value` rounds it.
-/

namespace Scriptlet

/-- What a numeral denotes, before rounding. -/
inductive Numeral where
  | nan
  | infinite (negative : Bool)
  | decimal (negative : Bool) (magnitude : Decimal)
  | binary (negative : Bool) (digits : Nat) (exponent : Int)
  deriving DecidableEq, Repr

namespace Numeral

/-- ASCII decimal digits. -/
def isDigit (byte : UInt8) : Bool :=
  48 ≤ byte && byte ≤ 57

/-- The lower-case form of an ASCII letter. -/
def lower (byte : UInt8) : UInt8 :=
  if 65 ≤ byte && byte ≤ 90 then byte + 32 else byte

/-- ASCII hexadecimal digits. -/
def isHexDigit (byte : UInt8) : Bool :=
  isDigit byte || (97 ≤ lower byte && lower byte ≤ 102)

/-- The value of a hexadecimal digit. -/
def digitValue (byte : UInt8) : Nat :=
  if isDigit byte then byte.toNat - 48 else (lower byte).toNat - 87

/-- The natural number that digits spell in a base. -/
def ofDigits (base : Nat) (digits : Text) : Nat :=
  digits.foldl (fun value digit => value * base + digitValue digit) 0

/-- An exponent stops growing once it has five digits: no number is that large or small. -/
def saturating (digits : Text) : Nat :=
  digits.foldl
    (fun value digit => if value < 10000 then value * 10 + digitValue digit else value) 0

/-- Splits a sign off. -/
def splitSign : Text → Bool × Text
  | [] => (false, [])
  | first :: rest =>
      if first = byte '-' then (true, rest)
      else if first = byte '+' then (false, rest)
      else (false, first :: rest)

/-- Reads an optional exponent that starts with the given letter and ends the text. -/
def exponent? (letter : Char) (mandatory : Bool) : Text → Option Int
  | [] => if mandatory then none else some 0
  | first :: rest =>
      let (negative, digits) := splitSign rest
      if lower first = byte letter && !digits.isEmpty && digits.all isDigit then
        some (if negative then -(saturating digits : Int) else saturating digits)
      else
        none

/-- Reads digits with an optional point: all the digits, how many follow the point, and the rest. -/
def mantissa? (test : UInt8 → Bool) (source : Text) : Option (Text × Nat × Text) :=
  let whole := source.takeWhile test
  match source.dropWhile test with
  | [] => if whole.isEmpty then none else some (whole, 0, [])
  | next :: rest =>
      if next = byte '.' then
        let fraction := rest.takeWhile test
        if whole.isEmpty && fraction.isEmpty then none
        else some (whole ++ fraction, fraction.length, rest.dropWhile test)
      else if whole.isEmpty then none
      else some (whole, 0, next :: rest)

/-- Whether a text without its sign starts like a hexadecimal numeral. -/
def isHexadecimal : Text → Bool
  | first :: second :: _ => first = byte '0' && lower second = byte 'x'
  | _ => false

/-- The words that denote no finite number. -/
def special? (signed negative : Bool) (word : Text) : Option Numeral :=
  let word := word.map lower
  if word = text "inf" || word = text "infinity" then some (.infinite negative)
  else if word = text "nan" && !signed then some .nan
  else none

/-- What an underscore may follow while the separators of a numeral are checked. -/
inductive Before where
  | digit
  | separator
  | other
  deriving DecidableEq

/-- Whether every underscore stands between two digits. -/
def separated (test : UInt8 → Bool) : Before → Text → Bool
  | before, [] => before ≠ .separator
  | before, next :: rest =>
      if test next then separated test .digit rest
      else if next = byte '_' then before = .digit && separated test .separator rest
      else before ≠ .separator && separated test .other rest

/-- Whether the underscores of an unsigned numeral separate digits; the mark of a hexadecimal
numeral counts as one. -/
def wellSeparated (source : Text) : Bool :=
  if isHexadecimal source then separated isHexDigit .digit (source.drop 2)
  else separated isDigit .other source

/-- Reads an unsigned numeral without underscores. -/
def unsigned? (negative : Bool) (source : Text) : Option Numeral :=
  if isHexadecimal source then do
    let (digits, places, rest) ← mantissa? isHexDigit (source.drop 2)
    let exponent ← exponent? 'p' true rest
    return .binary negative (ofDigits 16 digits) (exponent - 4 * places)
  else do
    let (digits, places, rest) ← mantissa? isDigit source
    let exponent ← exponent? 'e' false rest
    return .decimal negative ⟨ofDigits 10 digits, exponent - places⟩

/-- Reads a whole text as a numeral. -/
def ofText? (source : Text) : Option Numeral :=
  let (negative, rest) := splitSign source
  match special? (rest.length < source.length) negative rest with
  | some numeral => some numeral
  | none =>
      if rest.contains (byte '_') then
        if wellSeparated rest then unsigned? negative (rest.filter (· ≠ byte '_')) else none
      else
        unsigned? negative rest

/-- The number nearest to what a numeral denotes. -/
def value : Numeral → Number
  | .nan => .nan
  | .infinite negative => .infinite negative
  | .decimal negative magnitude => magnitude.round negative
  | .binary negative digits exponent =>
      match exponent + unitPlaces with
      | .ofNat power => .ofRatio negative (digits * Nat.pow 2 power) 1
      | .negSucc power => .ofRatio negative digits (Nat.pow 2 (power + 1))

/-- Whether a finite numeral is too large for any finite number. -/
def overflows : Numeral → Bool
  | .nan => false
  | .infinite _ => false
  | numeral => match numeral.value with
    | .infinite _ => true
    | _ => false

/-- Whether a text without separators is written in hexadecimal, whatever its signs. -/
def looksHexadecimal (source : Text) : Bool :=
  isHexadecimal (source.dropWhile fun byte => byte = 43 || byte = 45)

/-- The number a text of decimal digits denotes; separators and hexadecimal are refused, and a
value beyond every finite number is infinite. -/
def decimal? (source : Text) : Option Number :=
  if source.contains (byte '_') || looksHexadecimal source then none
  else (ofText? source).map value

/-- Whether a text is a numeral of some number, out-of-range ones apart. -/
def isNumeral (source : Text) : Bool :=
  match ofText? source with
  | some numeral => !numeral.overflows
  | none => false

end Numeral

end Scriptlet
