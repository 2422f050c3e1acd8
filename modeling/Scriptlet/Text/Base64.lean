import Scriptlet.Text.Basic

/-!
# Base 64

Bytes written with sixty-four letters, four letters for three bytes. What is missing from the last
four is filled up with equals signs. Line breaks stand for nothing.
-/

namespace Scriptlet.Base64

/-- The number that a letter stands for. -/
def letter? (letter : UInt8) : Option Nat :=
  if byte 'A' ≤ letter && letter ≤ byte 'Z' then some (letter.toNat - 65)
  else if byte 'a' ≤ letter && letter ≤ byte 'z' then some (letter.toNat - 71)
  else if byte '0' ≤ letter && letter ≤ byte '9' then some (letter.toNat + 4)
  else if letter = byte '+' then some 62
  else if letter = byte '/' then some 63
  else none

/-- The bytes that four letters stand for, without the last ones of them if letters are missing. -/
def group? (letters : List UInt8) : Option Text := do
  let values ← letters.mapM letter?
  let number := (values ++ List.replicate (4 - values.length) 0).foldl
    (fun number value => number * 64 + value) 0
  return [UInt8.ofNat (number / 65536), UInt8.ofNat (number / 256), UInt8.ofNat number].take
    (values.length - 1)

/-- Reads letters without line breaks. -/
def ofLetters? : Text → Option Text
  | [] => some []
  | [first, second, 61, 61] => group? [first, second]
  | [first, second, third, 61] => group? [first, second, third]
  | first :: second :: third :: fourth :: rest => do
      let bytes ← group? [first, second, third, fourth]
      let more ← ofLetters? rest
      return bytes ++ more
  | _ => none

/-- The bytes that a text spells. -/
def decode? (source : Text) : Option Text :=
  ofLetters? (source.filter fun next => next ≠ Text.newline && next ≠ Text.carriageReturn)

end Scriptlet.Base64
