import Scriptlet.Json.Basic

/-!
# Reading JSON

A text is first cut into symbols, then the symbols are read one at a time by a machine whose stack
holds the containers that are still open. Values nest at most ten thousand deep.
-/

namespace Scriptlet.Json

/-- A mark or a scalar of a JSON text. -/
inductive Symbol where
  | openObject
  | closeObject
  | openArray
  | closeArray
  | colon
  | comma
  | scalar (value : Json)

/-- White space between symbols. -/
def isBlank (byte : UInt8) : Bool :=
  byte = 32 || byte = 9 || byte = 10 || byte = 13

/-- The decimal digits. -/
def isDigit (byte : UInt8) : Bool :=
  48 ≤ byte && byte ≤ 57

/-- How many bytes stand before the quote that ends a string. -/
def spellingLength? : Text → Option Nat
  | [] => none
  | 34 :: _ => some 0
  | 92 :: _ :: rest => (spellingLength? rest).map (· + 2)
  | _ :: rest => (spellingLength? rest).map (· + 1)

/-- The length of a run of digits. -/
def digitRun (source : Text) : Nat :=
  (source.takeWhile isDigit).length

/-- The length of the whole part of a number: a zero, or digits that start with another one. -/
def wholeLength? : Text → Option Nat
  | 48 :: _ => some 1
  | source => if digitRun source = 0 then none else some (digitRun source)

/-- The length of an optional fraction, or nothing if a point has no digits behind it. -/
def fractionLength? : Text → Option Nat
  | 46 :: rest => if digitRun rest = 0 then none else some (1 + digitRun rest)
  | _ => some 0

/-- The length of the exponent's sign. -/
def signLength : Text → Nat
  | 43 :: _ => 1
  | 45 :: _ => 1
  | _ => 0

/-- The length of an optional exponent, or nothing if its mark has no digits behind it. -/
def exponentLength? : Text → Option Nat
  | mark :: rest =>
      if mark = 101 || mark = 69 then
        let sign := signLength rest
        let digits := digitRun (rest.drop sign)
        if digits = 0 then none else some (1 + sign + digits)
      else
        some 0
  | [] => some 0

/-- The length of the number that a text starts with. -/
def numberLength? (source : Text) : Option Nat := do
  let sign := match source with
    | 45 :: _ => 1
    | _ => 0
  let whole ← wholeLength? (source.drop sign)
  let fraction ← fractionLength? (source.drop (sign + whole))
  let exponent ← exponentLength? (source.drop (sign + whole + fraction))
  return sign + whole + fraction + exponent

/-- The word that a text starts with, and its length. -/
def word? (source : Text) : Option (Json × Nat) :=
  if (text "null").isPrefixOf source then some (.null, 4)
  else if (text "true").isPrefixOf source then some (.bool true, 4)
  else if (text "false").isPrefixOf source then some (.bool false, 5)
  else none

/-- The symbol that starts with a byte, and how many of the following bytes it takes. -/
def symbol? (first : UInt8) (rest : Text) : Option (Symbol × Nat) :=
  match first with
  | 123 => some (.openObject, 0)
  | 125 => some (.closeObject, 0)
  | 91 => some (.openArray, 0)
  | 93 => some (.closeArray, 0)
  | 58 => some (.colon, 0)
  | 44 => some (.comma, 0)
  | 34 => do
      let length ← spellingLength? rest
      let spelling := rest.take length
      let _ ← parts? spelling
      return (.scalar (.string spelling), length + 1)
  | _ =>
      match word? (first :: rest) with
      | some (value, length) => some (.scalar value, length - 1)
      | none => do
          let length ← numberLength? (first :: rest)
          return (.scalar (.number ((first :: rest).take length)), length - 1)

/-- Cuts a text into symbols, behind those cut so far, which are kept latest first. -/
def symbolsFrom? (done : List Symbol) : Text → Option (List Symbol)
  | [] => some done.reverse
  | first :: rest =>
      if isBlank first then symbolsFrom? done rest
      else match symbol? first rest with
        | some (symbol, length) => symbolsFrom? (symbol :: done) (rest.drop length)
        | none => none
termination_by source => source.length
decreasing_by
  · simp
  · simp only [List.length_cons, List.length_drop]; omega

/-- A container that is still open, with what it holds so far, latest first. -/
inductive Container where
  | array (items : List Json)
  | object (members : List (Text × Json))
  | member (members : List (Text × Json)) (name : Text)

/-- What the machine expects next. -/
inductive Expectation where
  | value
  | firstItem
  | firstName
  | name
  | colon
  | separator
  | nothing (value : Json)

/-- The containers still open, innermost first and counted, and what is expected next. -/
structure State where
  expects : Expectation
  containers : List Container
  depth : Nat

/-- How deep values may nest. -/
def nestingLimit : Nat := 10000

/-- Puts a finished value into the innermost container. -/
def finishValue (value : Json) (containers : List Container) (depth : Nat) : Option State :=
  match containers with
  | [] => some ⟨.nothing value, [], depth⟩
  | .array items :: rest => some ⟨.separator, .array (value :: items) :: rest, depth⟩
  | .member members name :: rest =>
      some ⟨.separator, .object ((name, value) :: members) :: rest, depth⟩
  | .object _ :: _ => none

/-- Opens a container. -/
def openContainer (container : Container) (expects : Expectation) (state : State) : Option State :=
  if state.depth < nestingLimit then
    some ⟨expects, container :: state.containers, state.depth + 1⟩
  else
    none

/-- Reads a symbol where a value is expected. -/
def takeValue (state : State) : Symbol → Option State
  | .scalar value => finishValue value state.containers state.depth
  | .openArray => openContainer (.array []) .firstItem state
  | .openObject => openContainer (.object []) .firstName state
  | _ => none

/-- Reads a symbol where a member's name is expected. -/
def takeName (state : State) : Symbol → Option State
  | .scalar (.string name) =>
      match state.containers with
      | .object members :: rest => some ⟨.colon, .member members name :: rest, state.depth⟩
      | _ => none
  | _ => none

/-- Closes the innermost container. -/
def close (state : State) (symbol : Symbol) : Option State :=
  match symbol, state.containers with
  | .closeArray, .array items :: rest =>
      finishValue (.array items.reverse) rest (state.depth - 1)
  | .closeObject, .object members :: rest =>
      finishValue (.object members.reverse) rest (state.depth - 1)
  | _, _ => none

/-- Reads a symbol. -/
def take (state : State) (symbol : Symbol) : Option State :=
  match state.expects with
  | .value => takeValue state symbol
  | .firstItem =>
      match symbol with
      | .closeArray => close state symbol
      | _ => takeValue state symbol
  | .firstName =>
      match symbol with
      | .closeObject => close state symbol
      | _ => takeName state symbol
  | .name => takeName state symbol
  | .colon =>
      match symbol with
      | .colon => some { state with expects := .value }
      | _ => none
  | .separator =>
      match symbol, state.containers with
      | .comma, .array _ :: _ => some { state with expects := .value }
      | .comma, .object _ :: _ => some { state with expects := .name }
      | _, _ => close state symbol
  | .nothing _ => none

/-- Reads a whole text as one value. -/
def ofSource? (source : Text) : Option Json := do
  let symbols ← symbolsFrom? [] source
  let state ← symbols.foldlM take ⟨.value, [], 0⟩
  match state.expects with
  | .nothing value => some value
  | _ => none

end Scriptlet.Json
