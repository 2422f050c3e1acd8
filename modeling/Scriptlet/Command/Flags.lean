import Scriptlet.Number.Integer
import Scriptlet.Text.Quoted

/-!
# Flags

Options on a command line. A flag is one or two hyphens and a name; a value follows behind an equals
sign, or as the next argument if the flag is no switch. Flags end at the first argument that is
none, or at a pair of hyphens, which is left out.
-/

namespace Scriptlet

/-- What a flag takes. -/
inductive FlagKind where
  | switch
  | word
  | integer
  deriving DecidableEq, Repr

/-- What a flag was given. -/
inductive FlagValue where
  | switch (on : Bool)
  | word (content : Text)
  | integer (value : Int)
  deriving DecidableEq

/-- What is wrong with a flag. -/
inductive FlagProblem where
  | malformed (argument : Text)
  | undefined (name : Text)
  | valueMissing (name : Text)
  | invalidSwitch (value name : Text)
  | invalidInteger (value name : Text) (reason : Integer.Misread)
  | helpRequested
  deriving DecidableEq

/-- The wording of what is wrong with a flag. -/
def FlagProblem.message : FlagProblem → Text
  | .malformed argument => text "bad flag syntax: " ++ argument
  | .undefined name => text "flag provided but not defined: -" ++ name
  | .valueMissing name => text "flag needs an argument: -" ++ name
  | .invalidSwitch value name =>
      text "invalid boolean value " ++ Quoted.ofText value ++ text " for -" ++ name ++
        text ": parse error"
  | .invalidInteger value name reason =>
      text "invalid value " ++ Quoted.ofText value ++ text " for flag -" ++ name ++ text ": " ++
        text (match reason with
          | .malformed => "parse error"
          | .outOfRange => "value out of range")
  | .helpRequested => text "flag: help requested"

/-- The flags of a command line, in order, and the arguments behind them. -/
structure Flags where
  given : List (String × FlagValue) := []
  rest : List Text := []

namespace Flags

/-- What a flag was given last. -/
def value? (flags : Flags) (name : String) : Option FlagValue :=
  (flags.given.reverse.find? fun entry => entry.1 = name).map Prod.snd

/-- Whether a switch is on; one that is not given is off. -/
def isOn (flags : Flags) (name : String) : Bool :=
  match flags.value? name with
  | some (.switch on) => on
  | _ => false

/-- The word that a flag was given; one that is not given has the empty word. -/
def word (flags : Flags) (name : String) : Text :=
  match flags.value? name with
  | some (.word content) => content
  | _ => []

/-- The integer that a flag was given, or a default. -/
def integer (flags : Flags) (name : String) (default : Int) : Int :=
  match flags.value? name with
  | some (.integer value) => value
  | _ => default

/-- An argument as a flag: its name, and its value if that stands behind an equals sign. -/
inductive Shape where
  | argument
  | terminator
  | malformed
  | flag (name : Text) (value : Option Text)
  deriving DecidableEq

/-- Splits what follows the hyphens at the first equals sign; a name has at least one byte. -/
def splitName (body : Text) : Shape :=
  match body with
  | [] => .malformed
  | first :: rest =>
      if first = byte '-' || first = byte '=' then .malformed
      else match Text.cut? (· = byte '=') rest with
        | some (name, value) => .flag (first :: name) (some value)
        | none => .flag body none

/-- What an argument is. A single hyphen is no flag. -/
def shape (argument : Text) : Shape :=
  match argument with
  | 45 :: 45 :: [] => .terminator
  | 45 :: 45 :: body => splitName body
  | 45 :: first :: rest => splitName (first :: rest)
  | _ => .argument

/-- The truth value that a switch is set to in words. -/
def switchValue? (value : Text) : Option Bool :=
  if ["1", "t", "T", "TRUE", "true", "True"].any fun word => text word = value then some true
  else if ["0", "f", "F", "FALSE", "false", "False"].any fun word => text word = value then
    some false
  else none

/-- Reads the value that a flag of the given kind was given. -/
def readValue (kind : FlagKind) (name value : Text) : Except FlagProblem FlagValue :=
  match kind with
  | .switch =>
      match switchValue? value with
      | some on => .ok (.switch on)
      | none => .error (.invalidSwitch value name)
  | .word => .ok (.word value)
  | .integer =>
      match Integer.read value with
      | .ok number => .ok (.integer number)
      | .error reason => .error (.invalidInteger value name reason)

/-- Puts a flag in front. -/
def give (name : String) (value : FlagValue) (flags : Flags) : Flags :=
  { flags with given := (name, value) :: flags.given }

/-- Reads the flags of a command line, given the names of those that the command has. -/
def read (known : List (String × FlagKind)) : List Text → Except FlagProblem Flags
  | [] => .ok {}
  | argument :: rest =>
      match shape argument with
      | .argument => .ok { rest := argument :: rest }
      | .terminator => .ok { rest }
      | .malformed => .error (.malformed argument)
      | .flag name value =>
          match known.find? fun entry => text entry.1 = name with
          | none =>
              if name = text "help" || name = text "h" then .error .helpRequested
              else .error (.undefined name)
          | some (knownName, kind) =>
              match value with
              | some value => do
                  let value ← readValue kind name value
                  return (← read known rest).give knownName value
              | none =>
                  if kind = .switch then do
                    return (← read known rest).give knownName (.switch true)
                  else match rest with
                    | [] => .error (.valueMissing name)
                    | next :: after => do
                        let value ← readValue kind name next
                        return (← read known after).give knownName value

end Flags

end Scriptlet
