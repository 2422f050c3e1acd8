import Scriptlet.Number.Decimal

/-!
# Values

The values of the language: nothing, truth values, numbers and texts.
-/

namespace Scriptlet

/-- What an expression evaluates to. -/
inductive Value where
  | nil
  | bool (truth : Bool)
  | number (amount : Number)
  | string (content : Text)
  deriving DecidableEq

namespace Value

/-- The text that printing shows; texts are shown without quotes. -/
def text : Value → Text
  | .nil => Scriptlet.text "nil"
  | .bool truth => Scriptlet.text (if truth then "true" else "false")
  | .number amount => amount.text
  | .string content => content

/-- The text that messages and prefix forms show: a text stands in plain double quotes. -/
def inspect : Value → Text
  | .string content => byte '"' :: content ++ [byte '"']
  | value => value.text

/-- What negation takes a value for. Numbers count as true, nothing as false, and of the texts the
empty one alone counts as true. -/
def isTruthy : Value → Bool
  | .nil => false
  | .bool truth => truth
  | .number _ => true
  | .string content => content.isEmpty

/-- Whether a value is nothing. -/
def isNil : Value → Bool
  | .nil => true
  | _ => false

/-- The truth value held, false for any other kind of value. -/
def toBool : Value → Bool
  | .bool truth => truth
  | _ => false

/-- The number held, zero for any other kind of value. -/
def toNumber : Value → Number
  | .number amount => amount
  | _ => .zero false

end Value

end Scriptlet
