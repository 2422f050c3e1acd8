import Scriptlet.Token.Basic

/-!
# Faults and failures

A fault is something wrong with a program, found while cutting it into tokens, while reading it or
while running it. Faults are kept as causes; `Fault.message` words them. A failure is the reason
why an operation gave no result: one fault, several, or something outside the program.
-/

namespace Scriptlet

/-- The stage that finds a fault. -/
inductive Stage where
  | lexical
  | grammatical
  | runtime
  | other (code : Int)
  deriving DecidableEq, Repr

/-- The name of the kind of fault that a stage finds. -/
def Stage.name : Stage → Text
  | .lexical => text "lexical error"
  | .grammatical => text "syntax error"
  | .runtime => text "runtime error"
  | .other code => text "error(" ++ Text.ofInt code ++ text ")"

/-- Why a program is at fault. -/
inductive Cause where
  | unexpectedCharacter (character : Char)
  | unterminatedString
  | unterminatedComment
  | expectedExpression
  | expectedParen
  | expectedSemicolon
  | expectedEnd
  | tooDeep
  | malformedLiteral
  | invalidOperands (operator : Text) (left right : Value)
  | invalidOperand (operand : Value)
  | unreadableNumber (operand : Value)
  | unsupportedUnary (operator : Text)
  | unsupportedBinary (operator : Text)
  | custom (stage : Stage) (note : Text)
  deriving DecidableEq

namespace Cause

/-- The stage that finds faults of a cause. -/
def stage : Cause → Stage
  | .unexpectedCharacter _ | .unterminatedString | .unterminatedComment => .lexical
  | .expectedExpression | .expectedParen | .expectedSemicolon | .expectedEnd | .tooDeep
  | .malformedLiteral => .grammatical
  | .invalidOperands .. | .invalidOperand _ | .unreadableNumber _ | .unsupportedUnary _
  | .unsupportedBinary _ => .runtime
  | .custom stage _ => stage

/-- The wording of a cause. -/
def message : Cause → Text
  | .unexpectedCharacter character => text "unexpected character " ++ Quoted.ofChar character
  | .unterminatedString => text "unterminated string"
  | .unterminatedComment => text "unterminated block comment"
  | .expectedExpression => text "expected expression"
  | .expectedParen => text "expect ')' after expression"
  | .expectedSemicolon => text "expect ';' after expression"
  | .expectedEnd => text "expect end of expression"
  | .tooDeep => text "expression nests too deeply"
  | .malformedLiteral => text "malformed literal"
  | .invalidOperands operator left right =>
      text "invalid operands for " ++ operator ++ text ": " ++ left.inspect ++ text " and " ++
        right.inspect
  | .invalidOperand operand => text "invalid operand for unary +: " ++ operand.inspect
  | .unreadableNumber operand =>
      text "could not parse " ++ operand.inspect ++ text " to a number"
  | .unsupportedUnary operator => text "unsupported unary operator " ++ operator
  | .unsupportedBinary operator => text "unsupported binary operator " ++ operator
  | .custom _ note => note

end Cause

/-- Something wrong with a program, on a line and perhaps at a token. -/
structure Fault where
  cause : Cause
  line : Int
  token : Option Token := none
  deriving DecidableEq

namespace Fault

/-- A fault at a token lies on the token's line. -/
def atToken (token : Token) (cause : Cause) : Fault :=
  ⟨cause, token.line, some token⟩

/-- The stage that found a fault. -/
def stage (fault : Fault) : Stage :=
  fault.cause.stage

/-- The wording of a fault without its place. -/
def message (fault : Fault) : Text :=
  fault.cause.message

/-- Where a fault lies, as shown between its line and its wording. -/
def place (fault : Fault) : Text :=
  match fault.token with
  | none => []
  | some token =>
      if token.kind = .eof then Scriptlet.text " at end"
      else Scriptlet.text " at '" ++ token.lexeme ++ Scriptlet.text "'"

/-- The full wording of a fault. -/
def text (fault : Fault) : Text :=
  Scriptlet.text "[line " ++ Text.ofInt fault.line ++ Scriptlet.text "] Error" ++ fault.place ++
    Scriptlet.text ": " ++ fault.message

end Fault

/-- The wording of several faults, one after the other on lines of their own. -/
def faultsText (faults : List Fault) : Text :=
  Text.joinWith [Text.newline] (faults.map Fault.text)

/-- Why an operation gave no result. -/
inductive Failure where
  | fault (found : Fault)
  | faults (found : List Fault)
  | absentExpression
  | absentStatement
  | invalidDepth (depth : Int)
  | plain (note : Text)
  | within (context : Text) (failure : Failure)
  deriving DecidableEq

namespace Failure

/-- The failure of a list of faults: none, the only one, or all of them. -/
def ofFaults? : List Fault → Option Failure
  | [] => none
  | [found] => some (.fault found)
  | found => some (.faults found)

/-- The wording of a failure. -/
def text : Failure → Text
  | .fault found => found.text
  | .faults found => faultsText found
  | .absentExpression => Scriptlet.text "unsupported expression <nil>"
  | .absentStatement => Scriptlet.text "unsupported statement <nil>"
  | .invalidDepth depth => Scriptlet.text "max depth must be positive, got " ++ Text.ofInt depth
  | .plain note => note
  | .within context failure => context ++ Scriptlet.text ": " ++ failure.text

/-- The faults that a failure carries, if it is one of the program's. -/
def faults? : Failure → Option (List Fault)
  | .fault found => some [found]
  | .faults found => some found
  | .within _ failure => failure.faults?
  | _ => none

end Failure

end Scriptlet
