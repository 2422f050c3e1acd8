import Scriptlet.Program.Statement

/-!
# Reading programs

Tokens are read one at a time by a machine with an explicit stack. Inside an expression the machine
is in one of two phases: it expects an operand, or it has one and expects an operator. What is still
open is a list of frames: prefix operators and parentheses, which nest and count against a depth
limit, and infix operators that wait for their right operand. Infix operators come in four tiers;
all of them associate to the left, and a tighter tier is reduced before a looser operator is pushed.

Around expressions the machine reads statements, and after a fault it can skip to the next statement
boundary and go on. Every token is one step, which yields at most one statement or fault.
`Program.ofTokens` stops at the first fault; `Program.recover` collects all of them.
-/

namespace Scriptlet

/-- How deep expressions may nest unless something else is asked for. -/
def defaultDepth : Nat := 512

/-- The depth limit that a setting stands for: nothing positive means the default. -/
def depthLimit (setting : Int) : Nat :=
  if setting ≤ 0 then defaultDepth else setting.toNat

/-- The tiers of infix operators, from the loosest to the tightest. -/
inductive Tier where
  | equality
  | comparison
  | term
  | factor
  deriving DecidableEq, Repr

namespace Tier

/-- A tighter tier has a higher rank. -/
def rank : Tier → Nat
  | .equality => 0
  | .comparison => 1
  | .term => 2
  | .factor => 3

/-- The tier of an infix operator. -/
def ofKind? : TokenKind → Option Tier
  | .equalEqual | .bangEqual => some .equality
  | .greater | .greaterEqual | .less | .lessEqual | .keyword .inWord | .bangIn => some .comparison
  | .minus | .plus => some .term
  | .star | .slash => some .factor
  | _ => none

end Tier

/-- Something open in the expression being read. -/
inductive Opening where
  | unary (operator : Token)
  | group
  | binary (left : Expr) (operator : Token) (tier : Tier)
  deriving DecidableEq

namespace Opening

/-- Prefix operators and parentheses nest. -/
def nests : Opening → Bool
  | .unary _ | .group => true
  | .binary .. => false

/-- How deep the openings nest. -/
def depth (openings : List Opening) : Nat :=
  openings.countP nests

/-- Completes the infix operators of a tier and of all tighter ones with their right operand. -/
def reduce (tier : Tier) (operand : Expr) : List Opening → Expr × List Opening
  | .binary left operator own :: rest =>
      if tier.rank ≤ own.rank then reduce tier (.binary left operator operand) rest
      else (operand, .binary left operator own :: rest)
  | openings => (operand, openings)

end Opening

/-- Where the machine is inside an expression. -/
inductive Phase where
  | expecting (openings : List Opening)
  | holding (value : Expr) (openings : List Opening)
  deriving DecidableEq

/-- What a token does to an expression being read. -/
inductive Progress where
  | continues (phase : Phase)
  | ended (expr : Expr)
  | faulty (cause : Cause) (taken : Bool)
  deriving DecidableEq

namespace Phase

/-- A complete operand goes to the prefix operators right before it. -/
def complete (operand : Expr) : List Opening → Phase
  | .unary operator :: rest => complete (.unary operator operand) rest
  | openings => .holding operand openings

/-- Opens a prefix operator or a parenthesis unless that nests too deeply. -/
def nest (limit : Nat) (opening : Opening) (openings : List Opening) : Progress :=
  if limit ≤ Opening.depth openings then .faulty .tooDeep true
  else .continues (.expecting (opening :: openings))

/-- Reads a token where an operand is expected. -/
def takeOperand (limit : Nat) (openings : List Opening) (token : Token) : Progress :=
  match token.kind with
  | .keyword .falseWord =>
      .continues (complete (.literal (some (.bool false)) token.line) openings)
  | .keyword .trueWord =>
      .continues (complete (.literal (some (.bool true)) token.line) openings)
  | .keyword .nilWord => .continues (complete (.literal (some .nil) token.line) openings)
  | .number | .string =>
      match token.literal with
      | some value => .continues (complete (.literal (some value) token.line) openings)
      | none => .faulty .malformedLiteral true
  | .leftParen => nest limit .group openings
  | .bang | .minus | .plus | .keyword .notWord => nest limit (.unary token) openings
  | _ => .faulty .expectedExpression false

/-- Reads a token where an operator is expected. A token that continues nothing ends the expression,
unless a parenthesis is still open. -/
def takeOperator (value : Expr) (openings : List Opening) (token : Token) : Progress :=
  match Tier.ofKind? token.kind with
  | some tier =>
      let (left, rest) := Opening.reduce tier value openings
      .continues (.expecting (.binary left token tier :: rest))
  | none =>
      match Opening.reduce .equality value openings with
      | (inner, .group :: rest) =>
          if token.kind = .rightParen then .continues (complete (.group inner) rest)
          else .faulty .expectedParen false
      | (whole, _) => .ended whole

/-- Reads a token. -/
def take (limit : Nat) (phase : Phase) (token : Token) : Progress :=
  match phase with
  | .expecting openings => takeOperand limit openings token
  | .holding value openings => takeOperator value openings token

/-- The expression read when the tokens end here. -/
def finish : Phase → Except Cause Expr
  | .expecting _ => .error .expectedExpression
  | .holding value openings =>
      match Opening.reduce .equality value openings with
      | (_, .group :: _) => .error .expectedParen
      | (whole, _) => .ok whole

end Phase

/-- Tokens to read: those before the first end mark, and that mark. -/
structure Input where
  body : List Token
  ending : Token

namespace Input

/-- Takes a token list up to its first end mark; a list that does not end in one is given one on
its last line. -/
def ofTokens (tokens : List Token) : Input where
  body := tokens.takeWhile fun token => token.kind ≠ .eof
  ending := (tokens.find? fun token => token.kind = .eof).getD
    { kind := .eof, line := (tokens.getLast?.map Token.line).getD 1 }

end Input

namespace Expr

/-- Reads an expression that the remaining tokens spell out, one final semicolon apart. -/
def read (limit : Nat) (ending : Token) (phase : Phase) : List Token → Except Fault Expr
  | [] =>
      match phase.finish with
      | .ok expr => .ok expr
      | .error cause => .error (.atToken ending cause)
  | token :: rest =>
      match phase.take limit token with
      | .continues next => read limit ending next rest
      | .faulty cause _ => .error (.atToken token cause)
      | .ended expr =>
          if token.kind = .semicolon then
            match rest with
            | [] => .ok expr
            | extra :: _ => .error (.atToken extra .expectedEnd)
          else
            .error (.atToken token .expectedEnd)

/-- Reads a token list as one expression. -/
def ofTokens (limit : Nat) (tokens : List Token) : Except Fault Expr :=
  let input := Input.ofTokens tokens
  read limit input.ending (.expecting []) input.body

end Expr

namespace Program

/-- Where the machine is in a program. After a fault it skips tokens; when the blamed token has
already been taken, the next one is skipped whatever it is. -/
inductive State where
  | ready
  | reading (keyword : Option Int) (phase : Phase)
  | startled
  | skipping
  deriving DecidableEq

/-- What a token completes. -/
inductive Event where
  | read (statement : Statement)
  | fault (found : Fault)
  deriving DecidableEq

/-- The statement that starts with a print keyword on a line, or with no keyword. -/
def statement (keyword : Option Int) (expr : Expr) : Statement :=
  match keyword with
  | some line => .print expr line
  | none => .expression expr

/-- The state after a token has been skipped. -/
def afterSkipped (token : Token) : State :=
  if token.kind = .semicolon then .ready else .skipping

/-- Reads a token inside a statement. -/
def inside (limit : Nat) (keyword : Option Int) (phase : Phase) (token : Token) :
    State × Option Event :=
  match phase.take limit token with
  | .continues next => (.reading keyword next, none)
  | .ended expr =>
      if token.kind = .semicolon then (.ready, some (.read (statement keyword expr)))
      else (afterSkipped token, some (.fault (.atToken token .expectedSemicolon)))
  | .faulty cause taken =>
      (if taken then .startled else afterSkipped token, some (.fault (.atToken token cause)))

/-- Reads a token that starts a statement. -/
def start (limit : Nat) (token : Token) : State × Option Event :=
  if token.kind = .keyword .printWord then (.reading (some token.line) (.expecting []), none)
  else inside limit none (.expecting []) token

/-- Whether a token opens a statement, so that skipping stops before it. -/
def leads (token : Token) : Bool :=
  match token.kind with
  | .keyword word => word.leadsStatement
  | _ => false

/-- Reads a token. -/
def step (limit : Nat) (state : State) (token : Token) : State × Option Event :=
  match state with
  | .ready => start limit token
  | .reading keyword phase => inside limit keyword phase token
  | .startled => (afterSkipped token, none)
  | .skipping => if leads token then start limit token else (afterSkipped token, none)

/-- The fault of a program that ends in a state. -/
def finish (ending : Token) : State → Option Fault
  | .reading _ phase =>
      match phase.finish with
      | .ok _ => some (.atToken ending .expectedSemicolon)
      | .error cause => some (.atToken ending cause)
  | _ => none

/-- Reads all tokens from a state on: what each completes, in order. -/
def events (limit : Nat) (ending : Token) (state : State) : List Token → List Event
  | [] => ((finish ending state).map .fault).toList
  | token :: rest =>
      let (next, event) := step limit state token
      event.toList ++ events limit ending next rest

/-- The statements among the events. -/
def statements (events : List Event) : List Statement :=
  events.filterMap fun
    | .read statement => some statement
    | .fault _ => none

/-- The faults among the events. -/
def faults (events : List Event) : List Fault :=
  events.filterMap fun
    | .read _ => none
    | .fault found => some found

/-- Reads statements until the first fault. -/
def readAll (limit : Nat) (ending : Token) (state : State) (done : List Statement) :
    List Token → Except Fault (List Statement)
  | [] =>
      match finish ending state with
      | some found => .error found
      | none => .ok done.reverse
  | token :: rest =>
      match step limit state token with
      | (_, some (.fault found)) => .error found
      | (next, some (.read statement)) => readAll limit ending next (statement :: done) rest
      | (next, none) => readAll limit ending next done rest

/-- Reads a token list as a program; the first fault ends it. -/
def ofTokens (limit : Nat) (tokens : List Token) : Except Fault (List Statement) :=
  let input := Input.ofTokens tokens
  readAll limit input.ending .ready [] input.body

/-- Reads a token list as a program, going on behind every fault: the statements that read cleanly
and all faults. -/
def recover (limit : Nat) (tokens : List Token) : List Statement × List Fault :=
  let input := Input.ofTokens tokens
  let found := events limit input.ending .ready input.body
  (statements found, faults found)

end Program

end Scriptlet
