import Scriptlet.Program.Reading

/-!
# The grammar of expressions

This file says which token lists spell which trees, without any reference to the reading machine.
`Expr.Yields` lists the tokens of a tree in order, `Expr.TierShaped` is the shape that precedence
and association to the left ask for, and `Expr.nesting` is what the depth limit bounds. The three
together are `Expr.SpelledBy`.

A tree is also spelled in a context, namely the openings that are still waiting when its first token
is read. `Expr.FitsIn` collects what the context asks of the tree: room below the depth limit, and a
rank that the innermost opening accepts. Soundness and completeness of the machine are both stated
in terms of it.
-/

namespace Scriptlet

namespace Tier

/-- The infix operators of a tier. -/
def operators : Tier → List TokenKind
  | .equality => [.equalEqual, .bangEqual]
  | .comparison =>
      [.greater, .greaterEqual, .less, .lessEqual, .keyword .inWord, .bangIn]
  | .term => [.plus, .minus]
  | .factor => [.star, .slash]

theorem ofKind?_eq_some_iff {kind : TokenKind} {tier : Tier} :
    ofKind? kind = some tier ↔ kind ∈ tier.operators := by
  unfold ofKind?
  split <;> cases tier <;> simp_all [operators]

theorem rank_lt_four (tier : Tier) : tier.rank < 4 := by
  cases tier <;> simp [rank]

end Tier

/-- The operators that stand before a single operand. -/
def unaryOperators : List TokenKind :=
  [.bang, .minus, .keyword .notWord, .plus]

/-- The value that a token denotes on its own. -/
inductive Token.Denotes : Token → Value → Prop where
  | falsehood {token : Token} (word : token.kind = .keyword .falseWord) :
      Denotes token (.bool false)
  | truth {token : Token} (word : token.kind = .keyword .trueWord) : Denotes token (.bool true)
  | nothing {token : Token} (word : token.kind = .keyword .nilWord) : Denotes token .nil
  | carried {token : Token} {value : Value} (literal : token.kind = .number ∨ token.kind = .string)
      (carries : token.literal = some value) : Denotes token value

namespace Expr

/-- The tokens of a tree in order. Operators are the tokens that the tree holds; a literal has the
value and the line of its token. -/
inductive Yields : Expr → List Token → Prop where
  | literal {token : Token} {value : Value} (denotes : token.Denotes value) :
      Yields (.literal (some value) token.line) [token]
  | group {inner : Expr} {tokens : List Token} {opening closing : Token}
      (opens : opening.kind = .leftParen) (closes : closing.kind = .rightParen)
      (innerYields : inner.Yields tokens) :
      Yields (.group inner) (opening :: (tokens ++ [closing]))
  | unary {operator : Token} {operand : Expr} {tokens : List Token}
      (operandYields : operand.Yields tokens) :
      Yields (.unary operator operand) (operator :: tokens)
  | binary {left right : Expr} {operator : Token} {leftTokens rightTokens : List Token}
      (leftYields : left.Yields leftTokens) (rightYields : right.Yields rightTokens) :
      Yields (.binary left operator right) (leftTokens ++ operator :: rightTokens)

/-- How tightly a tree holds together: the rank of the tier of its infix operator, and more than
that of every tier for all other trees. -/
def rank : Expr → Nat
  | .binary _ operator _ => ((Tier.ofKind? operator.kind).map Tier.rank).getD 0
  | _ => 4

/-- The shape that precedence asks for. All tiers associate to the left, so the left operand of an
infix operator may be of the operator's own tier and the right one may not. -/
inductive TierShaped : Expr → Prop where
  | literal (value : Value) (line : Int) : TierShaped (.literal (some value) line)
  | group {inner : Expr} (innerShaped : inner.TierShaped) : TierShaped (.group inner)
  | unary {operator : Token} {operand : Expr} (known : operator.kind ∈ unaryOperators)
      (operandShaped : operand.TierShaped) (operandRank : operand.rank = 4) :
      TierShaped (.unary operator operand)
  | binary {left right : Expr} {operator : Token} {tier : Tier}
      (known : operator.kind ∈ tier.operators)
      (leftShaped : left.TierShaped) (leftRank : tier.rank ≤ left.rank)
      (rightShaped : right.TierShaped) (rightRank : tier.rank < right.rank) :
      TierShaped (.binary left operator right)

/-- The most prefix operators and parentheses on a path from the root to a leaf. -/
def nesting : Expr → Nat
  | .absent => 0
  | .literal _ _ => 0
  | .group inner => inner.nesting + 1
  | .unary _ operand => operand.nesting + 1
  | .binary left _ right => max left.nesting right.nesting

/-- The tokens spell the tree within a depth limit. -/
structure SpelledBy (limit : Nat) (expr : Expr) (tokens : List Token) : Prop where
  yields : expr.Yields tokens
  shaped : expr.TierShaped
  nests : expr.nesting ≤ limit

theorem rank_binary {left right : Expr} {operator : Token} {tier : Tier}
    (known : operator.kind ∈ tier.operators) :
    (binary left operator right).rank = tier.rank := by
  simp [rank, Tier.ofKind?_eq_some_iff.mpr known]

end Expr

namespace Opening

/-- Whether the innermost opening takes a tree of a rank as its operand: a prefix operator takes
only what is no infix expression, an infix operator only what is of a tighter tier. -/
def Accepts (rank : Nat) : List Opening → Prop
  | .unary _ :: _ => rank = 4
  | .binary _ _ own :: _ => own.rank < rank
  | _ => True

@[simp]
theorem accepts_nil (rank : Nat) : Accepts rank [] :=
  trivial

@[simp]
theorem accepts_group (rank : Nat) (openings : List Opening) : Accepts rank (.group :: openings) :=
  trivial

@[simp]
theorem accepts_unary (rank : Nat) (operator : Token) (openings : List Opening) :
    Accepts rank (.unary operator :: openings) ↔ rank = 4 :=
  Iff.rfl

@[simp]
theorem accepts_binary (rank : Nat) (left : Expr) (operator : Token) (own : Tier)
    (openings : List Opening) :
    Accepts rank (.binary left operator own :: openings) ↔ own.rank < rank :=
  Iff.rfl

@[simp]
theorem accepts_four (openings : List Opening) : Accepts 4 openings := by
  match openings with
  | [] => exact accepts_nil 4
  | .group :: rest => exact accepts_group 4 rest
  | .unary operator :: rest => exact (accepts_unary 4 operator rest).mpr rfl
  | .binary left operator own :: rest =>
      exact (accepts_binary 4 left operator own rest).mpr own.rank_lt_four

/-- Openings that accept a tier's rank also accept every higher rank. -/
theorem Accepts.of_le {tier : Tier} {rank : Nat} {openings : List Opening}
    (accepts : Accepts tier.rank openings) (le : tier.rank ≤ rank) : Accepts rank openings := by
  match openings with
  | [] => exact accepts_nil rank
  | .group :: rest => exact accepts_group rank rest
  | .unary operator :: rest =>
      have := (accepts_unary _ _ _).mp accepts
      have := tier.rank_lt_four
      omega
  | .binary left operator own :: rest =>
      have := (accepts_binary _ _ _ _ _).mp accepts
      exact (accepts_binary _ _ _ _ _).mpr (by omega)

/-- Reducing stops at once in front of openings that accept the tier. -/
theorem reduce_of_accepts {tier : Tier} {openings : List Opening} (operand : Expr)
    (accepts : Accepts tier.rank openings) :
    reduce tier operand openings = (operand, openings) := by
  match openings with
  | [] => rfl
  | .group :: rest => rfl
  | .unary operator :: rest => rfl
  | .binary left operator own :: rest =>
      have looser := (accepts_binary _ _ _ _ _).mp accepts
      simp [reduce, Nat.not_le.mpr looser]

@[simp]
theorem depth_nil : depth [] = 0 :=
  rfl

@[simp]
theorem depth_unary (operator : Token) (openings : List Opening) :
    depth (.unary operator :: openings) = depth openings + 1 :=
  List.countP_cons_of_pos rfl

@[simp]
theorem depth_group (openings : List Opening) :
    depth (.group :: openings) = depth openings + 1 :=
  List.countP_cons_of_pos rfl

@[simp]
theorem depth_binary (left : Expr) (operator : Token) (tier : Tier) (openings : List Opening) :
    depth (.binary left operator tier :: openings) = depth openings := by
  simp [depth, nests]

end Opening

namespace Expr

/-- The tokens spell the tree where the given openings wait. -/
structure FitsIn (limit : Nat) (openings : List Opening) (expr : Expr) (tokens : List Token) :
    Prop where
  yields : expr.Yields tokens
  shaped : expr.TierShaped
  room : Opening.depth openings + expr.nesting ≤ limit
  accepted : Opening.Accepts expr.rank openings

theorem fitsIn_nil_iff {limit : Nat} {expr : Expr} {tokens : List Token} :
    expr.FitsIn limit [] tokens ↔ expr.SpelledBy limit tokens := by
  constructor
  · intro fits
    exact ⟨fits.yields, fits.shaped, by simpa using fits.room⟩
  · intro spelled
    exact ⟨spelled.yields, spelled.shaped, by simpa using spelled.nests, Opening.accepts_nil _⟩

theorem FitsIn.binary {limit : Nat} {openings : List Opening} {left right : Expr}
    {operator : Token} {tier : Tier} {leftTokens rightTokens : List Token}
    (known : operator.kind ∈ tier.operators) (accepted : Opening.Accepts tier.rank openings)
    (leftFits : left.FitsIn limit openings leftTokens) (leftRank : tier.rank ≤ left.rank)
    (rightFits : right.FitsIn limit (.binary left operator tier :: openings) rightTokens) :
    (binary left operator right).FitsIn limit openings (leftTokens ++ operator :: rightTokens) where
  yields := .binary leftFits.yields rightFits.yields
  shaped := .binary known leftFits.shaped leftRank rightFits.shaped
    ((Opening.accepts_binary _ _ _ _ _).mp rightFits.accepted)
  room := by
    have leftRoom := leftFits.room
    have rightRoom := rightFits.room
    simp only [Opening.depth_binary] at rightRoom
    simp only [nesting]
    omega
  accepted := by rwa [rank_binary known]

end Expr

end Scriptlet
