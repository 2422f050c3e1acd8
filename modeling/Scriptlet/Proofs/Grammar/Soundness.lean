import Scriptlet.Proofs.Grammar.Steps

/-!
# Soundness of reading

Every expression that the machine reads is spelled by the tokens it has taken. The invariant says
what a stack of openings remembers of these tokens: `Opening.Spells` for the openings alone, and
`Phase.Spells` for a phase. Reducing and completing move tokens from the openings to the operand
and keep the invariant; each token then extends it by itself.
-/

namespace Scriptlet

namespace Opening

/-- The openings are well formed and the tokens are those that were read into them. -/
inductive Spells (limit : Nat) : List Opening → List Token → Prop where
  | nil : Spells limit [] []
  | unary {operator : Token} {openings : List Opening} {tokens : List Token}
      (known : operator.kind ∈ unaryOperators) (room : depth openings < limit)
      (outer : Spells limit openings tokens) :
      Spells limit (.unary operator :: openings) (tokens ++ [operator])
  | group {paren : Token} {openings : List Opening} {tokens : List Token}
      (opens : paren.kind = .leftParen) (room : depth openings < limit)
      (outer : Spells limit openings tokens) :
      Spells limit (.group :: openings) (tokens ++ [paren])
  | binary {left : Expr} {operator : Token} {tier : Tier} {openings : List Opening}
      {tokens leftTokens : List Token} (known : operator.kind ∈ tier.operators)
      (accepted : Accepts tier.rank openings)
      (leftFits : left.FitsIn limit openings leftTokens) (leftRank : tier.rank ≤ left.rank)
      (outer : Spells limit openings tokens) :
      Spells limit (.binary left operator tier :: openings) (tokens ++ leftTokens ++ [operator])

theorem Spells.depth_le {limit : Nat} {openings : List Opening} {tokens : List Token}
    (spells : Spells limit openings tokens) : depth openings ≤ limit := by
  cases spells with
  | nil => exact Nat.zero_le limit
  | unary known room outer =>
      rw [depth_unary]
      exact room
  | group opens room outer =>
      rw [depth_group]
      exact room
  | binary known accepted leftFits leftRank outer =>
      have := leftFits.room
      rw [depth_binary]
      omega

/-- No prefix operator is innermost. -/
def Settled (openings : List Opening) : Prop :=
  ∀ operator rest, openings ≠ .unary operator :: rest

theorem Accepts.settled {tier : Tier} {openings : List Opening}
    (accepts : Accepts tier.rank openings) : Settled openings := by
  rintro operator rest rfl
  have := (accepts_unary _ _ _).mp accepts
  have := tier.rank_lt_four
  omega

/-- What is left of settled openings after reducing a tier accepts that tier, and the reduced
operand takes over the tokens of the openings that are gone. -/
theorem Spells.reduce {limit : Nat} {tier : Tier} {openings rest : List Opening}
    {operand whole : Expr} {front back : List Token} (spells : Spells limit openings front)
    (settled : Settled openings) (fits : operand.FitsIn limit openings back)
    (rank : tier.rank ≤ operand.rank) (reduced : reduce tier operand openings = (whole, rest)) :
    Accepts tier.rank rest ∧ tier.rank ≤ whole.rank ∧
      ∃ front' back', front ++ back = front' ++ back' ∧ Spells limit rest front' ∧
        whole.FitsIn limit rest back' := by
  induction spells generalizing operand back with
  | nil =>
      cases reduced
      exact ⟨accepts_nil _, rank, [], back, rfl, .nil, fits⟩
  | unary known room outer ih => exact absurd rfl (settled _ _)
  | group opens room outer ih =>
      cases reduced
      exact ⟨accepts_group _ _, rank, _, back, rfl, .group opens room outer, fits⟩
  | @binary left operator own openings tokens leftTokens known accepted leftFits leftRank outer
      ih =>
      unfold Opening.reduce at reduced
      split at reduced
      · rename_i tighter
        have bigger := Expr.FitsIn.binary known accepted leftFits leftRank fits
        have biggerRank : tier.rank ≤ (Expr.binary left operator operand).rank := by
          rwa [Expr.rank_binary known]
        rcases ih accepted.settled bigger biggerRank reduced with
            ⟨restAccepts, wholeRank, front', back', same, restSpells, wholeFits⟩
        refine ⟨restAccepts, wholeRank, front', back', ?_, restSpells, wholeFits⟩
        rw [← same]
        simp
      · rename_i looser
        cases reduced
        refine ⟨?_, rank, _, back, rfl, .binary known accepted leftFits leftRank outer, fits⟩
        exact (accepts_binary _ _ _ _ _).mpr (Nat.lt_of_not_le looser)

end Opening

namespace Phase

/-- The phase is well formed and the tokens are those that were read into it. -/
inductive Spells (limit : Nat) : Phase → List Token → Prop where
  | expecting {openings : List Opening} {tokens : List Token}
      (spells : Opening.Spells limit openings tokens) : Spells limit (.expecting openings) tokens
  | holding {value : Expr} {openings : List Opening} {front back : List Token}
      (spells : Opening.Spells limit openings front) (settled : Opening.Settled openings)
      (fits : value.FitsIn limit openings back) (rank : value.rank = 4) :
      Spells limit (.holding value openings) (front ++ back)

theorem spells_complete {limit : Nat} {openings : List Opening} {operand : Expr}
    {front back : List Token} (spells : Opening.Spells limit openings front)
    (fits : operand.FitsIn limit openings back) (rank : operand.rank = 4) :
    Spells limit (complete operand openings) (front ++ back) := by
  induction spells generalizing operand back with
  | nil =>
      exact .holding .nil (by simp [Opening.Settled]) fits rank
  | @unary operator openings tokens known room outer ih =>
      have operandRoom := fits.room
      simp only [Opening.depth_unary] at operandRoom
      have bigger : (Expr.unary operator operand).FitsIn limit openings (operator :: back) :=
        { yields := .unary fits.yields
          shaped := .unary known fits.shaped rank
          room := by simp only [Expr.nesting]; omega
          accepted := Opening.accepts_four openings }
      simpa [complete] using ih bigger rfl
  | group opens room outer ih =>
      exact .holding (.group opens room outer) (by simp [Opening.Settled]) fits rank
  | binary known accepted leftFits leftRank outer ih =>
      exact .holding (.binary known accepted leftFits leftRank outer)
        (by simp [Opening.Settled]) fits rank

theorem fitsIn_literal {limit : Nat} {openings : List Opening} {token : Token} {value : Value}
    (denotes : token.Denotes value) (shallow : Opening.depth openings ≤ limit) :
    (Expr.literal (some value) token.line).FitsIn limit openings [token] where
  yields := .literal denotes
  shaped := .literal value token.line
  room := by simpa [Expr.nesting] using shallow
  accepted := Opening.accepts_four openings

/-- A token that continues the expression extends what is spelled by itself. -/
theorem Spells.take {limit : Nat} {phase next : Phase} {token : Token} {tokens : List Token}
    (spells : Spells limit phase tokens) (taken : phase.take limit token = .continues next) :
    Spells limit next (tokens ++ [token]) := by
  cases spells with
  | expecting spells =>
      rcases takeOperand_eq_continues_iff.mp taken with
        ⟨value, denotes, rfl⟩ | ⟨paren, room, rfl⟩ | ⟨known, room, rfl⟩
      · exact spells_complete spells (fitsIn_literal denotes spells.depth_le) rfl
      · exact .expecting (.group paren room spells)
      · exact .expecting (.unary known room spells)
  | @holding value openings front back spells settled fits rank =>
      rcases takeOperator_eq_continues_iff.mp taken with
        ⟨tier, known, rfl⟩ | ⟨paren, inner, rest, reduced, rfl⟩
      · have tierRank : tier.rank ≤ value.rank := by
          have := tier.rank_lt_four
          omega
        rcases spells.reduce settled fits tierRank rfl with
            ⟨accepted, wholeRank, front', back', same, restSpells, wholeFits⟩
        rw [same]
        exact .expecting (.binary known accepted wholeFits wholeRank restSpells)
      · rcases spells.reduce settled fits (Nat.zero_le _) reduced with
            ⟨-, -, front', back', same, restSpells, innerFits⟩
        cases restSpells with
        | @group opening openings tokens opens room outer =>
            have innerRoom := innerFits.room
            simp only [Opening.depth_group] at innerRoom
            have whole : (Expr.group inner).FitsIn limit rest (opening :: (back' ++ [token])) :=
              { yields := .group opens paren innerFits.yields
                shaped := .group innerFits.shaped
                room := by simp only [Expr.nesting]; omega
                accepted := Opening.accepts_four rest }
            rw [same]
            simpa using spells_complete outer whole rfl

theorem Spells.finish {limit : Nat} {phase : Phase} {whole : Expr} {tokens : List Token}
    (spells : Spells limit phase tokens) (finished : phase.finish = .ok whole) :
    whole.SpelledBy limit tokens := by
  cases spells with
  | expecting spells => cases finished
  | @holding value openings front back spells settled fits rank =>
      rcases finish_holding_eq_ok_iff.mp finished with ⟨rest, reduced, noGroup⟩
      rcases spells.reduce settled fits (Nat.zero_le _) reduced with
          ⟨accepted, -, front', back', same, restSpells, wholeFits⟩
      rw [same]
      cases restSpells with
      | nil => exact Expr.fitsIn_nil_iff.mp wholeFits
      | unary known room outer => exact absurd rfl (accepted.settled _ _)
      | group opens room outer => exact absurd rfl (noGroup _)
      | binary known accepts leftFits leftRank outer =>
          -- No tier is looser than equality.
          exact absurd ((Opening.accepts_binary _ _ _ _ _).mp accepted) (Nat.not_lt_zero _)

end Phase

namespace Expr

/-- What is read from a phase on is spelled by the tokens before it together with those after it,
a final semicolon apart. -/
theorem spelledBy_of_read {limit : Nat} {ending : Token} {phase : Phase} {whole : Expr}
    {before rest : List Token} (spells : phase.Spells limit before)
    (readWhole : read limit ending phase rest = .ok whole) :
    ∃ spelling, whole.SpelledBy limit (before ++ spelling) ∧
      (rest = spelling ∨ ∃ last, last.kind = .semicolon ∧ rest = spelling ++ [last]) := by
  induction rest generalizing phase before with
  | nil =>
      unfold read at readWhole
      split at readWhole
      · rename_i finished
        cases readWhole
        exact ⟨[], by simpa using spells.finish finished, .inl rfl⟩
      · cases readWhole
  | cons token rest ih =>
      unfold read at readWhole
      split at readWhole
      · rename_i next taken
        rcases ih (spells.take taken) readWhole with ⟨spelling, spelled, same⟩
        refine ⟨token :: spelling, by simpa using spelled, ?_⟩
        rcases same with rfl | ⟨last, semicolon, rfl⟩
        · exact .inl rfl
        · exact .inr ⟨last, semicolon, rfl⟩
      · cases readWhole
      · rename_i ended taken
        split at readWhole
        · rename_i semicolon
          split at readWhole
          · cases readWhole
            refine ⟨[], ?_, .inr ⟨token, semicolon, rfl⟩⟩
            simpa using spells.finish (Phase.finish_of_ended taken)
          · cases readWhole
        · cases readWhole

end Expr

end Scriptlet
