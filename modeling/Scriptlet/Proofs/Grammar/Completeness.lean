import Scriptlet.Proofs.Grammar.Soundness

/-!
# Completeness of reading

The machine reads every tree from every token list that spells it. Having read the tokens of a tree
it need not hold the tree itself: infix operators stay open as long as a tighter one may follow.
What matters is that it holds something that reduces as the tree does, for every tier that is not
tighter than the tree. `Phase.Agrees` says this of two phases, and it is all that the next operator,
the closing parenthesis and the end of the expression can see.

Together with soundness this gives the main statement: reading succeeds with a tree exactly if the
tokens, a final semicolon apart, spell it.
-/

namespace Scriptlet

namespace Phase

/-- Two phases hold operands that reduce to the same for all tiers up to a rank. -/
def Agrees (rank : Nat) : Phase → Phase → Prop
  | .holding value openings, .holding other others =>
      ∀ tier : Tier, tier.rank ≤ rank →
        Opening.reduce tier value openings = Opening.reduce tier other others
  | _, _ => False

theorem complete_of_settled {operand : Expr} {openings : List Opening}
    (settled : Opening.Settled openings) :
    complete operand openings = .holding operand openings := by
  match openings with
  | [] => rfl
  | .group :: rest => rfl
  | .unary operator :: rest => exact absurd rfl (settled operator rest)
  | .binary left operator tier :: rest => rfl

theorem agrees_complete (rank : Nat) (operand : Expr) (openings : List Opening) :
    Agrees rank (complete operand openings) (complete operand openings) := by
  fun_induction complete operand openings with
  | case1 operand operator rest ih => exact ih
  | case2 operand openings noUnary =>
      intro tier le
      rfl

theorem Agrees.holding {rank : Nat} {phase : Phase} {operand : Expr} {openings : List Opening}
    (agrees : Agrees rank phase (complete operand openings))
    (settled : Opening.Settled openings) :
    ∃ value others, phase = .holding value others ∧ ∀ tier : Tier, tier.rank ≤ rank →
      Opening.reduce tier value others = Opening.reduce tier operand openings := by
  rw [complete_of_settled settled] at agrees
  cases phase with
  | expecting others => exact agrees.elim
  | holding value others => exact ⟨value, others, rfl, agrees⟩

/-- From where an operand is expected, the tokens of a tree that fits lead to where the machine
holds it. -/
theorem reaches_of_fitsIn {limit : Nat} {expr : Expr} {tokens : List Token}
    {openings : List Opening} (fits : expr.FitsIn limit openings tokens) :
    ∃ phase, Reaches limit (.expecting openings) tokens phase ∧
      Agrees expr.rank phase (complete expr openings) := by
  rcases fits with ⟨yields, shaped, room, accepted⟩
  induction yields generalizing openings with
  | @literal token value denotes =>
      refine ⟨_, .single ?_, agrees_complete _ _ _⟩
      exact takeOperand_eq_continues_iff.mpr (.inl ⟨value, denotes, rfl⟩)
  | @group inner tokens opening closing opens closes innerYields ih =>
      simp only [Expr.nesting] at room
      cases shaped with
      | group innerShaped =>
          rcases @ih (.group :: openings) innerShaped
            (by simp only [Opening.depth_group]; omega) (Opening.accepts_group _ _) with
              ⟨phase, run, agrees⟩
          rcases agrees.holding (by simp [Opening.Settled]) with ⟨value, others, rfl, reduces⟩
          have opened : take limit (.expecting openings) opening =
              .continues (.expecting (.group :: openings)) :=
            takeOperand_eq_continues_iff.mpr (.inr (.inl ⟨opens, by omega, rfl⟩))
          have close : take limit (.holding value others) closing =
              .continues (complete (.group inner) openings) :=
            takeOperator_eq_continues_iff.mpr
              (.inr ⟨closes, inner, openings, reduces .equality (Nat.zero_le _), rfl⟩)
          exact ⟨_, .step opened (run.trans (.single close)), agrees_complete _ _ _⟩
  | @unary operator operand tokens operandYields ih =>
      simp only [Expr.nesting] at room
      cases shaped with
      | unary known operandShaped operandRank =>
          have room : Opening.depth (.unary operator :: openings) + operand.nesting ≤ limit := by
            simp only [Opening.depth_unary]
            omega
          rcases @ih (.unary operator :: openings) operandShaped room
            ((Opening.accepts_unary _ _ _).mpr operandRank) with ⟨phase, run, agrees⟩
          have opened : take limit (.expecting openings) operator =
              .continues (.expecting (.unary operator :: openings)) :=
            takeOperand_eq_continues_iff.mpr (.inr (.inr ⟨known, by omega, rfl⟩))
          refine ⟨phase, .step opened run, ?_⟩
          rw [operandRank] at agrees
          exact agrees
  | @binary left right operator leftTokens rightTokens leftYields rightYields leftIh rightIh =>
      simp only [Expr.nesting] at room
      cases shaped with
      | @binary _ _ _ tier known leftShaped leftRank rightShaped rightRank =>
          rw [Expr.rank_binary known] at accepted ⊢
          rcases @leftIh openings leftShaped
            (by omega) (accepted.of_le leftRank) with ⟨middle, leftRun, leftAgrees⟩
          rcases leftAgrees.holding accepted.settled with ⟨value, others, rfl, leftReduces⟩
          have reducesToLeft : Opening.reduce tier value others = (left, openings) := by
            rw [leftReduces tier leftRank, Opening.reduce_of_accepts left accepted]
          have push : take limit (.holding value others) operator =
              .continues (.expecting (.binary left operator tier :: openings)) :=
            takeOperator_eq_continues_iff.mpr (.inl ⟨tier, known, by rw [reducesToLeft]⟩)
          rcases @rightIh (.binary left operator tier :: openings) rightShaped
              (by simp only [Opening.depth_binary]; omega)
              ((Opening.accepts_binary _ _ _ _ _).mpr rightRank) with ⟨phase, rightRun, rightAgrees⟩
          rcases rightAgrees.holding (by simp [Opening.Settled]) with
              ⟨value', others', rfl, rightReduces⟩
          refine ⟨_, leftRun.trans (.step push rightRun), ?_⟩
          rw [complete_of_settled accepted.settled]
          intro looser le
          rw [rightReduces looser (by omega)]
          simp [Opening.reduce, le]

theorem finish_of_spelledBy {limit : Nat} {expr : Expr} {tokens : List Token}
    (spelled : expr.SpelledBy limit tokens) :
    ∃ value others, Reaches limit (.expecting []) tokens (.holding value others) ∧
      finish (.holding value others) = .ok expr := by
  rcases reaches_of_fitsIn (Expr.fitsIn_nil_iff.mpr spelled) with ⟨phase, run, agrees⟩
  rcases agrees.holding (by simp [Opening.Settled]) with ⟨value, others, rfl, reduces⟩
  refine ⟨value, others, run, finish_holding_eq_ok_iff.mpr ⟨[], ?_, by simp⟩⟩
  rw [reduces .equality (Nat.zero_le _)]
  rfl

end Phase

namespace Expr

theorem read_of_spelledBy {limit : Nat} {ending : Token} {expr : Expr} {spelling rest : List Token}
    (spelled : expr.SpelledBy limit spelling)
    (final : rest = [] ∨ ∃ last, last.kind = .semicolon ∧ rest = [last]) :
    read limit ending (.expecting []) (spelling ++ rest) = .ok expr := by
  rcases Phase.finish_of_spelledBy spelled with ⟨value, others, run, finished⟩
  rw [read_append_of_reaches run]
  rcases final with rfl | ⟨last, semicolon, rfl⟩
  · simp [read, finished]
  · simp [read, Phase.take_eq_ended_of_finish semicolon finished, semicolon]

/-- The tokens up to the first end mark, a final semicolon apart, spell the tree. -/
def IsReading (limit : Nat) (tokens : List Token) (expr : Expr) : Prop :=
  ∃ spelling, expr.SpelledBy limit spelling ∧
    (tokens.takeWhile (fun token => token.kind ≠ .eof) = spelling ∨
      ∃ last : Token, last.kind = .semicolon ∧
        tokens.takeWhile (fun token => token.kind ≠ .eof) = spelling ++ [last])

/-- Reading a token list as one expression gives exactly the tree that the tokens spell, and there
is at most one such tree. -/
theorem ofTokens_eq_ok_iff_isReading (setting : Int) (tokens : List Token) :
    (∀ expr : Expr, ofTokens (depthLimit setting) tokens = .ok expr ↔
      expr.IsReading (depthLimit setting) tokens) ∧
    (∀ expr other : Expr, expr.IsReading (depthLimit setting) tokens →
      other.IsReading (depthLimit setting) tokens → expr = other) := by
  have reads : ∀ expr : Expr, ofTokens (depthLimit setting) tokens = .ok expr ↔
      expr.IsReading (depthLimit setting) tokens := by
    intro expr
    constructor
    · intro read
      rcases spelledBy_of_read (.expecting .nil) read with ⟨spelling, spelled, same⟩
      exact ⟨spelling, by simpa using spelled, same⟩
    · rintro ⟨spelling, spelled, same | ⟨last, semicolon, same⟩⟩
      · simp only [ofTokens, Input.ofTokens, same]
        simpa using read_of_spelledBy spelled (.inl rfl)
      · simp only [ofTokens, Input.ofTokens, same]
        exact read_of_spelledBy spelled (.inr ⟨last, semicolon, rfl⟩)
  refine ⟨reads, ?_⟩
  intro expr other isReading otherIsReading
  have same : Except.ok expr = Except.ok other :=
    ((reads expr).mpr isReading).symm.trans ((reads other).mpr otherIsReading)
  exact Except.ok.inj same

end Expr

end Scriptlet
