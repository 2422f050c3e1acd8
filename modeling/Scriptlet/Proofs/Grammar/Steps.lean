import Scriptlet.Proofs.Grammar.Basic

/-!
# Steps of the reading machine

What one token can do to a phase, said once for each phase in the words of the grammar, and runs of
several tokens in which every token continues the expression. Later proofs use these equivalences
and never look into `Phase.take` again. Inside a statement a token does what it does to the
expression there, and `Program.Turn` lists what comes of it.
-/

namespace Scriptlet

namespace Phase

theorem nest_eq_continues_iff {limit : Nat} {opening : Opening} {openings : List Opening}
    {next : Phase} :
    nest limit opening openings = .continues next ↔
      Opening.depth openings < limit ∧ next = .expecting (opening :: openings) := by
  unfold nest
  split
  · rename_i tooDeep
    simp [Nat.not_lt.mpr tooDeep]
  · rename_i shallow
    simp [Nat.not_le.mp shallow, eq_comm]

/-- A token continues an expression that expects an operand as a literal, as an opening parenthesis
or as a prefix operator. -/
theorem takeOperand_eq_continues_iff {limit : Nat} {openings : List Opening} {token : Token}
    {next : Phase} :
    takeOperand limit openings token = .continues next ↔
      (∃ value, token.Denotes value ∧
        next = complete (.literal (some value) token.line) openings) ∨
      (token.kind = .leftParen ∧ Opening.depth openings < limit ∧
        next = .expecting (.group :: openings)) ∨
      (token.kind ∈ unaryOperators ∧ Opening.depth openings < limit ∧
        next = .expecting (.unary token :: openings)) := by
  constructor
  · intro taken
    unfold takeOperand at taken
    split at taken
    · rename_i word
      exact .inl ⟨_, .falsehood word, by simpa [eq_comm] using taken⟩
    · rename_i word
      exact .inl ⟨_, .truth word, by simpa [eq_comm] using taken⟩
    · rename_i word
      exact .inl ⟨_, .nothing word, by simpa [eq_comm] using taken⟩
    · rename_i number
      split at taken
      · rename_i value carries
        exact .inl ⟨value, .carried (.inl number) carries, by simpa [eq_comm] using taken⟩
      · cases taken
    · rename_i string
      split at taken
      · rename_i value carries
        exact .inl ⟨value, .carried (.inr string) carries, by simpa [eq_comm] using taken⟩
      · cases taken
    · rename_i paren
      exact .inr (.inl ⟨paren, nest_eq_continues_iff.mp taken⟩)
    · rename_i bang
      exact .inr (.inr ⟨by simp [unaryOperators, bang], nest_eq_continues_iff.mp taken⟩)
    · rename_i minus
      exact .inr (.inr ⟨by simp [unaryOperators, minus], nest_eq_continues_iff.mp taken⟩)
    · rename_i plus
      exact .inr (.inr ⟨by simp [unaryOperators, plus], nest_eq_continues_iff.mp taken⟩)
    · rename_i word
      exact .inr (.inr ⟨by simp [unaryOperators, word], nest_eq_continues_iff.mp taken⟩)
    · cases taken
  · rintro (⟨value, denotes, rfl⟩ | ⟨paren, room, rfl⟩ | ⟨known, room, rfl⟩)
    · cases denotes with
      | falsehood word => simp [takeOperand, word]
      | truth word => simp [takeOperand, word]
      | nothing word => simp [takeOperand, word]
      | carried literal carries =>
          rcases literal with number | string
          · simp [takeOperand, number, carries]
          · simp [takeOperand, string, carries]
    · simp [takeOperand, paren, nest, Nat.not_le.mpr room]
    · simp only [unaryOperators, List.mem_cons, List.not_mem_nil, or_false] at known
      rcases known with kind | kind | kind | kind <;>
        simp [takeOperand, kind, nest, Nat.not_le.mpr room]

theorem nest_ne_ended {limit : Nat} {opening : Opening} {openings : List Opening} {whole : Expr} :
    nest limit opening openings ≠ .ended whole := by
  unfold nest
  split <;> simp

theorem takeOperand_ne_ended {limit : Nat} {openings : List Opening} {token : Token}
    {whole : Expr} : takeOperand limit openings token ≠ .ended whole := by
  fun_cases takeOperand limit openings token <;> simp [nest_ne_ended]

/-- A token continues an expression that holds an operand as an infix operator or as the closing
parenthesis of the innermost group. -/
theorem takeOperator_eq_continues_iff {value : Expr} {openings : List Opening} {token : Token}
    {next : Phase} :
    takeOperator value openings token = .continues next ↔
      (∃ tier : Tier, token.kind ∈ tier.operators ∧
        next = .expecting (.binary (Opening.reduce tier value openings).1 token tier ::
          (Opening.reduce tier value openings).2)) ∨
      (token.kind = .rightParen ∧ ∃ inner rest,
        Opening.reduce .equality value openings = (inner, .group :: rest) ∧
          next = complete (.group inner) rest) := by
  constructor
  · intro taken
    unfold takeOperator at taken
    split at taken
    · rename_i tier found
      exact .inl ⟨tier, Tier.ofKind?_eq_some_iff.mp found, by simpa [eq_comm] using taken⟩
    · split at taken
      · rename_i inner rest reduced
        split at taken
        · rename_i paren
          exact .inr ⟨paren, inner, rest, reduced, by simpa [eq_comm] using taken⟩
        · cases taken
      · cases taken
  · rintro (⟨tier, known, rfl⟩ | ⟨paren, inner, rest, reduced, rfl⟩)
    · simp [takeOperator, Tier.ofKind?_eq_some_iff.mpr known]
    · simp [takeOperator, paren, Tier.ofKind?, reduced]

theorem finish_holding_eq_ok_iff {value whole : Expr} {openings : List Opening} :
    finish (.holding value openings) = .ok whole ↔
      ∃ rest, Opening.reduce .equality value openings = (whole, rest) ∧
        ∀ outer, rest ≠ .group :: outer := by
  simp only [finish]
  split
  · rename_i reduced
    simp [reduced]
  · rename_i noGroup reduced
    simp only [reduced]
    constructor
    · intro finished
      cases finished
      exact ⟨_, rfl, noGroup⟩
    · rintro ⟨rest, same, _⟩
      cases same
      rfl

/-- A token ends an expression that holds an operand if it is no infix operator and the expression
can end before it. -/
theorem takeOperator_eq_ended_iff {value whole : Expr} {openings : List Opening} {token : Token} :
    takeOperator value openings token = .ended whole ↔
      (∀ tier : Tier, token.kind ∉ tier.operators) ∧
        finish (.holding value openings) = .ok whole := by
  rw [finish_holding_eq_ok_iff]
  unfold takeOperator
  split
  · rename_i tier found
    constructor
    · intro taken
      cases taken
    · rintro ⟨unknown, _⟩
      exact absurd (Tier.ofKind?_eq_some_iff.mp found) (unknown tier)
  · rename_i unknown
    have noTier : ∀ tier : Tier, token.kind ∉ tier.operators := by
      intro tier known
      rw [Tier.ofKind?_eq_some_iff.mpr known] at unknown
      cases unknown
    split
    · rename_i reduced
      split <;> simp [reduced]
    · rename_i noGroup reduced
      simp only [reduced]
      constructor
      · intro taken
        cases taken
        exact ⟨noTier, _, rfl, noGroup⟩
      · rintro ⟨_, rest, same, _⟩
        cases same
        rfl

/-- An expression that ends before a token can end there. -/
theorem finish_of_ended {limit : Nat} {phase : Phase} {token : Token} {whole : Expr}
    (taken : phase.take limit token = .ended whole) : phase.finish = .ok whole := by
  cases phase with
  | expecting openings => exact absurd taken takeOperand_ne_ended
  | holding value openings => exact (takeOperator_eq_ended_iff.mp taken).2

/-- A semicolon ends an expression that can end before it. -/
theorem take_eq_ended_of_finish {limit : Nat} {value whole : Expr} {openings : List Opening}
    {token : Token} (semicolon : token.kind = .semicolon)
    (finished : finish (.holding value openings) = .ok whole) :
    take limit (.holding value openings) token = .ended whole := by
  refine takeOperator_eq_ended_iff.mpr ⟨?_, finished⟩
  intro tier
  cases tier <;> simp [semicolon, Tier.operators]

/-- A run of tokens each of which continues the expression. -/
inductive Reaches (limit : Nat) : Phase → List Token → Phase → Prop where
  | refl (phase : Phase) : Reaches limit phase [] phase
  | step {phase next final : Phase} {token : Token} {rest : List Token}
      (taken : phase.take limit token = .continues next) (run : Reaches limit next rest final) :
      Reaches limit phase (token :: rest) final

theorem Reaches.trans {limit : Nat} {phase middle final : Phase} {front back : List Token}
    (first : Reaches limit phase front middle) (second : Reaches limit middle back final) :
    Reaches limit phase (front ++ back) final := by
  induction first with
  | refl phase => exact second
  | step taken run ih => exact .step taken (ih second)

theorem Reaches.single {limit : Nat} {phase next : Phase} {token : Token}
    (taken : phase.take limit token = .continues next) : Reaches limit phase [token] next :=
  .step taken (.refl next)

end Phase

namespace Program

/-- What a token does inside a statement, told by what it does to the expression there. A fault
leaves the token to be skipped, unless it has taken it. -/
inductive Turn (limit : Nat) (keyword : Option Int) (phase : Phase) (token : Token) :
    State × Option Event → Prop where
  | continues {next : Phase} (taken : phase.take limit token = .continues next) :
      Turn limit keyword phase token (.reading keyword next, none)
  | completes {whole : Expr} (taken : phase.take limit token = .ended whole)
      (semicolon : token.kind = .semicolon) :
      Turn limit keyword phase token (.ready, some (.read (statement keyword whole)))
  | strays {whole : Expr} (taken : phase.take limit token = .ended whole)
      (unclosed : token.kind ≠ .semicolon) :
      Turn limit keyword phase token
        (afterSkipped token, some (.fault (.atToken token .expectedSemicolon)))
  | refuses {cause : Cause} (taken : phase.take limit token = .faulty cause false) :
      Turn limit keyword phase token
        (afterSkipped token, some (.fault (.atToken token cause)))
  | takes {cause : Cause} (taken : phase.take limit token = .faulty cause true) :
      Turn limit keyword phase token (.startled, some (.fault (.atToken token cause)))

theorem turn_inside (limit : Nat) (keyword : Option Int) (phase : Phase) (token : Token) :
    Turn limit keyword phase token (inside limit keyword phase token) := by
  unfold inside
  cases taken : phase.take limit token with
  | continues next => exact .continues taken
  | faulty cause isTaken =>
      cases isTaken with
      | false => exact .refuses taken
      | true => exact .takes taken
  | ended whole =>
      dsimp only
      split
      · rename_i semicolon
        exact .completes taken semicolon
      · rename_i unclosed
        exact .strays taken unclosed

end Program

theorem Expr.read_append_of_reaches {limit : Nat} {ending : Token} {phase next : Phase}
    {front : List Token} (run : phase.Reaches limit front next) (rest : List Token) :
    read limit ending phase (front ++ rest) = read limit ending next rest := by
  induction run with
  | refl phase => rfl
  | step taken run ih => simp [read, taken, ih]

end Scriptlet
