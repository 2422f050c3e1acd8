import Scriptlet.Proofs.Grammar.Completeness
import Scriptlet.Proofs.Reading.Runs

/-!
# Faults point at the first impossible token

A reader that stops at its first fault blames one token. Up to that token everything could still
have become a program: the openings of a phase remember which tokens were read into them, so any
operand closes them one by one, a prefix operator by taking the operand, a parenthesis by its
partner, an infix operator by taking its right operand. The tree that results is spelled within the
depth limit, because the openings were. With the blamed token the reading is at fault whatever
follows, since each step sees one token only.
-/

namespace Scriptlet

/-- The token that can always be put where an operand is expected. -/
def fillingToken : Token :=
  { kind := .keyword .nilWord, line := 1 }

/-- The partner of an open parenthesis. -/
def closingToken : Token :=
  { kind := .rightParen, line := 1 }

/-- The end of a statement. -/
def semicolonToken : Token :=
  { kind := .semicolon, line := 1 }

/-- An operand that fits into openings can be completed to a whole tree. -/
theorem Opening.Spells.completable {limit : Nat} {openings : List Opening} {front back : List Token}
    {operand : Expr} (spells : Spells limit openings front)
    (fits : operand.FitsIn limit openings back) :
    ∃ closing whole, (∀ token ∈ closing, token.kind ≠ .eof) ∧
      Expr.SpelledBy limit whole (front ++ back ++ closing) := by
  induction spells generalizing operand back with
  | nil => exact ⟨[], operand, by simp, by simpa using Expr.fitsIn_nil_iff.mp fits⟩
  | @unary operator openings tokens known room outer ih =>
      have operandRoom := fits.room
      simp only [depth_unary] at operandRoom
      have bigger : (Expr.unary operator operand).FitsIn limit openings (operator :: back) :=
        { yields := .unary fits.yields
          shaped := .unary known fits.shaped ((accepts_unary _ _ _).mp fits.accepted)
          room := by simp only [Expr.nesting]; omega
          accepted := accepts_four openings }
      rcases ih bigger with ⟨closing, whole, noEnd, spelled⟩
      exact ⟨closing, whole, noEnd, by simpa using spelled⟩
  | @group paren openings tokens opens room outer ih =>
      have innerRoom := fits.room
      simp only [depth_group] at innerRoom
      have bigger :
          (Expr.group operand).FitsIn limit openings (paren :: (back ++ [closingToken])) :=
        { yields := .group opens rfl fits.yields
          shaped := .group fits.shaped
          room := by simp only [Expr.nesting]; omega
          accepted := accepts_four openings }
      rcases ih bigger with ⟨closing, whole, noEnd, spelled⟩
      refine ⟨closingToken :: closing, whole, ?_, by simpa using spelled⟩
      rw [List.forall_mem_cons]
      exact ⟨by decide, noEnd⟩
  | binary known accepted leftFits leftRank outer ih =>
      rcases ih (Expr.FitsIn.binary known accepted leftFits leftRank fits) with
        ⟨closing, whole, noEnd, spelled⟩
      exact ⟨closing, whole, noEnd, by simpa using spelled⟩

namespace Phase

theorem Spells.completable {limit : Nat} {phase : Phase} {tokens : List Token}
    (spells : Spells limit phase tokens) :
    ∃ closing whole, (∀ token ∈ closing, token.kind ≠ .eof) ∧
      Expr.SpelledBy limit whole (tokens ++ closing) := by
  cases spells with
  | holding spells settled fits rank => exact spells.completable fits
  | expecting spells =>
      have denotes : fillingToken.Denotes .nil := .nothing rfl
      have fits := fitsIn_literal denotes spells.depth_le
      rcases spells.completable fits with ⟨closing, whole, noEnd, spelled⟩
      refine ⟨fillingToken :: closing, whole, ?_, by simpa using spelled⟩
      rw [List.forall_mem_cons]
      exact ⟨by decide, noEnd⟩

theorem Reaches.spells {limit : Nat} {phase next : Phase} {before tokens : List Token}
    (run : Reaches limit phase tokens next) (spells : Spells limit phase before) :
    Spells limit next (before ++ tokens) := by
  induction run generalizing before with
  | refl phase => simpa using spells
  | step taken run ih => simpa using ih (spells.take taken)

/-- Runs are determined by their tokens. -/
theorem Reaches.of_append {limit : Nat} {phase middle final : Phase} {front back : List Token}
    (whole : Reaches limit phase (front ++ back) final) (first : Reaches limit phase front middle) :
    Reaches limit middle back final := by
  induction first with
  | refl phase => exact whole
  | step taken run ih =>
      cases whole with
      | step takenAgain rest =>
          rw [taken] at takenAgain
          cases takenAgain
          exact ih rest

/-- Wherever the machine is inside an expression, some tokens lead to where the expression may
end. -/
theorem Reaches.completable {limit : Nat} {phase : Phase} {tokens : List Token}
    (run : Reaches limit (.expecting []) tokens phase) :
    ∃ closing value openings whole, (∀ token ∈ closing, token.kind ≠ .eof) ∧
      Reaches limit phase closing (.holding value openings) ∧
      finish (.holding value openings) = .ok whole := by
  have spells := run.spells (.expecting .nil)
  rw [List.nil_append] at spells
  rcases spells.completable with ⟨closing, whole, noEnd, spelled⟩
  rcases finish_of_spelledBy spelled with ⟨value, openings, wholeRun, finished⟩
  exact ⟨closing, value, openings, whole, noEnd, wholeRun.of_append run, finished⟩

end Phase

namespace Program

/-- From a sound state some tokens lead to where a program may end, without a fault. -/
theorem State.Sound.completable {limit : Nat} {state : State} (sound : state.Sound limit) :
    ∃ closing, (∀ token ∈ closing, token.kind ≠ .eof) ∧
      Program.after limit state closing = .ready ∧
      faults (completed limit state closing) = [] := by
  cases sound with
  | ready => exact ⟨[], by simp, rfl, rfl⟩
  | reading keyword run =>
      rcases run.completable with ⟨closing, value, openings, whole, noEnd, rest, finished⟩
      rcases run_of_reaches keyword rest with ⟨reached, nothing⟩
      have semicolon : semicolonToken.kind = .semicolon := rfl
      have taken := step_of_finish limit keyword finished semicolon
      refine ⟨closing ++ [semicolonToken], ?_, ?_, ?_⟩
      · rw [List.forall_mem_append]
        exact ⟨noEnd, by decide⟩
      · rw [after_append, reached, Program.after, taken]
        rfl
      · rw [completed_append, reached, nothing, completed, taken]
        rfl

/-- In a state a fault is found at the next token, or at the end if there is none. -/
def FoundNext (limit : Nat) (ending : Token) (state : State) (found : Fault) : List Token → Prop
  | [] => finish ending state = some found
  | token :: _ => (step limit state token).2 = some (.fault found)

/-- The first fault is found behind a run without one. -/
theorem exists_first_fault {limit : Nat} {ending : Token} {state : State} {tokens : List Token}
    {found : Fault} (first : (faults (events limit ending state tokens)).head? = some found) :
    ∃ front back, tokens = front ++ back ∧ faults (completed limit state front) = [] ∧
      FoundNext limit ending (after limit state front) found back := by
  induction tokens generalizing state with
  | nil =>
      refine ⟨[], [], rfl, rfl, ?_⟩
      simp only [events] at first
      cases finished : finish ending state with
      | none => simp [finished, faults] at first
      | some last => simpa [FoundNext, finished, faults, after] using first
  | cons token rest ih =>
      simp only [events, faults_append] at first
      have later (silent : faults (step limit state token).2.toList = []) :
          ∃ front back, token :: rest = front ++ back ∧ faults (completed limit state front) = [] ∧
            FoundNext limit ending (after limit state front) found back := by
        rw [silent, List.nil_append] at first
        rcases ih first with ⟨front, back, rfl, faultless, foundNext⟩
        refine ⟨token :: front, back, rfl, ?_, foundNext⟩
        rw [completed, faults_append, silent, faultless, List.nil_append]
      rcases event : (step limit state token).2 with _ | (statement | here)
      · exact later (by rw [event]; rfl)
      · exact later (by rw [event]; rfl)
      · rw [event] at first
        cases first
        exact ⟨[], token :: rest, rfl, rfl, event⟩

theorem State.Sound.fault_atToken {limit : Nat} {state : State} {token : Token} {found : Fault}
    (sound : state.Sound limit) (event : (step limit state token).2 = some (.fault found)) :
    ∃ cause, found = .atToken token cause := by
  have effect := sound.effect_step token
  generalize step limit state token = taken at effect event
  cases effect with
  | continues goesOn next => cases event
  | completes semicolon statement => cases event
  | ends semicolon cause =>
      cases event
      exact ⟨cause, rfl⟩
  | strays goesOn lost cause =>
      cases event
      exact ⟨cause, rfl⟩

theorem State.Sound.foundNext_atToken {limit : Nat} {ending : Token} {state : State}
    {found : Fault} {back : List Token} (sound : state.Sound limit)
    (foundNext : FoundNext limit ending state found back) :
    ∃ token cause, (back ++ [ending]).head? = some token ∧ found = .atToken token cause := by
  cases back with
  | nil =>
      rcases finish_eq_atToken foundNext with ⟨cause, atEnding⟩
      exact ⟨ending, cause, rfl, atEnding⟩
  | cons token rest =>
      rcases sound.fault_atToken foundNext with ⟨cause, atToken⟩
      exact ⟨token, cause, rfl, atToken⟩

/-- Tokens that were read without a fault can be continued to a program. -/
theorem exists_ofTokens_append_eq_ok {limit : Nat} {front : List Token}
    (noEnd : ∀ token ∈ front, token.kind ≠ .eof)
    (faultless : faults (completed limit .ready front) = []) :
    ∃ continuation read, ofTokens limit (front ++ continuation) = .ok read := by
  rcases (State.Sound.ready.after faultless).completable with ⟨closing, noEndLater, ready, silent⟩
  have noEndWhole := List.forall_mem_append.mpr ⟨noEnd, noEndLater⟩
  have readyWhole : after limit .ready (front ++ closing) = .ready := by
    rw [after_append, ready]
  have recovered := recover_append noEndWhole readyWhole []
  rw [List.append_nil, completed_append, faults_append, faultless, silent] at recovered
  exact ⟨closing, _, ofTokens_eq_ok_iff.mpr recovered⟩

/-- A fault behind tokens that were read without one is the first, whatever follows. -/
theorem ofTokens_append_eq_error {limit : Nat} {front : List Token} {token : Token} {found : Fault}
    (noEnd : ∀ token ∈ front, token.kind ≠ .eof) (noEndHere : token.kind ≠ .eof)
    (faultless : faults (completed limit .ready front) = [])
    (event : (step limit (after limit .ready front) token).2 = some (.fault found))
    (continuation : List Token) :
    ofTokens limit (front ++ token :: continuation) = .error found := by
  rw [ofTokens_eq_error_iff]
  have body : (Input.ofTokens (front ++ token :: continuation)).body =
      front ++ token :: (Input.ofTokens continuation).body := by
    have noEndSingle : ∀ single ∈ [token], single.kind ≠ .eof := by simpa using noEndHere
    rw [Input.body_append noEnd]
    exact congrArg (front ++ ·) (Input.body_append noEndSingle continuation)
  simp only [recover, body, events_append, faults_append, faultless, events, event,
    List.nil_append]
  rfl

/-- The fault lies at a place among the tokens, or at the end behind them. The tokens before that
place can be continued to a program; together with the token at that place they fail with this fault
however they go on. -/
structure IsFirstImpossible (limit : Nat) (input : Input) (fault : Fault) (place : Nat) : Prop where
  within : place ≤ input.body.length
  blamed : ∃ token cause, (input.body ++ [input.ending])[place]? = some token ∧
    fault = .atToken token cause
  viable : ∃ continuation read,
    ofTokens limit (input.body.take place ++ continuation) = .ok read
  impossible : place < input.body.length → ∀ continuation,
    ofTokens limit (input.body.take (place + 1) ++ continuation) = .error fault

/-- A fault points at the first token that cannot continue a program. -/
theorem ofTokens_blames_first_impossible (setting : Int) (tokens : List Token) (fault : Fault)
    (failed : ofTokens (depthLimit setting) tokens = .error fault) :
    ∃ place, IsFirstImpossible (depthLimit setting) (Input.ofTokens tokens) fault place := by
  have noEnd := Input.kind_ne_eof_of_mem_body tokens
  rcases exists_first_fault (ofTokens_eq_error_iff.mp failed) with
    ⟨front, back, parts, faultless, foundNext⟩
  rw [parts] at noEnd
  rw [List.forall_mem_append] at noEnd
  refine ⟨front.length, ?_, ?_, ?_, ?_⟩
  · simp [parts]
  · have sound := State.Sound.ready.after faultless
    rcases sound.foundNext_atToken foundNext with ⟨token, cause, isNext, atToken⟩
    refine ⟨token, cause, ?_, atToken⟩
    rw [parts, List.append_assoc, List.getElem?_append_right (Nat.le_refl _), Nat.sub_self,
      ← List.head?_eq_getElem?]
    exact isNext
  · rw [parts, List.take_left]
    exact exists_ofTokens_append_eq_ok noEnd.1 faultless
  · rw [parts]
    intro inside continuation
    cases back with
    | nil => simp at inside
    | cons token rest =>
        rw [List.take_length_add_append, List.append_assoc]
        exact ofTokens_append_eq_error noEnd.1 (noEnd.2 token (.head rest)) faultless foundNext _

/-- A sum in parentheses that lacks its second operand, and the next statement. -/
def unfinishedSum : List Token :=
  [.keyword .printWord, .leftParen, .keyword .nilWord, .plus, .semicolon, .keyword .nilWord,
    .semicolon].map fun kind => { kind, line := 1 }

theorem ofTokens_blames_semicolon :
    ofTokens (depthLimit 1) unfinishedSum =
        .error (.atToken semicolonToken .expectedExpression) ∧
      ∃ place, IsFirstImpossible (depthLimit 1) (Input.ofTokens unfinishedSum)
        (.atToken semicolonToken .expectedExpression) place := by
  have failed : ofTokens (depthLimit 1) unfinishedSum =
      .error (.atToken semicolonToken .expectedExpression) := rfl
  exact ⟨failed, ofTokens_blames_first_impossible 1 unfinishedSum _ failed⟩

end Program

end Scriptlet
