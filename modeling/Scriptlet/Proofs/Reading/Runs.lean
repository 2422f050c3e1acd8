import Scriptlet.Proofs.Grammar.Steps
import Scriptlet.Proofs.Recovery

/-!
# Runs of the program reader

Tokens can be read in parts, because the machine goes on from where it is: `Program.after` is where
it is behind some tokens, and `Program.completed` is what these tokens have completed. If it is back
where a statement may start, nothing of the first part reaches into the second, and recovery can be
told part by part.

What a single token does is said once, in `State.Sound.effect_step`: it continues a statement, it
completes one, or it is at fault. A state is sound as long as there was no fault. Behind a fault the
machine is lost, and it skips tokens until a statement may start again.
-/

namespace Scriptlet

theorem Input.kind_ne_eof_of_mem_body (tokens : List Token) :
    ∀ token ∈ (ofTokens tokens).body, token.kind ≠ .eof := by
  intro token member
  exact of_decide_eq_true (List.all_eq_true.mp List.all_takeWhile token member)

theorem Input.body_append {front : List Token} (noEnd : ∀ token ∈ front, token.kind ≠ .eof)
    (back : List Token) : (ofTokens (front ++ back)).body = front ++ (ofTokens back).body := by
  apply List.takeWhile_append_of_pos
  intro token member
  exact decide_eq_true (noEnd token member)

theorem Input.ending_append {front back : List Token}
    (noEnd : ∀ token ∈ front, token.kind ≠ .eof) (goesOn : back ≠ []) :
    (ofTokens (front ++ back)).ending = (ofTokens back).ending := by
  have notFound : (front.find? fun token => token.kind = .eof) = none := by
    rw [List.find?_eq_none]
    intro token member
    simpa using noEnd token member
  have last : (front ++ back).getLast? = back.getLast? := by
    rw [List.getLast?_append, List.getLast?_eq_some_getLast goesOn]
    rfl
  simp only [ofTokens, List.find?_append, notFound, last, Option.none_or]

namespace Program

/-- Where the machine is behind some tokens. -/
def after (limit : Nat) (state : State) : List Token → State
  | [] => state
  | token :: rest => after limit (step limit state token).1 rest

/-- What some tokens complete, whatever comes behind them. -/
def completed (limit : Nat) (state : State) : List Token → List Event
  | [] => []
  | token :: rest =>
      (step limit state token).2.toList ++ completed limit (step limit state token).1 rest

theorem after_append (limit : Nat) (state : State) (front back : List Token) :
    after limit state (front ++ back) = after limit (after limit state front) back := by
  induction front generalizing state with
  | nil => rfl
  | cons token rest ih => exact ih _

theorem completed_append (limit : Nat) (state : State) (front back : List Token) :
    completed limit state (front ++ back) =
      completed limit state front ++ completed limit (after limit state front) back := by
  induction front generalizing state with
  | nil => rfl
  | cons token rest ih =>
      simp only [List.cons_append, completed, after, ih, List.append_assoc]

theorem events_append (limit : Nat) (ending : Token) (state : State) (front back : List Token) :
    events limit ending state (front ++ back) =
      completed limit state front ++ events limit ending (after limit state front) back := by
  induction front generalizing state with
  | nil => rfl
  | cons token rest ih =>
      simp only [List.cons_append, events, completed, after, ih, List.append_assoc]

/-- Recovery finds what the first part completes and then what it finds in the second, if the first
part ends where a statement may start. -/
theorem recover_append {limit : Nat} {front : List Token}
    (noEnd : ∀ token ∈ front, token.kind ≠ .eof) (ready : after limit .ready front = .ready)
    (back : List Token) :
    recover limit (front ++ back) =
      (statements (completed limit .ready front) ++ (recover limit back).1,
        faults (completed limit .ready front) ++ (recover limit back).2) := by
  have found : events limit (Input.ofTokens (front ++ back)).ending .ready
        (Input.ofTokens (front ++ back)).body =
      completed limit .ready front ++
        events limit (Input.ofTokens back).ending .ready (Input.ofTokens back).body := by
    rw [Input.body_append noEnd, events_append, ready]
    cases back with
    | nil => rfl
    | cons token rest => rw [Input.ending_append noEnd (List.cons_ne_nil token rest)]
  simp only [recover, found, statements_append, faults_append]

theorem ofTokens_eq_ok_iff {limit : Nat} {tokens : List Token} {read : List Statement} :
    ofTokens limit tokens = .ok read ↔ recover limit tokens = (read, []) := by
  rw [ofTokens_eq_recover]
  rcases recover limit tokens with ⟨statements, _ | ⟨found, more⟩⟩ <;> simp

theorem ofTokens_eq_error_iff {limit : Nat} {tokens : List Token} {found : Fault} :
    ofTokens limit tokens = .error found ↔ (recover limit tokens).2.head? = some found := by
  rw [ofTokens_eq_recover]
  rcases recover limit tokens with ⟨statements, _ | ⟨first, more⟩⟩ <;> simp

end Program

/-- A semicolon never continues an expression, and it is not taken by a fault. -/
theorem Phase.take_semicolon (limit : Nat) (phase : Phase) {token : Token}
    (semicolon : token.kind = .semicolon) :
    (∃ whole, phase.take limit token = .ended whole) ∨
      ∃ cause, phase.take limit token = .faulty cause false := by
  cases phase with
  | expecting openings => exact .inr ⟨.expectedExpression, by simp [take, takeOperand, semicolon]⟩
  | holding value openings =>
      simp only [take, takeOperator, semicolon, Tier.ofKind?]
      split
      · exact .inr ⟨.expectedParen, by simp⟩
      · exact .inl ⟨_, rfl⟩

theorem Phase.ne_semicolon_of_continues {limit : Nat} {phase next : Phase} {token : Token}
    (taken : phase.take limit token = .continues next) : token.kind ≠ .semicolon := by
  intro semicolon
  rcases phase.take_semicolon limit semicolon with ⟨whole, stops⟩ | ⟨cause, stops⟩
  · cases taken.symm.trans stops
  · cases taken.symm.trans stops

theorem Phase.ne_semicolon_of_takes {limit : Nat} {phase : Phase} {token : Token} {cause : Cause}
    (taken : phase.take limit token = .faulty cause true) : token.kind ≠ .semicolon := by
  intro semicolon
  rcases phase.take_semicolon limit semicolon with ⟨whole, stops⟩ | ⟨cause, stops⟩
  · cases taken.symm.trans stops
  · cases taken.symm.trans stops

theorem Phase.Reaches.ne_semicolon {limit : Nat} {phase next : Phase} {tokens : List Token}
    (run : phase.Reaches limit tokens next) : ∀ token ∈ tokens, token.kind ≠ .semicolon := by
  induction run with
  | refl phase => simp
  | step taken run ih => exact List.forall_mem_cons.mpr ⟨ne_semicolon_of_continues taken, ih⟩

namespace Program

/-- Behind a fault the machine has lost its way. -/
def State.isLost : State → Bool
  | .startled | .skipping => true
  | _ => false

/-- States without a fault before them: a statement may start, or the tokens since its start have
all continued it. -/
inductive State.Sound (limit : Nat) : State → Prop where
  | ready : Sound limit .ready
  | reading (keyword : Option Int) {tokens : List Token} {phase : Phase}
      (run : Phase.Reaches limit (.expecting []) tokens phase) :
      Sound limit (.reading keyword phase)

/-- What a token does where there was no fault: it continues a statement, completes one, or is at
fault. With a semicolon the statement is over in any case. -/
inductive Effect (limit : Nat) (token : Token) : State × Option Event → Prop where
  | continues {next : State} (goesOn : token.kind ≠ .semicolon) (sound : next.Sound limit) :
      Effect limit token (next, none)
  | completes (semicolon : token.kind = .semicolon) (statement : Statement) :
      Effect limit token (.ready, some (.read statement))
  | ends (semicolon : token.kind = .semicolon) (cause : Cause) :
      Effect limit token (.ready, some (.fault (.atToken token cause)))
  | strays {next : State} (goesOn : token.kind ≠ .semicolon) (lost : next.isLost) (cause : Cause) :
      Effect limit token (next, some (.fault (.atToken token cause)))

theorem effect_inside {limit : Nat} {tokens : List Token} {phase : Phase} (keyword : Option Int)
    (run : Phase.Reaches limit (.expecting []) tokens phase) (token : Token) :
    Effect limit token (inside limit keyword phase token) := by
  have skipped (cause : Cause) :
      Effect limit token (afterSkipped token, some (.fault (.atToken token cause))) := by
    unfold afterSkipped
    split
    · rename_i semicolon
      exact .ends semicolon cause
    · rename_i goesOn
      exact .strays goesOn rfl cause
  have turn := turn_inside limit keyword phase token
  generalize inside limit keyword phase token = after at turn ⊢
  cases turn with
  | continues taken =>
      have goesOn := Phase.ne_semicolon_of_continues taken
      exact .continues goesOn (.reading keyword (run.trans (.single taken)))
  | completes taken semicolon => exact .completes semicolon _
  | strays taken unclosed => exact skipped _
  | refuses taken => exact skipped _
  | takes taken => exact .strays (Phase.ne_semicolon_of_takes taken) rfl _

theorem State.Sound.effect_step {limit : Nat} {state : State} (sound : state.Sound limit)
    (token : Token) : Effect limit token (step limit state token) := by
  cases sound with
  | reading keyword run => exact effect_inside keyword run token
  | ready =>
      simp only [step, start]
      split
      · rename_i word
        exact .continues (by simp [word]) (.reading _ (.refl _))
      · exact effect_inside none (.refl _) token

/-- A lost machine skips every token that opens no statement. -/
theorem step_of_isLost (limit : Nat) {state : State} {token : Token} (lost : state.isLost)
    (follows : leads token = false) : step limit state token = (afterSkipped token, none) := by
  cases state with
  | ready => cases lost
  | reading keyword phase => cases lost
  | startled => rfl
  | skipping => simp [step, follows]

theorem run_of_reaches {limit : Nat} {phase next : Phase} {tokens : List Token}
    (keyword : Option Int) (run : Phase.Reaches limit phase tokens next) :
    after limit (.reading keyword phase) tokens = .reading keyword next ∧
      completed limit (.reading keyword phase) tokens = [] := by
  induction run with
  | refl phase => exact ⟨rfl, rfl⟩
  | step taken run ih =>
      have continued {phase next : Phase} {token : Token}
          (taken : phase.take limit token = .continues next) :
          step limit (.reading keyword phase) token = (.reading keyword next, none) := by
        simp [step, inside, taken]
      simpa only [after, completed, continued taken, Option.toList_none, List.nil_append] using ih

/-- A semicolon completes a statement whose expression can end before it. -/
theorem step_of_finish (limit : Nat) (keyword : Option Int) {value whole : Expr}
    {openings : List Opening} {token : Token}
    (finished : Phase.finish (.holding value openings) = .ok whole)
    (semicolon : token.kind = .semicolon) :
    step limit (.reading keyword (.holding value openings)) token =
      (.ready, some (.read (statement keyword whole))) := by
  have ended : Phase.take limit (.holding value openings) token = .ended whole :=
    Phase.take_eq_ended_of_finish semicolon finished
  simp [step, inside, ended, semicolon]

theorem State.Sound.after {limit : Nat} {state : State} {tokens : List Token}
    (sound : state.Sound limit) (faultless : faults (completed limit state tokens) = []) :
    (Program.after limit state tokens).Sound limit := by
  induction tokens generalizing state with
  | nil => exact sound
  | cons token rest ih =>
      have effect := sound.effect_step token
      simp only [completed, faults_append, List.append_eq_nil_iff] at faultless
      rw [Program.after]
      generalize step limit state token = taken at effect faultless
      cases effect with
      | continues goesOn next => exact ih next faultless.2
      | completes semicolon statement => exact ih .ready faultless.2
      | ends semicolon cause => simp [faults] at faultless
      | strays goesOn lost cause => simp [faults] at faultless

theorem finish_eq_atToken {ending : Token} {state : State} {found : Fault}
    (finished : finish ending state = some found) : ∃ cause, found = .atToken ending cause := by
  unfold finish at finished
  split at finished
  · split at finished
    · exact ⟨_, (Option.some.inj finished).symm⟩
    · exact ⟨_, (Option.some.inj finished).symm⟩
  · cases finished

/-- A program without a fault is over where a statement may start. -/
theorem State.Sound.eq_ready {limit : Nat} {state : State} (sound : state.Sound limit)
    {ending : Token} (finished : finish ending state = none) : state = .ready := by
  cases sound with
  | ready => rfl
  | @reading keyword tokens phase run =>
      simp only [finish] at finished
      split at finished <;> cases finished

theorem faultless_of_recover {limit : Nat} {tokens : List Token}
    (faultless : (recover limit tokens).2 = []) :
    faults (completed limit .ready (Input.ofTokens tokens).body) = [] ∧
      after limit .ready (Input.ofTokens tokens).body = .ready := by
  have parts := events_append limit (Input.ofTokens tokens).ending .ready
    (Input.ofTokens tokens).body []
  rw [List.append_nil] at parts
  simp only [recover, parts, faults_append, List.append_eq_nil_iff] at faultless
  have sound := State.Sound.ready.after faultless.1
  refine ⟨faultless.1, ?_⟩
  cases finished : finish (Input.ofTokens tokens).ending
      (after limit .ready (Input.ofTokens tokens).body) with
  | none => exact sound.eq_ready finished
  | some found =>
      have ended := faultless.2
      simp [events, finished, faults] at ended

/-- What is read of tokens behind which a statement may start. -/
theorem recover_of_ready {limit : Nat} {tokens : List Token}
    (ready : after limit .ready (Input.ofTokens tokens).body = .ready) :
    recover limit tokens =
      (statements (completed limit .ready (Input.ofTokens tokens).body),
        faults (completed limit .ready (Input.ofTokens tokens).body)) := by
  have parts := events_append limit (Input.ofTokens tokens).ending .ready
    (Input.ofTokens tokens).body []
  have nothing : events limit (Input.ofTokens tokens).ending .ready [] = [] := rfl
  rw [ready, nothing, List.append_nil, List.append_nil] at parts
  rw [recover, parts]

theorem recover_of_eof (limit : Nat) {ending : Token} (isEnd : ending.kind = .eof) :
    recover limit [ending] = ([], []) := by
  simp [recover, Input.ofTokens, isEnd, events, finish, statements, faults]

/-- Behind a program without a fault, any tokens are read as if they stood alone. -/
theorem recover_append_of_faultless {limit : Nat} {front : List Token} {ending : Token}
    (noEnd : ∀ token ∈ front, token.kind ≠ .eof) (isEnd : ending.kind = .eof)
    (faultless : (recover limit (front ++ [ending])).2 = []) (back : List Token) :
    recover limit (front ++ back) =
      ((recover limit (front ++ [ending])).1 ++ (recover limit back).1,
        (recover limit back).2) := by
  have body : (Input.ofTokens (front ++ [ending])).body = front := by
    rw [Input.body_append noEnd]
    simp [Input.ofTokens, isEnd]
  rcases faultless_of_recover faultless with ⟨nothing, ready⟩
  rw [body] at nothing ready
  rw [recover_append noEnd ready, recover_append noEnd ready, nothing,
    recover_of_eof limit isEnd]
  simp

/-- Where a program without a fault ends does not matter. -/
theorem ofTokens_append_eof {limit : Nat} {front : List Token} {ending other : Token}
    {read : List Statement} (noEnd : ∀ token ∈ front, token.kind ≠ .eof)
    (isEnd : ending.kind = .eof) (isEndToo : other.kind = .eof)
    (isRead : ofTokens limit (front ++ [ending]) = .ok read) :
    ofTokens limit (front ++ [other]) = .ok read := by
  rw [ofTokens_eq_ok_iff] at isRead ⊢
  rw [recover_append_of_faultless noEnd isEnd (by rw [isRead]), isRead,
    recover_of_eof limit isEndToo, List.append_nil]

end Program

end Scriptlet
