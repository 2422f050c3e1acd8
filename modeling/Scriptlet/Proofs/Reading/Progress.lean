import Scriptlet.Proofs.Reading.Runs

/-!
# Recovery makes progress

Recovery is a loop. In each round it reads a statement from a cursor on, up to the token that
completes the statement or is at fault, and behind a fault it skips tokens until a statement may
start. `Program.loop` is this loop with its cursors; it completes the same events as the machine
does, one a round.

Every round takes at least the token that it starts at, since that token is no end mark: a fault
there leaves the token to be skipped. So the cursor goes forward until it stands at an end mark, and
the tokens that the rounds end at follow one another.
-/

namespace Scriptlet

/-- The tokens with an end mark behind them. A list that does not end in one is given one on its
last line. -/
def Input.terminated (tokens : List Token) : List Token :=
  if tokens.getLast?.any (fun last => last.kind = .eof) then tokens
  else tokens ++ [{ kind := .eof, line := (tokens.getLast?.map Token.line).getD 1 }]

/-- What is read are the first tokens, up to the first end mark. -/
theorem Input.prefix_terminated (tokens : List Token) :
    (ofTokens tokens).body ++ [(ofTokens tokens).ending] <+: terminated tokens := by
  cases found : tokens.find? fun token => token.kind = .eof with
  | none =>
      have noEnd : ∀ token ∈ tokens, token.kind ≠ .eof := by simpa using found
      have body : (ofTokens tokens).body = tokens := by
        have whole := body_append noEnd []
        rwa [List.append_nil, show (ofTokens []).body = [] from rfl, List.append_nil] at whole
      have unended : ¬tokens.getLast?.any (fun last => last.kind = .eof) := by
        rw [Option.any_eq_true]
        rintro ⟨last, isLast, isEnd⟩
        exact noEnd last (List.mem_of_getLast? isLast) (by simpa using isEnd)
      rw [body, terminated, if_neg unended, ofTokens, found]
      exact List.prefix_refl _
  | some ending =>
      rcases List.find?_eq_some_iff_append.mp found with ⟨isEnd, front, back, parts, noEnd⟩
      have body : (ofTokens tokens).body = front := by
        rw [parts, body_append (by simpa using noEnd)]
        simp [ofTokens, of_decide_eq_true isEnd]
      have inTokens : (ofTokens tokens).body ++ [(ofTokens tokens).ending] <+: tokens := by
        refine ⟨back, ?_⟩
        rw [body, ofTokens, found, Option.getD_some, parts, List.append_assoc,
          List.singleton_append]
      unfold terminated
      split
      · exact inTokens
      · exact inTokens.trans (List.prefix_append _ _)

theorem Input.kind_ending (tokens : List Token) : (ofTokens tokens).ending.kind = .eof := by
  unfold ofTokens
  dsimp only
  cases found : tokens.find? fun token => token.kind = .eof with
  | none => rfl
  | some ending => simpa using List.find?_some found

namespace Program

/-- Where the reading of a statement ends: the event, at which token, and what is ahead. -/
structure Halt where
  event : Event
  place : Nat
  state : State
  cursor : Nat
  ahead : List Token

/-- Reads from a state on up to the first event. At the end mark the cursor stays. -/
def readOn (limit : Nat) (ending : Token) (state : State) (cursor : Nat) :
    List Token → Option Halt
  | [] => (finish ending state).map fun found => ⟨.fault found, cursor, .ready, cursor, []⟩
  | token :: ahead =>
      match step limit state token with
      | (next, some event) => some ⟨event, cursor, next, cursor + 1, ahead⟩
      | (next, none) => readOn limit ending next (cursor + 1) ahead

/-- Skips tokens until a statement may start: the cursor there, and the tokens ahead. -/
def skip (state : State) (cursor : Nat) : List Token → Nat × List Token
  | [] => (cursor, [])
  | token :: ahead =>
      match state with
      | .startled => skip (afterSkipped token) (cursor + 1) ahead
      | .skipping =>
          if leads token then (cursor, token :: ahead)
          else skip (afterSkipped token) (cursor + 1) ahead
      | _ => (cursor, token :: ahead)

/-- One round of recovery: the cursor before it, what it completes and at which token, and the
cursor behind it. -/
structure Round where
  start : Nat
  event : Event
  place : Nat
  stop : Nat

theorem length_lt_of_readOn {limit : Nat} {ending : Token} {state : State} {cursor : Nat}
    {tokens : List Token} (filled : tokens ≠ []) {halt : Halt}
    (halts : readOn limit ending state cursor tokens = some halt) :
    halt.ahead.length < tokens.length := by
  induction tokens generalizing state cursor with
  | nil => exact absurd rfl filled
  | cons token ahead ih =>
      rw [readOn] at halts
      split at halts
      · cases halts
        exact Nat.lt_succ_self _
      · rcases ahead with _ | ⟨next, more⟩
        · rcases Option.map_eq_some_iff.mp halts with ⟨found, -, rfl⟩
          exact Nat.zero_lt_succ _
        · exact Nat.lt_succ_of_lt (ih (List.cons_ne_nil next more) halts)

/-- Skipping takes some tokens and leaves the others. -/
theorem skip_parts (state : State) (cursor : Nat) (tokens : List Token) :
    ∃ skipped, tokens = skipped ++ (skip state cursor tokens).2 ∧
      (skip state cursor tokens).1 = cursor + skipped.length := by
  induction tokens generalizing state cursor with
  | nil => exact ⟨[], rfl, rfl⟩
  | cons token ahead ih =>
      have further : ∃ skipped,
          token :: ahead = skipped ++ (skip (afterSkipped token) (cursor + 1) ahead).2 ∧
            (skip (afterSkipped token) (cursor + 1) ahead).1 = cursor + skipped.length := by
        rcases ih (afterSkipped token) (cursor + 1) with ⟨skipped, parts, count⟩
        refine ⟨token :: skipped, congrArg (token :: ·) parts, ?_⟩
        rw [count, List.length_cons]
        omega
      cases state with
      | ready => exact ⟨[], rfl, rfl⟩
      | reading keyword phase => exact ⟨[], rfl, rfl⟩
      | startled => exact further
      | skipping =>
          rw [skip]
          split
          · exact ⟨[], rfl, rfl⟩
          · exact further

/-- The rounds from a cursor on, where the tokens ahead are given up to the end mark. -/
def rounds (limit : Nat) (ending : Token) (cursor : Nat) (tokens : List Token) : List Round :=
  match tokens with
  | [] => []
  | token :: rest =>
      match _ : readOn limit ending .ready cursor (token :: rest) with
      | none => []
      | some halt =>
          ⟨cursor, halt.event, halt.place, (skip halt.state halt.cursor halt.ahead).1⟩ ::
            rounds limit ending (skip halt.state halt.cursor halt.ahead).1
              (skip halt.state halt.cursor halt.ahead).2
termination_by tokens.length
decreasing_by
  have shorter := length_lt_of_readOn (List.cons_ne_nil token rest) ‹_›
  rcases skip_parts halt.state halt.cursor halt.ahead with ⟨skipped, parts, -⟩
  have whole := congrArg List.length parts
  rw [List.length_append] at whole
  omega

/-- The loop of recovery over a token list. -/
def loop (limit : Nat) (tokens : List Token) : List Round :=
  rounds limit (Input.ofTokens tokens).ending 0 (Input.ofTokens tokens).body

/-- The token that an event comes with: a statement is completed by a semicolon, and a fault blames
its token. -/
inductive Event.IsAt (token : Token) : Event → Prop where
  | read (semicolon : token.kind = .semicolon) (statement : Statement) :
      IsAt token (.read statement)
  | fault (cause : Cause) : IsAt token (.fault (.atToken token cause))

/-- How the reading of a statement can end: at one of the tokens, or at the end mark. -/
inductive Halts (limit : Nat) (ending : Token) (state : State) (cursor : Nat)
    (tokens : List Token) : Halt → Prop where
  | inside {front ahead : List Token} {token : Token} {event : Event} {next : State}
      (parts : tokens = front ++ token :: ahead) (isAt : event.IsAt token)
      (free : next = .ready ∨ next.isLost)
      (goesOn : events limit ending state tokens = event :: events limit ending next ahead) :
      Halts limit ending state cursor tokens
        ⟨event, cursor + front.length, next, cursor + front.length + 1, ahead⟩
  | atEnd (cause : Cause)
      (ends : events limit ending state tokens = [.fault (.atToken ending cause)]) :
      Halts limit ending state cursor tokens
        ⟨.fault (.atToken ending cause), cursor + tokens.length, .ready, cursor + tokens.length,
          []⟩

/-- A token that completes nothing only puts off the end of the reading. -/
theorem Halts.cons {limit : Nat} {ending : Token} {state next : State} {cursor : Nat}
    {token : Token} {rest : List Token} {halt : Halt}
    (taken : step limit state token = (next, none))
    (halts : Halts limit ending next (cursor + 1) rest halt) :
    Halts limit ending state cursor (token :: rest) halt := by
  have silent : events limit ending state (token :: rest) = events limit ending next rest := by
    simp only [events, taken, Option.toList_none, List.nil_append]
  cases halts with
  | @inside front ahead last event behind parts isAt free goesOn =>
      have count : cursor + 1 + front.length = cursor + (token :: front).length := by
        rw [List.length_cons]
        omega
      rw [count]
      exact .inside (congrArg (token :: ·) parts) isAt free (silent.trans goesOn)
  | atEnd cause ends =>
      have count : cursor + 1 + rest.length = cursor + (token :: rest).length := by
        rw [List.length_cons]
        omega
      rw [count]
      exact .atEnd cause (silent.trans ends)

theorem inside_ne_ready {limit : Nat} {keyword : Option Int} {phase : Phase} {token : Token}
    {next : State} (taken : inside limit keyword phase token = (next, none)) : next ≠ .ready := by
  have turn := turn_inside limit keyword phase token
  rw [taken] at turn
  cases turn with
  | continues taken => exact State.noConfusion

/-- A token that starts or continues a statement leaves the statement open. -/
theorem State.Sound.ne_ready {limit : Nat} {state next : State} {token : Token}
    (sound : state.Sound limit) (taken : step limit state token = (next, none)) :
    next ≠ .ready := by
  cases sound with
  | reading keyword run => exact inside_ne_ready taken
  | ready =>
      simp only [step, start] at taken
      split at taken
      · cases taken
        exact State.noConfusion
      · exact inside_ne_ready taken

/-- Reading ends if there are tokens ahead or a statement is open. -/
theorem State.Sound.readOn {limit : Nat} {state : State} (sound : state.Sound limit)
    (ending : Token) (cursor : Nat) {tokens : List Token}
    (goesOn : tokens ≠ [] ∨ state ≠ .ready) :
    ∃ halt, Program.readOn limit ending state cursor tokens = some halt ∧
      Halts limit ending state cursor tokens halt := by
  induction tokens generalizing state cursor with
  | nil =>
      cases finished : finish ending state with
      | none => exact absurd (sound.eq_ready finished) (goesOn.resolve_left (· rfl))
      | some found =>
          rcases finish_eq_atToken finished with ⟨cause, rfl⟩
          refine ⟨_, by rw [Program.readOn, finished]; rfl, .atEnd cause ?_⟩
          simp [events, finished]
  | cons token rest ih =>
      have effect := sound.effect_step token
      have stays {next : State} (taken : step limit state token = (next, none)) :=
        sound.ne_ready taken
      rw [Program.readOn]
      generalize taken : step limit state token = after at effect stays
      have completes {event : Event} {next : State} (isAt : event.IsAt token)
          (free : next = .ready ∨ next.isLost) (same : after = (next, some event)) :
          Halts limit ending state cursor (token :: rest)
            ⟨event, cursor, next, cursor + 1, rest⟩ := by
        have nothingBefore : token :: rest = [] ++ token :: rest := rfl
        refine .inside nothingBefore isAt free ?_
        simp [events, taken, same]
      cases effect with
      | continues goesOn nextSound =>
          rcases ih nextSound (cursor + 1) (.inr (stays rfl)) with ⟨halt, found, halts⟩
          exact ⟨halt, found, halts.cons taken⟩
      | completes semicolon statement =>
          exact ⟨_, rfl, completes (.read semicolon statement) (.inl rfl) rfl⟩
      | ends semicolon cause => exact ⟨_, rfl, completes (.fault cause) (.inl rfl) rfl⟩
      | strays goesOn lost cause => exact ⟨_, rfl, completes (.fault cause) (.inr lost) rfl⟩

/-- Skipping completes nothing, and behind the skipped tokens the machine goes on as where a
statement may start. -/
theorem events_skip (limit : Nat) (ending : Token) {state : State}
    (free : state = .ready ∨ state.isLost) (cursor : Nat) (tokens : List Token) :
    events limit ending state tokens =
      events limit ending .ready (skip state cursor tokens).2 := by
  induction tokens generalizing state cursor with
  | nil =>
      cases state with
      | reading keyword phase => simp [State.isLost] at free
      | _ => rfl
  | cons token ahead ih =>
      have further : events limit ending (afterSkipped token) ahead =
          events limit ending .ready (skip (afterSkipped token) (cursor + 1) ahead).2 := by
        apply ih
        unfold afterSkipped
        split
        · exact .inl rfl
        · exact .inr rfl
      cases state with
      | ready => rfl
      | reading keyword phase => simp [State.isLost] at free
      | startled => exact further
      | skipping =>
          rw [skip]
          split
          · rename_i opens
            simp only [events, step, if_pos opens]
          · rename_i follows
            simpa only [events, step, if_neg follows, Option.toList_none, List.nil_append]
              using further

/-- What a round does to the tokens ahead of it: it takes some of them and leaves the others. -/
structure Round.Takes (limit : Nat) (ending : Token) (tokens : List Token) (round : Round)
    (left : List Token) : Prop where
  parts : ∃ taken, tokens = taken ++ left ∧ taken ≠ [] ∧ round.stop = round.start + taken.length
  isAt : ∃ offset token, round.place = round.start + offset ∧
    (tokens ++ [ending])[offset]? = some token ∧ round.event.IsAt token
  passes : round.place < round.stop ∨ round.place = round.stop ∧ left = []
  goesOn : events limit ending .ready tokens = round.event :: events limit ending .ready left

theorem exists_round (limit : Nat) (ending : Token) (cursor : Nat) {tokens : List Token}
    (filled : tokens ≠ []) :
    ∃ round left, round.start = cursor ∧ round.Takes limit ending tokens left ∧
      rounds limit ending cursor tokens = round :: rounds limit ending round.stop left := by
  rcases State.Sound.ready.readOn ending cursor (.inl filled) with ⟨halt, found, halts⟩
  refine ⟨⟨cursor, halt.event, halt.place, (skip halt.state halt.cursor halt.ahead).1⟩,
    (skip halt.state halt.cursor halt.ahead).2, rfl, ?_, ?_⟩
  · cases halts with
    | @inside front ahead token event next parts isAt free goesOn =>
        rcases skip_parts next (cursor + front.length + 1) ahead with ⟨skipped, ahead_eq, stop⟩
        have taken : (front ++ token :: skipped).length = front.length + 1 + skipped.length := by
          simp only [List.length_append, List.length_cons]
          omega
        refine ⟨⟨front ++ token :: skipped, ?_, by simp, ?_⟩, ⟨front.length, token, rfl, ?_, isAt⟩,
          .inl ?_, ?_⟩
        · rw [List.append_assoc, List.cons_append, ← ahead_eq, parts]
        · dsimp only
          rw [stop, taken]
          omega
        · simp [parts]
        · dsimp only
          rw [stop]
          omega
        · rw [goesOn, ← events_skip limit ending free]
    | atEnd cause ends =>
        refine ⟨⟨tokens, (List.append_nil tokens).symm, filled, rfl⟩,
          ⟨tokens.length, ending, rfl, by simp, .fault cause⟩, .inr ⟨rfl, rfl⟩, ends⟩
  · cases tokens with
    | nil => exact absurd rfl filled
    | cons token rest =>
        rw [rounds]
        split
        · rename_i none
          rw [found] at none
          cases none
        · rename_i other isHalt
          rw [found] at isHalt
          cases isHalt
          rfl

@[simp]
theorem rounds_nil (limit : Nat) (ending : Token) (cursor : Nat) :
    rounds limit ending cursor [] = [] := by
  rw [rounds]

/-- Induction over the rounds of the loop. -/
theorem rounds_induction (limit : Nat) (ending : Token) {motive : Nat → List Token → Prop}
    (nil : ∀ cursor, motive cursor [])
    (cons : ∀ {tokens left : List Token} {round : Round} (_ : tokens ≠ [])
      (_ : round.Takes limit ending tokens left)
      (_ : rounds limit ending round.start tokens =
        round :: rounds limit ending round.stop left)
      (_ : motive round.stop left), motive round.start tokens)
    (cursor : Nat) (tokens : List Token) : motive cursor tokens := by
  by_cases filled : tokens = []
  · rw [filled]
    exact nil cursor
  · rcases exists_round limit ending cursor filled with ⟨round, left, rfl, takes, parts⟩
    have shorter : left.length < tokens.length := by
      rcases takes.parts with ⟨taken, whole, some, -⟩
      have positive := List.length_pos_iff.mpr some
      rw [whole, List.length_append]
      omega
    exact cons filled takes parts (rounds_induction limit ending nil cons round.stop left)
termination_by tokens.length

/-- An end mark stands at a cursor. -/
def EndsAt (all : List Token) (cursor : Nat) : Prop :=
  ∃ ending, all[cursor]? = some ending ∧ ending.kind = .eof

/-- What a round does to the cursor. It goes forward and stays among the tokens, and the event comes
with a token that it passes, or with the end mark that it stops at. -/
structure Round.Advances (all : List Token) (round : Round) : Prop where
  onward : round.start < round.stop
  within : round.stop < all.length
  reads : round.start ≤ round.place
  passes : round.place < round.stop ∨ round.place = round.stop ∧ EndsAt all round.stop
  isAt : ∃ token, all[round.place]? = some token ∧ round.event.IsAt token

/-- Rounds that follow one another from a cursor on. Each starts where the one before it stopped,
and there is one more as long as the cursor is not at an end mark. -/
inductive Follows (all : List Token) : Nat → List Round → Prop where
  | nil {cursor : Nat} (ends : EndsAt all cursor) : Follows all cursor []
  | cons {round : Round} {rest : List Round} (begins : ¬EndsAt all round.start)
      (advances : round.Advances all) (follows : Follows all round.stop rest) :
      Follows all round.start (round :: rest)

section Tokens

variable {all tokens behind : List Token} {ending : Token} {cursor : Nat}
  (ahead : all.drop cursor = tokens ++ ending :: behind)

include ahead

theorem getElem?_ahead {offset : Nat} {token : Token}
    (found : (tokens ++ [ending])[offset]? = some token) : all[cursor + offset]? = some token := by
  have inside := (List.getElem?_eq_some_iff.mp found).1
  rw [← List.getElem?_drop, ahead, ← List.singleton_append, ← List.append_assoc,
    List.getElem?_append_left inside, found]

theorem drop_ahead {front back : List Token} (parts : tokens = front ++ back) :
    all.drop (cursor + front.length) = back ++ ending :: behind := by
  rw [← List.drop_drop, ahead, parts, List.append_assoc, List.drop_left]

theorem endsAt_iff (noEnd : ∀ token ∈ tokens, token.kind ≠ .eof) (isEnd : ending.kind = .eof) :
    EndsAt all cursor ↔ tokens = [] := by
  have here : all[cursor]? = (tokens ++ ending :: behind).head? := by
    rw [← ahead, List.head?_drop]
  rw [EndsAt, here]
  cases tokens with
  | nil => simpa using isEnd
  | cons first rest => simpa using noEnd first (.head rest)

theorem Round.Takes.advances {limit : Nat} {round : Round} {left : List Token}
    (takes : round.Takes limit ending tokens left) (starts : round.start = cursor)
    (noEnd : ∀ token ∈ tokens, token.kind ≠ .eof) (isEnd : ending.kind = .eof) :
    round.Advances all := by
  subst starts
  rcases takes.parts with ⟨taken, parts, some, stop⟩
  rcases takes.isAt with ⟨offset, token, place, found, isAt⟩
  have positive := List.length_pos_iff.mpr some
  have later := drop_ahead ahead parts
  have noEndLeft : ∀ token ∈ left, token.kind ≠ .eof := by
    intro token member
    exact noEnd token (parts ▸ List.mem_append_right _ member)
  refine ⟨by omega, ?_, by omega, ?_, token, ?_, isAt⟩
  · apply Nat.lt_of_not_le
    intro beyond
    rw [← stop, List.drop_eq_nil_of_le beyond] at later
    simp at later
  · rcases takes.passes with passed | ⟨same, nothing⟩
    · exact .inl passed
    · refine .inr ⟨same, ?_⟩
      rw [stop]
      exact (endsAt_iff later noEndLeft isEnd).mpr nothing
  · rw [place]
    exact getElem?_ahead ahead found

end Tokens

/-- The rounds from a cursor on follow one another. -/
theorem follows_rounds (limit : Nat) {ending : Token} (isEnd : ending.kind = .eof) (cursor : Nat)
    (tokens : List Token) {all behind : List Token}
    (ahead : all.drop cursor = tokens ++ ending :: behind)
    (noEnd : ∀ token ∈ tokens, token.kind ≠ .eof) :
    Follows all cursor (rounds limit ending cursor tokens) := by
  induction cursor, tokens using rounds_induction limit ending with
  | nil cursor =>
      rw [rounds_nil]
      exact .nil ((endsAt_iff ahead noEnd isEnd).mpr rfl)
  | cons filled takes parts ih =>
      rw [parts]
      refine .cons ?_ (takes.advances ahead rfl noEnd isEnd) ?_
      · rwa [endsAt_iff ahead noEnd isEnd]
      · rcases takes.parts with ⟨taken, rfl, -, stop⟩
        rw [List.forall_mem_append] at noEnd
        rw [stop] at ih ⊢
        exact ih (drop_ahead ahead rfl) noEnd.2

theorem events_rounds (limit : Nat) (ending : Token) (cursor : Nat) (tokens : List Token) :
    events limit ending .ready tokens = (rounds limit ending cursor tokens).map Round.event := by
  induction cursor, tokens using rounds_induction limit ending with
  | nil cursor =>
      rw [rounds_nil]
      rfl
  | cons filled takes parts ih => rw [takes.goesOn, parts, ih, List.map_cons]

namespace Follows

variable {all : List Token} {cursor : Nat} {rounds : List Round}

theorem advances (follows : Follows all cursor rounds) :
    ∀ round ∈ rounds, round.Advances all := by
  induction follows with
  | nil ends => simp
  | cons begins advances follows ih => exact List.forall_mem_cons.mpr ⟨advances, ih⟩

theorem cursor_le (follows : Follows all cursor rounds) :
    ∀ round ∈ rounds, cursor ≤ round.start := by
  induction follows with
  | nil ends => simp
  | cons begins advances follows ih =>
      refine List.forall_mem_cons.mpr ⟨Nat.le_refl _, ?_⟩
      intro later member
      exact Nat.le_trans (Nat.le_of_lt advances.onward) (ih later member)

theorem eq_nil (follows : Follows all cursor rounds) (ends : EndsAt all cursor) : rounds = [] := by
  cases follows with
  | nil => rfl
  | cons begins => exact absurd ends begins

/-- The events come with tokens that follow one another. -/
theorem pairwise_place (follows : Follows all cursor rounds) :
    (rounds.map Round.place).Pairwise (· < ·) := by
  induction follows with
  | nil ends => exact .nil
  | @cons round rest begins advances follows ih =>
      rw [List.map_cons, List.pairwise_cons]
      refine ⟨?_, ih⟩
      intro place member
      rcases List.mem_map.mp member with ⟨later, inRest, rfl⟩
      have starts := follows.cursor_le later inRest
      have reads := (follows.advances later inRest).reads
      rcases advances.passes with passed | ⟨same, ends⟩
      · omega
      · -- The round stopped at an end mark, where no other one starts.
        rw [follows.eq_nil ends] at inRest
        cases inRest

/-- Each round takes a token of its own, and the end mark is none of them. -/
theorem length_lt (follows : Follows all cursor rounds) : cursor + rounds.length < all.length := by
  induction follows with
  | nil ends =>
      rcases ends with ⟨ending, found, -⟩
      exact (List.getElem?_eq_some_iff.mp found).1
  | cons begins advances follows ih =>
      have onward := advances.onward
      rw [List.length_cons]
      omega

end Follows

theorem length_statements_add_faults (found : List Event) :
    (statements found).length + (faults found).length = found.length := by
  induction found with
  | nil => rfl
  | cons event rest ih =>
      cases event <;> simp [statements, faults] at ih ⊢ <;> omega

/-- Recovery always makes progress. Over any list of tokens, with end marks anywhere or none, it is
a loop of rounds that each complete one statement or find one fault. The rounds follow one another
from the first token to the first end mark: each moves the cursor forward and leaves it among the
tokens. The tokens that are blamed, and the semicolons that complete statements, come in strictly
increasing order, and there are fewer statements and faults together than tokens. -/
theorem recover_makes_progress (setting : Int) (tokens : List Token) :
    let limit := depthLimit setting
    let all := Input.terminated tokens
    let rounds := loop limit tokens
    recover limit tokens =
        (statements (rounds.map Round.event), faults (rounds.map Round.event)) ∧
      Follows all 0 rounds ∧
      (∀ round ∈ rounds, round.start < round.stop ∧ round.stop < all.length ∧
        ∃ token, all[round.place]? = some token ∧ round.event.IsAt token) ∧
      (rounds.map Round.place).Pairwise (· < ·) ∧
      (recover limit tokens).1.length + (recover limit tokens).2.length = rounds.length ∧
      rounds.length < all.length := by
  intro limit all rounds
  rcases Input.prefix_terminated tokens with ⟨behind, whole⟩
  have ahead : all.drop 0 =
      (Input.ofTokens tokens).body ++ (Input.ofTokens tokens).ending :: behind := by
    rw [List.drop_zero, ← List.singleton_append, ← List.append_assoc]
    exact whole.symm
  have follows : Follows all 0 rounds :=
    follows_rounds limit (Input.kind_ending tokens) 0 _ ahead (Input.kind_ne_eof_of_mem_body tokens)
  have recovered : recover limit tokens =
      (statements (rounds.map Round.event), faults (rounds.map Round.event)) := by
    have found := events_rounds limit (Input.ofTokens tokens).ending 0 (Input.ofTokens tokens).body
    rw [recover, found]
    rfl
  have count := length_statements_add_faults (rounds.map Round.event)
  have fewer := follows.length_lt
  rw [Nat.zero_add] at fewer
  refine ⟨recovered, follows, ?_, follows.pairwise_place, ?_, fewer⟩
  · intro round member
    have advances := follows.advances round member
    exact ⟨advances.onward, advances.within, advances.isAt⟩
  · rw [recovered, count, List.length_map]

end Program

end Scriptlet
