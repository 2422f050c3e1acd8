import Scriptlet.Proofs.Reading.Blame
import Scriptlet.Proofs.Reading.Isolation

/-!
# Where recovery resumes

Behind a fault the machine skips tokens, and a word that opens a statement stops it. But it always
skips one token before it looks for such a word: the blamed token if that has not been taken yet,
and the token behind it otherwise. So when stray tokens are followed by a print statement, it
depends on the place of the fault whether that statement survives. It does if the fault is found at
one of the stray tokens, except that a fault at the last of them must leave that token to be
skipped. Otherwise the one token that is skipped unseen is the word `print`, and the rest of the
statement is skipped with it.

`Program.recover_resumes` says this exactly. Either way there is exactly one fault.
-/

namespace Scriptlet

/-- The causes that are only found when their token has been taken. -/
def Cause.takesToken : Cause → Bool
  | .tooDeep | .malformedLiteral => true
  | _ => false

namespace Phase

theorem takesToken_of_nest {limit : Nat} {opening : Opening} {openings : List Opening}
    {cause : Cause} {isTaken : Bool}
    (faulty : nest limit opening openings = .faulty cause isTaken) :
    cause.takesToken = isTaken := by
  unfold nest at faulty
  split at faulty
  · cases faulty
    rfl
  · cases faulty

theorem takesToken_of_takeOperand {limit : Nat} {openings : List Opening} {token : Token}
    {cause : Cause} {isTaken : Bool}
    (faulty : takeOperand limit openings token = .faulty cause isTaken) :
    cause.takesToken = isTaken := by
  unfold takeOperand at faulty
  split at faulty
  · cases faulty
  · cases faulty
  · cases faulty
  · split at faulty
    · cases faulty
    · cases faulty
      rfl
  · split at faulty
    · cases faulty
    · cases faulty
      rfl
  · exact takesToken_of_nest faulty
  · exact takesToken_of_nest faulty
  · exact takesToken_of_nest faulty
  · exact takesToken_of_nest faulty
  · exact takesToken_of_nest faulty
  · cases faulty
    rfl

theorem takesToken_of_take {limit : Nat} {phase : Phase} {token : Token} {cause : Cause}
    {isTaken : Bool} (faulty : phase.take limit token = .faulty cause isTaken) :
    cause.takesToken = isTaken := by
  cases phase with
  | expecting openings => exact takesToken_of_takeOperand faulty
  | holding value openings =>
      simp only [take, takeOperator] at faulty
      split at faulty
      · cases faulty
      · split at faulty
        · split at faulty
          · cases faulty
          · cases faulty
            rfl
        · cases faulty

end Phase

namespace Program

theorem kind_of_leads {token : Token} (opens : leads token = true) :
    ∃ word, token.kind = .keyword word ∧ word.leadsStatement = true := by
  unfold leads at opens
  split at opens
  · rename_i word isWord
    exact ⟨word, isWord, opens⟩
  · cases opens

/-- A word that opens a statement never continues an expression, and it is not taken by a fault. -/
theorem take_of_leads (limit : Nat) (phase : Phase) {token : Token} (opens : leads token = true) :
    (∃ whole, phase.take limit token = .ended whole) ∨
      ∃ cause, phase.take limit token = .faulty cause false := by
  rcases kind_of_leads opens with ⟨word, isWord, leading⟩
  cases phase with
  | expecting openings =>
      refine .inr ⟨.expectedExpression, ?_⟩
      cases word with
      | classWord | funWord | varWord | valWord | forWord | ifWord | whileWord | loopWord
      | printWord | returnWord => simp [Phase.take, Phase.takeOperand, isWord]
      | _ => cases leading
  | holding value openings =>
      have noOperator : Tier.ofKind? token.kind = none := by
        rw [isWord]
        cases word with
        | inWord => cases leading
        | _ => rfl
      simp only [Phase.take, Phase.takeOperator, noOperator]
      split
      · exact .inr ⟨.expectedParen, by simp [isWord]⟩
      · exact .inl ⟨_, rfl⟩

theorem follows_of_continues {limit : Nat} {phase next : Phase} {token : Token}
    (taken : phase.take limit token = .continues next) : leads token = false := by
  rw [← Bool.not_eq_true]
  intro opens
  rcases take_of_leads limit phase opens with ⟨whole, stops⟩ | ⟨cause, stops⟩
  · cases taken.symm.trans stops
  · cases taken.symm.trans stops

theorem follows_of_takes {limit : Nat} {phase : Phase} {token : Token} {cause : Cause}
    (taken : phase.take limit token = .faulty cause true) : leads token = false := by
  rw [← Bool.not_eq_true]
  intro opens
  rcases take_of_leads limit phase opens with ⟨whole, stops⟩ | ⟨cause, stops⟩
  · cases taken.symm.trans stops
  · cases taken.symm.trans stops

/-- A token inside a statement goes on with it, completes it, or is at fault. Behind a fault the
token is skipped, unless it was taken. -/
inductive Sequel (limit : Nat) (keyword : Option Int) (token : Token) :
    State × Option Event → Prop where
  | continues (next : Phase) (unclosed : token.kind ≠ .semicolon) (follows : leads token = false) :
      Sequel limit keyword token (.reading keyword next, none)
  | completes (whole : Expr) (semicolon : token.kind = .semicolon) :
      Sequel limit keyword token (.ready, some (.read (statement keyword whole)))
  | refuses (cause : Cause) (left : cause.takesToken = false) :
      Sequel limit keyword token
        (afterSkipped token, some (.fault (.atToken token cause)))
  | takes (cause : Cause) (taken : cause.takesToken = true) (unclosed : token.kind ≠ .semicolon)
      (follows : leads token = false) :
      Sequel limit keyword token (.startled, some (.fault (.atToken token cause)))

theorem sequel_inside (limit : Nat) (keyword : Option Int) (phase : Phase) (token : Token) :
    Sequel limit keyword token (inside limit keyword phase token) := by
  have turn := turn_inside limit keyword phase token
  generalize inside limit keyword phase token = after at turn ⊢
  cases turn with
  | continues taken =>
      exact .continues _ (Phase.ne_semicolon_of_continues taken) (follows_of_continues taken)
  | completes taken semicolon => exact .completes _ semicolon
  | strays taken unclosed => exact .refuses .expectedSemicolon rfl
  | refuses taken => exact .refuses _ (Phase.takesToken_of_take taken)
  | takes taken =>
      exact .takes _ (Phase.takesToken_of_take taken) (Phase.ne_semicolon_of_takes taken)
        (follows_of_takes taken)

/-- The tokens behind the first one of a statement: a semicolon closes them, and before it nothing
opens another statement. -/
inductive Remainder : List Token → Prop where
  | last {token : Token} (semicolon : token.kind = .semicolon) : Remainder [token]
  | cons {token : Token} {rest : List Token} (unclosed : token.kind ≠ .semicolon)
      (follows : leads token = false) (tail : Remainder rest) : Remainder (token :: rest)

/-- A lost machine skips all that remains of a statement. -/
theorem Remainder.run_of_isLost {tokens : List Token} (remainder : Remainder tokens) (limit : Nat)
    {state : State} (lost : state.isLost) :
    after limit state tokens = .ready ∧ completed limit state tokens = [] := by
  induction remainder generalizing state with
  | @last token semicolon =>
      have follows : leads token = false := by simp [leads, semicolon]
      have skipped := step_of_isLost limit lost follows
      simp [after, completed, skipped, afterSkipped, semicolon]
  | cons unclosed follows tail ih =>
      have skipped := step_of_isLost limit lost follows
      simp only [after, completed, skipped, Option.toList_none, List.nil_append]
      exact ih (by simp [afterSkipped, unclosed, State.isLost])

theorem exists_reading_of_silent {limit : Nat} {keyword : Option Int} {phase : Phase}
    {tokens : List Token} (silent : completed limit (.reading keyword phase) tokens = []) :
    ∃ next, after limit (.reading keyword phase) tokens = .reading keyword next := by
  induction tokens generalizing phase with
  | nil => exact ⟨phase, rfl⟩
  | cons token rest ih =>
      have sequel := sequel_inside limit keyword phase token
      simp only [completed, after, step] at silent ⊢
      generalize inside limit keyword phase token = taken at sequel silent ⊢
      cases sequel with
      | continues next unclosed follows => exact ih silent
      | completes whole semicolon => cases silent
      | refuses cause left => cases silent
      | takes cause isTaken unclosed follows => cases silent

/-- Where a statement may start, nothing but the end leaves the machine there without an event. -/
theorem eq_nil_of_silent {limit : Nat} {tokens : List Token}
    (silent : completed limit .ready tokens = []) (ready : after limit .ready tokens = .ready) :
    tokens = [] := by
  cases tokens with
  | nil => rfl
  | cons token rest =>
      have starts : ∃ keyword phase, step limit .ready token = (.reading keyword phase, none) := by
        have nothing : (step limit .ready token).2 = none := by
          simp only [completed, List.append_eq_nil_iff, Option.toList_eq_nil_iff] at silent
          exact silent.1
        simp only [step, start] at nothing ⊢
        split
        · exact ⟨_, _, rfl⟩
        · rename_i noPrint
          rw [if_neg noPrint] at nothing
          have sequel := sequel_inside limit none (.expecting []) token
          generalize inside limit none (.expecting []) token = taken at sequel nothing ⊢
          cases sequel with
          | continues next unclosed follows => exact ⟨_, _, rfl⟩
          | completes whole semicolon => cases nothing
          | refuses cause left => cases nothing
          | takes cause isTaken unclosed follows => cases nothing
      rcases starts with ⟨keyword, phase, stepped⟩
      simp only [completed, after, stepped, Option.toList_none, List.nil_append] at silent ready
      rcases exists_reading_of_silent silent with ⟨next, stays⟩
      rw [stays] at ready
      cases ready

/-- Tokens that complete one statement and nothing else are what remains of it. -/
theorem remainder_of_read {limit : Nat} {keyword : Option Int} {phase : Phase}
    {tokens : List Token} {read : Statement}
    (one : completed limit (.reading keyword phase) tokens = [.read read])
    (ready : after limit (.reading keyword phase) tokens = .ready) :
    Remainder tokens ∧ ∃ whole, read = statement keyword whole := by
  induction tokens generalizing phase with
  | nil => cases one
  | cons token rest ih =>
      have sequel := sequel_inside limit keyword phase token
      simp only [completed, after, step] at one ready
      generalize inside limit keyword phase token = taken at sequel one ready
      cases sequel with
      | continues next unclosed follows =>
          rcases ih one ready with ⟨remainder, same⟩
          exact ⟨.cons unclosed follows remainder, same⟩
      | completes whole semicolon =>
          simp only [Option.toList_some, List.singleton_append, List.cons.injEq,
            Event.read.injEq] at one
          cases eq_nil_of_silent one.2 ready
          exact ⟨.last semicolon, whole, one.1.symm⟩
      | refuses cause left => simp at one
      | takes cause isTaken unclosed follows => simp at one

theorem eq_map_read_of_faultless {found : List Event} (faultless : faults found = []) :
    found = (statements found).map .read := by
  induction found with
  | nil => rfl
  | cons event rest ih =>
      cases event with
      | read statement => exact congrArg (.read statement :: ·) (ih faultless)
      | fault fault => cases faultless

/-- A program that is one print statement: the word `print`, and what remains of the statement. -/
theorem exists_of_print {limit : Nat} {tokens : List Token} {expr : Expr} {line : Int}
    (isRead : ofTokens limit tokens = .ok [.print expr line]) :
    ∃ word rest, (Input.ofTokens tokens).body = word :: rest ∧
      word.kind = .keyword .printWord ∧ Remainder rest ∧
      completed limit (.reading (some word.line) (.expecting [])) rest =
        [.read (.print expr line)] ∧
      after limit (.reading (some word.line) (.expecting [])) rest = .ready := by
  rw [ofTokens_eq_ok_iff] at isRead
  have noFaults : (recover limit tokens).2 = [] := by rw [isRead]
  rcases faultless_of_recover noFaults with ⟨faultless, ready⟩
  have one : completed limit .ready (Input.ofTokens tokens).body =
      [.read (.print expr line)] := by
    rw [recover_of_ready ready] at isRead
    rw [eq_map_read_of_faultless faultless]
    exact congrArg (List.map Event.read) (congrArg Prod.fst isRead)
  cases body : (Input.ofTokens tokens).body with
  | nil =>
      rw [body] at one
      cases one
  | cons word rest =>
      rw [body] at one ready
      simp only [completed, after, step, start] at one ready
      by_cases isWord : word.kind = .keyword .printWord
      · simp only [if_pos isWord, Option.toList_none, List.nil_append] at one ready
        exact ⟨word, rest, rfl, isWord, (remainder_of_read one ready).1, one, ready⟩
      · -- Without the word, the statement would be an expression.
        simp only [if_neg isWord] at one ready
        have sequel := sequel_inside limit none (.expecting []) word
        generalize inside limit none (.expecting []) word = taken at sequel one ready
        cases sequel with
        | continues next unclosed follows =>
            rcases (remainder_of_read one ready).2 with ⟨whole, same⟩
            cases same
        | completes whole semicolon => simp [statement] at one
        | refuses cause left => simp at one
        | takes cause isTaken unclosed follows => simp at one

/-- Tokens among which nothing ends a statement or opens one. -/
structure IsStray (tokens : List Token) : Prop where
  nonempty : tokens ≠ []
  noEnd : ∀ token ∈ tokens, token.kind ≠ .eof
  unclosed : ∀ token ∈ tokens, token.kind ≠ .semicolon
  follows : ∀ token ∈ tokens, ∀ word ∈ openingWords, token.kind ≠ .keyword word

/-- Some tokens behind the given ones make them a program. -/
def Viable (limit : Nat) (tokens : List Token) : Prop :=
  ∃ continuation read, ofTokens limit (tokens ++ continuation) = .ok read

theorem viable_iff {limit : Nat} {tokens : List Token}
    (noEnd : ∀ token ∈ tokens, token.kind ≠ .eof) :
    Viable limit tokens ↔ faults (completed limit .ready tokens) = [] := by
  constructor
  · rintro ⟨continuation, read, isRead⟩
    have faultless := congrArg Prod.snd (ofTokens_eq_ok_iff.mp isRead)
    simp only [recover, Input.body_append noEnd, events_append, faults_append,
      List.append_eq_nil_iff] at faultless
    exact faultless.1
  · exact exists_ofTokens_append_eq_ok noEnd

theorem State.Sound.exists_inside {limit : Nat} {state : State} {token : Token}
    (sound : state.Sound limit) (follows : leads token = false) :
    ∃ keyword phase, step limit state token = inside limit keyword phase token := by
  cases sound with
  | reading keyword run => exact ⟨keyword, _, rfl⟩
  | ready =>
      have noPrint : token.kind ≠ .keyword .printWord := by
        intro isWord
        simp [leads, isWord, Keyword.leadsStatement] at follows
      exact ⟨none, .expecting [], by simp [step, start, noPrint]⟩

/-- Stray tokens leave the machine inside a statement, or behind one fault. In the second case it is
about to skip whatever comes next if the fault is at the last of them and has taken it. -/
theorem IsStray.run {tokens : List Token} (stray : IsStray tokens) (limit : Nat) :
    (∃ keyword phase, after limit .ready tokens = .reading keyword phase ∧
        completed limit .ready tokens = []) ∨
      ∃ found, completed limit .ready tokens = [.fault found] ∧
        (after limit .ready tokens = .startled ∧ found.cause.takesToken ∧
            Viable limit tokens.dropLast ∨
          after limit .ready tokens = .skipping ∧
            ¬(found.cause.takesToken ∧ Viable limit tokens.dropLast)) := by
  rcases stray with ⟨nonempty, noEnd, unclosed, follows⟩
  rcases List.eq_nil_or_concat tokens with rfl | ⟨front, last, parts⟩
  · exact absurd rfl nonempty
  rw [List.concat_eq_append] at parts
  subst parts
  have noLead : ∀ token ∈ front ++ [last], leads token = false :=
    fun token member => leads_eq_false (follows token member)
  rw [List.forall_mem_append] at noEnd unclosed noLead
  have lastUnclosed := unclosed.2 last (.head _)
  have lastFollows := noLead.2 last (.head _)
  have skipped : afterSkipped last = .skipping := by simp [afterSkipped, lastUnclosed]
  rw [List.dropLast_concat, viable_iff noEnd.1, after_append, completed_append]
  have start : State.Sound limit .ready := .ready
  have followsFront : ∀ token ∈ front.tail, leads token = false :=
    fun token member => noLead.1 token (List.mem_of_mem_tail member)
  rcases start.run unclosed.1 followsFront with ⟨sound, nothing⟩ | ⟨lost, found, one⟩
  · rcases sound.exists_inside lastFollows with ⟨keyword, phase, stepped⟩
    have sequel := sequel_inside limit keyword phase last
    simp only [nothing, after, completed, stepped, List.nil_append, List.append_nil]
    generalize inside limit keyword phase last = taken at sequel
    cases sequel with
    | continues next _ _ => exact .inl ⟨keyword, next, rfl, rfl⟩
    | completes whole semicolon => exact absurd semicolon lastUnclosed
    | refuses cause left => exact .inr ⟨_, rfl, .inr ⟨skipped, by simp [Fault.atToken, left]⟩⟩
    | takes cause isTaken _ _ => exact .inr ⟨_, rfl, .inl ⟨rfl, isTaken, rfl⟩⟩
  · have stepped := step_of_isLost limit lost lastFollows
    simp only [one, after, completed, stepped, skipped, Option.toList_none, List.append_nil]
    exact .inr ⟨found, rfl, .inr ⟨trivial, by simp [faults]⟩⟩

/-- Recovery behind some tokens, where what follows them leaves nothing open. -/
theorem recover_append_of_after {limit : Nat} {front back : List Token}
    (noEnd : ∀ token ∈ front, token.kind ≠ .eof)
    (ready : after limit (after limit .ready front) (Input.ofTokens back).body = .ready) :
    recover limit (front ++ back) =
      (statements (completed limit .ready front ++
          completed limit (after limit .ready front) (Input.ofTokens back).body),
        faults (completed limit .ready front ++
          completed limit (after limit .ready front) (Input.ofTokens back).body)) := by
  have found : events limit (Input.ofTokens (front ++ back)).ending .ready
        (Input.ofTokens (front ++ back)).body =
      completed limit .ready front ++
        completed limit (after limit .ready front) (Input.ofTokens back).body := by
    have rest := events_append limit (Input.ofTokens (front ++ back)).ending
      (after limit .ready front) (Input.ofTokens back).body []
    rw [List.append_nil, ready] at rest
    rw [Input.body_append noEnd, events_append, rest]
    simp [events, finish]
  simp only [recover, found]

/-- Inside a statement the word `print` is a fault, and the statement that it opens is skipped. -/
theorem overrun_of_reading (limit : Nat) (keyword : Option Int) (phase : Phase) {word : Token}
    {rest : List Token} (isWord : word.kind = .keyword .printWord) (remainder : Remainder rest) :
    after limit (.reading keyword phase) (word :: rest) = .ready ∧
      ∃ found, completed limit (.reading keyword phase) (word :: rest) = [.fault found] := by
  have opens : leads word = true := by simp [leads, isWord, Keyword.leadsStatement]
  have sequel := sequel_inside limit keyword phase word
  simp only [after, completed, step]
  generalize inside limit keyword phase word = taken at sequel
  cases sequel with
  | continues next unclosed follows => simp [opens] at follows
  | completes whole semicolon => simp [isWord] at semicolon
  | refuses cause left =>
      have lost : (afterSkipped word).isLost := by simp [afterSkipped, isWord, State.isLost]
      rcases remainder.run_of_isLost limit lost with ⟨ready, nothing⟩
      exact ⟨ready, _, by rw [nothing]; rfl⟩
  | takes cause isTaken unclosed follows => simp [opens] at follows

/-- A startled machine skips the word `print` unseen, and the statement that it opens. -/
theorem overrun_of_startled (limit : Nat) {word : Token} {rest : List Token}
    (isWord : word.kind = .keyword .printWord) (remainder : Remainder rest) :
    after limit .startled (word :: rest) = .ready ∧
      completed limit .startled (word :: rest) = [] := by
  have lost : (afterSkipped word).isLost := by simp [afterSkipped, isWord, State.isLost]
  exact remainder.run_of_isLost limit lost

theorem step_skipping_print (limit : Nat) {word : Token}
    (isWord : word.kind = .keyword .printWord) :
    step limit .skipping word = (.reading (some word.line) (.expecting []), none) := by
  simp [step, start, leads, isWord, Keyword.leadsStatement]

/-- A fault that leaves none of the stray tokens to be skipped: these could have gone on, so it is
found at what follows them, or it is found at the last of them and has taken it. -/
def Overruns (limit : Nat) (stray : List Token) (found : Fault) : Prop :=
  Viable limit stray ∨ found.cause.takesToken ∧ Viable limit stray.dropLast

/-- Recovery stops right before the next print statement, as long as there is a token to be skipped
before it. Behind stray tokens there is exactly one fault, and the print statement is read as if it
stood alone; but it is lost if the fault leaves none of the stray tokens to be skipped. -/
theorem recover_resumes (setting : Int) (stray program : List Token) (expr : Expr) (line : Int)
    (isStray : IsStray stray)
    (isRead : ofTokens (depthLimit setting) program = .ok [.print expr line]) :
    ∃ found, (recover (depthLimit setting) (stray ++ program)).2 = [found] ∧
      (¬Overruns (depthLimit setting) stray found →
        (recover (depthLimit setting) (stray ++ program)).1 = [.print expr line]) ∧
      (Overruns (depthLimit setting) stray found →
        (recover (depthLimit setting) (stray ++ program)).1 = []) := by
  generalize depthLimit setting = limit at isRead ⊢
  rcases exists_of_print isRead with ⟨word, rest, body, isWord, remainder, one, ready⟩
  rcases isStray.run limit with
    ⟨keyword, phase, inside, nothing⟩ | ⟨found, fault, ⟨startled, last⟩ | ⟨skipping, notLast⟩⟩
  · rcases overrun_of_reading limit keyword phase isWord remainder with ⟨behind, found, fault⟩
    have viable : Viable limit stray := (viable_iff isStray.noEnd).mpr (by rw [nothing]; rfl)
    rw [recover_append_of_after isStray.noEnd (by rw [inside, body, behind]), inside, nothing, body,
      fault]
    exact ⟨found, rfl, fun kept => absurd (.inl viable) kept, fun _ => rfl⟩
  · rcases overrun_of_startled limit isWord remainder with ⟨behind, nothing⟩
    rw [recover_append_of_after isStray.noEnd (by rw [startled, body, behind]), startled, fault,
      body, nothing]
    exact ⟨found, rfl, fun kept => absurd (.inr last) kept, fun _ => rfl⟩
  · have stepped := step_skipping_print limit isWord
    have notViable : ¬Viable limit stray := by
      rw [viable_iff isStray.noEnd, fault]
      simp [faults]
    rw [recover_append_of_after isStray.noEnd (by rw [skipping, body, after, stepped, ready]),
      skipping, fault, body, completed, stepped, one]
    exact ⟨found, rfl, fun _ => rfl, fun lost => absurd lost (not_or.mpr ⟨notViable, notLast⟩)⟩

/-- Two operands without an operator between them. -/
def strayOperands : List Token :=
  [.keyword .nilWord, .keyword .nilWord].map fun kind => { kind, line := 1 }

/-- One operand that lacks its semicolon. -/
def strayOperand : List Token :=
  [{ kind := .keyword .nilWord, line := 1 }]

/-- A print statement. -/
def printedOperand : List Token :=
  [.keyword .printWord, .keyword .nilWord, .semicolon].map fun kind => { kind, line := 2 }

theorem isStray_strayOperands : IsStray strayOperands where
  nonempty := by decide
  noEnd := by decide
  unclosed := by decide
  follows := by decide

theorem isStray_strayOperand : IsStray strayOperand where
  nonempty := by decide
  noEnd := by decide
  unclosed := by decide
  follows := by decide

/-- The second operand is at fault and is skipped, so the print statement survives. -/
theorem recover_resumes_strayOperands :
    IsStray strayOperands ∧
      ofTokens (depthLimit 0) printedOperand = .ok [.print (.literal (some .nil) 2) 2] ∧
      (recover (depthLimit 0) (strayOperands ++ printedOperand)).1 =
        [.print (.literal (some .nil) 2) 2] := by
  have isRead : ofTokens (depthLimit 0) printedOperand =
      .ok [.print (.literal (some .nil) 2) 2] := rfl
  have notViable : ¬Viable (depthLimit 0) strayOperands := by
    rw [viable_iff isStray_strayOperands.noEnd]
    decide
  rcases recover_resumes 0 strayOperands printedOperand _ _ isStray_strayOperands isRead with
    ⟨found, one, kept, -⟩
  have cause : found.cause = .expectedSemicolon := by
    have only : (recover (depthLimit 0) (strayOperands ++ printedOperand)).2 =
        [.atToken { kind := .keyword .nilWord, line := 1 } .expectedSemicolon] := rfl
    rw [only] at one
    cases one
    rfl
  refine ⟨isStray_strayOperands, isRead, kept ?_⟩
  simp [Overruns, notViable, cause, Cause.takesToken]

/-- Behind one operand the fault is found at the word `print`, and recovery does not stop before
it: the statement is lost. -/
theorem recover_overruns_print :
    IsStray strayOperand ∧
      ofTokens (depthLimit 0) printedOperand = .ok [.print (.literal (some .nil) 2) 2] ∧
      recover (depthLimit 0) (strayOperand ++ printedOperand) =
        ([], [.atToken { kind := .keyword .printWord, line := 2 } .expectedSemicolon]) :=
  ⟨isStray_strayOperand, rfl, rfl⟩

end Program

end Scriptlet
