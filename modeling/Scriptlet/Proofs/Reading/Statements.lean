import Scriptlet.Proofs.Grammar.Completeness
import Scriptlet.Proofs.Reading.Runs

/-!
# The grammar of programs

A program is spelled by its statements one after the other, and a statement by its expression
between an optional word `print` and a semicolon. `Program.SpelledBy` says so without the reading
machine, and reading succeeds with exactly the statements that the tokens spell. Soundness carries
what has been read of the statement at hand (`State.Begun`); completeness follows the statements.

An expression can also be read on its own, where a semicolon behind it may be left out and nothing
may follow. Both ways of reading meet in the grammar: whether read as an expression or as a program
of one statement, the tokens before the semicolon spell the tree.
-/

namespace Scriptlet

/-- The tokens spell the statement within a depth limit. A print statement has the line of its
first word. -/
inductive Statement.SpelledBy (limit : Nat) : Statement → List Token → Prop where
  | expression {expr : Expr} {spelling : List Token} {last : Token}
      (spelled : expr.SpelledBy limit spelling) (semicolon : last.kind = .semicolon) :
      SpelledBy limit (.expression expr) (spelling ++ [last])
  | print {word : Token} {expr : Expr} {spelling : List Token} {last : Token}
      (isPrint : word.kind = .keyword .printWord) (spelled : expr.SpelledBy limit spelling)
      (semicolon : last.kind = .semicolon) :
      SpelledBy limit (.print expr word.line) (word :: (spelling ++ [last]))

namespace Program

/-- The tokens spell the statements one after the other. -/
inductive SpelledBy (limit : Nat) : List Statement → List Token → Prop where
  | nil : SpelledBy limit [] []
  | cons {statement : Statement} {rest : List Statement} {front back : List Token}
      (first : statement.SpelledBy limit front) (more : SpelledBy limit rest back) :
      SpelledBy limit (statement :: rest) (front ++ back)

theorem spelledBy_expression_iff {limit : Nat} {expr : Expr} {tokens : List Token} :
    SpelledBy limit [.expression expr] tokens ↔
      ∃ spelling last, expr.SpelledBy limit spelling ∧ last.kind = .semicolon ∧
        tokens = spelling ++ [last] := by
  constructor
  · intro spelledBy
    cases spelledBy with
    | cons first more =>
        cases more
        cases first with
        | @expression _ spelling last spelled semicolon =>
            exact ⟨spelling, last, spelled, semicolon, List.append_nil _⟩
  · rintro ⟨spelling, last, spelled, semicolon, rfl⟩
    simpa using SpelledBy.cons (.expression spelled semicolon) .nil

/-- Where the machine is behind the tokens of a statement so far. -/
inductive State.Begun (limit : Nat) : State → List Token → Prop where
  | ready : Begun limit .ready []
  | expression {phase : Phase} {seen : List Token} (spells : phase.Spells limit seen) :
      Begun limit (.reading none phase) seen
  | print {word : Token} {phase : Phase} {seen : List Token}
      (isPrint : word.kind = .keyword .printWord) (spells : phase.Spells limit seen) :
      Begun limit (.reading (some word.line) phase) (word :: seen)

/-- What a token does behind the tokens of a statement so far: it continues the statement, it
completes a statement that all these tokens spell, or it is at fault. -/
inductive Advance (limit : Nat) (seen : List Token) : State × Option Event → Prop where
  | continues {next : State} (begun : next.Begun limit seen) : Advance limit seen (next, none)
  | completes {statement : Statement} (spelled : statement.SpelledBy limit seen) :
      Advance limit seen (.ready, some (.read statement))
  | fails (next : State) (found : Fault) : Advance limit seen (next, some (.fault found))

/-- The tokens before an expression in its statement. -/
inductive Opens : Option Int → List Token → Prop where
  | expression : Opens none []
  | print {word : Token} (isPrint : word.kind = .keyword .printWord) : Opens (some word.line) [word]

theorem Opens.begun {limit : Nat} {keyword : Option Int} {opening seen : List Token}
    {phase : Phase} (opens : Opens keyword opening) (spells : phase.Spells limit seen) :
    State.Begun limit (.reading keyword phase) (opening ++ seen) := by
  cases opens with
  | expression => exact .expression spells
  | print isPrint => exact .print isPrint spells

theorem Opens.spelledBy {limit : Nat} {keyword : Option Int} {opening spelling : List Token}
    {expr : Expr} {last : Token} (opens : Opens keyword opening)
    (spelled : expr.SpelledBy limit spelling) (semicolon : last.kind = .semicolon) :
    (statement keyword expr).SpelledBy limit (opening ++ (spelling ++ [last])) := by
  cases opens with
  | expression => exact .expression spelled semicolon
  | print isPrint => exact .print isPrint spelled semicolon

theorem advance_inside {limit : Nat} {keyword : Option Int} {opening seen : List Token}
    {phase : Phase} (opens : Opens keyword opening) (spells : phase.Spells limit seen)
    (token : Token) :
    Advance limit (opening ++ (seen ++ [token])) (inside limit keyword phase token) := by
  have turn := turn_inside limit keyword phase token
  generalize inside limit keyword phase token = after at turn ⊢
  cases turn with
  | continues taken => exact .continues (opens.begun (spells.take taken))
  | completes taken semicolon =>
      exact .completes (opens.spelledBy (spells.finish (Phase.finish_of_ended taken)) semicolon)
  | strays taken unclosed => exact .fails _ _
  | refuses taken => exact .fails _ _
  | takes taken => exact .fails _ _

theorem State.Begun.advance_step {limit : Nat} {state : State} {seen : List Token}
    (begun : state.Begun limit seen) (token : Token) :
    Advance limit (seen ++ [token]) (step limit state token) := by
  cases begun with
  | expression spells => exact advance_inside .expression spells token
  | print isPrint spells => exact advance_inside (.print isPrint) spells token
  | ready =>
      simp only [step, start]
      split
      · rename_i isPrint
        exact .continues (.print isPrint (.expecting .nil))
      · exact advance_inside .expression (.expecting .nil) token

/-- Tokens that are read without a fault, up to where a statement may start, spell the statements
that they complete. -/
theorem State.Begun.spelledBy {limit : Nat} {state : State} {seen tokens : List Token}
    (begun : state.Begun limit seen) (faultless : faults (completed limit state tokens) = [])
    (ready : after limit state tokens = .ready) :
    SpelledBy limit (statements (completed limit state tokens)) (seen ++ tokens) := by
  induction tokens generalizing state seen with
  | nil =>
      cases ready
      cases begun
      exact .nil
  | cons token rest ih =>
      have advance := begun.advance_step token
      simp only [completed, after, faults_append, statements_append,
        List.append_eq_nil_iff] at faultless ready ⊢
      generalize step limit state token = taken at advance faultless ready ⊢
      cases advance with
      | continues next => simpa [statements] using ih next faultless.2 ready
      | completes spelled =>
          have more := ih .ready faultless.2 ready
          simpa [statements] using SpelledBy.cons spelled more
      | fails next found => simp [faults] at faultless

/-- The tokens of an expression and a semicolon complete a statement. -/
theorem completed_of_spelling {limit : Nat} {expr : Expr} {spelling : List Token} {last : Token}
    (keyword : Option Int) (spelled : expr.SpelledBy limit spelling)
    (semicolon : last.kind = .semicolon) :
    after limit (.reading keyword (.expecting [])) (spelling ++ [last]) = .ready ∧
      completed limit (.reading keyword (.expecting [])) (spelling ++ [last]) =
        [.read (statement keyword expr)] := by
  rcases Phase.finish_of_spelledBy spelled with ⟨value, openings, run, finished⟩
  rcases run_of_reaches keyword run with ⟨reached, nothing⟩
  have ended := step_of_finish limit keyword finished semicolon
  simp [after_append, completed_append, reached, nothing, after, completed, ended]

/-- The word `print` starts no expression. -/
theorem step_ready_of_spelledBy {limit : Nat} {expr : Expr} {spelling : List Token}
    (spelled : expr.SpelledBy limit spelling) :
    ∃ first rest, spelling = first :: rest ∧
      step limit .ready first = step limit (.reading none (.expecting [])) first := by
  rcases Phase.finish_of_spelledBy spelled with ⟨value, openings, run, -⟩
  cases run with
  | @step _ _ _ first rest taken _ =>
      have noPrint : first.kind ≠ .keyword .printWord := by
        intro isPrint
        simp [Phase.take, Phase.takeOperand, isPrint] at taken
      exact ⟨first, rest, rfl, by simp [step, start, noPrint]⟩

theorem completed_of_spelledBy {limit : Nat} {read : Statement} {tokens : List Token}
    (spelledBy : read.SpelledBy limit tokens) :
    after limit .ready tokens = .ready ∧ completed limit .ready tokens = [.read read] := by
  cases spelledBy with
  | expression spelled semicolon =>
      have whole := completed_of_spelling none spelled semicolon
      rcases step_ready_of_spelledBy spelled with ⟨first, rest, rfl, starts⟩
      simp only [List.cons_append, after, completed, starts] at whole ⊢
      exact whole
  | @print word _ _ _ isPrint spelled semicolon =>
      have whole := completed_of_spelling (some word.line) spelled semicolon
      have starts : step limit .ready word =
          (.reading (some word.line) (.expecting []), none) := by
        simp [step, start, isPrint]
      simp only [after, completed, starts, Option.toList_none, List.nil_append]
      exact whole

theorem SpelledBy.completed {limit : Nat} {read : List Statement} {tokens : List Token}
    (spelledBy : SpelledBy limit read tokens) :
    after limit .ready tokens = .ready ∧
      Program.completed limit .ready tokens = read.map .read := by
  induction spelledBy with
  | nil => exact ⟨rfl, rfl⟩
  | cons first more ih =>
      rcases completed_of_spelledBy first with ⟨ready, one⟩
      rw [after_append, completed_append, ready, one, ih.1, ih.2]
      exact ⟨rfl, rfl⟩

theorem statements_map_read (read : List Statement) : statements (read.map .read) = read := by
  rw [statements, List.filterMap_map]
  exact List.filterMap_some

theorem faults_map_read (read : List Statement) : faults (read.map .read) = [] := by
  rw [faults, List.filterMap_map]
  exact List.filterMap_eq_nil_iff.mpr fun _ _ => rfl

/-- Reading a token list as a program gives exactly the statements that the tokens spell. -/
theorem ofTokens_eq_ok_iff_spelledBy {limit : Nat} {tokens : List Token}
    {read : List Statement} :
    ofTokens limit tokens = .ok read ↔ SpelledBy limit read (Input.ofTokens tokens).body := by
  rw [ofTokens_eq_ok_iff]
  constructor
  · intro recovered
    have noFaults : (recover limit tokens).2 = [] := by rw [recovered]
    rcases faultless_of_recover noFaults with ⟨faultless, ready⟩
    have spelledBy := State.Begun.ready.spelledBy faultless ready
    rw [recover_of_ready ready, Prod.mk.injEq] at recovered
    rwa [recovered.1] at spelledBy
  · intro spelledBy
    rcases spelledBy.completed with ⟨ready, all⟩
    rw [recover_of_ready ready, all, statements_map_read, faults_map_read]

end Program

namespace Expr

/-- The tokens with a semicolon at their end, the given one if there is none. -/
def terminated (closing : Token) (tokens : List Token) : List Token :=
  if tokens.getLast?.any fun last => last.kind = .semicolon then tokens else tokens ++ [closing]

/-- An expression is read alone exactly if it is spelled by the tokens before the semicolon. -/
theorem ofTokens_eq_ok_iff_terminated {limit : Nat} {tokens : List Token}
    (noEnd : ∀ token ∈ tokens, token.kind ≠ .eof) {closing : Token}
    (semicolon : closing.kind = .semicolon) {expr : Expr} :
    ofTokens limit tokens = .ok expr ↔
      ∃ spelling last, expr.SpelledBy limit spelling ∧ last.kind = .semicolon ∧
        terminated closing tokens = spelling ++ [last] := by
  have body : (Input.ofTokens tokens).body = tokens := by
    simpa [Input.ofTokens] using Input.body_append noEnd []
  constructor
  · intro isRead
    rcases spelledBy_of_read (.expecting .nil) isRead with ⟨spelling, spelled, same⟩
    rw [body] at same
    rcases same with rfl | ⟨last, isLast, rfl⟩
    · rcases Phase.finish_of_spelledBy spelled with ⟨value, openings, run, finished⟩
      refine ⟨tokens, closing, spelled, semicolon, if_neg ?_⟩
      cases ends : tokens.getLast? with
      | none => simp
      | some last => simpa using run.ne_semicolon last (List.mem_of_getLast? ends)
    · refine ⟨spelling, last, spelled, isLast, if_pos ?_⟩
      simp [isLast]
  · rintro ⟨spelling, last, spelled, isLast, same⟩
    rw [ofTokens, body]
    unfold terminated at same
    split at same
    · rw [same]
      exact read_of_spelledBy spelled (.inr ⟨last, isLast, rfl⟩)
    · rw [List.append_inj_left' same rfl]
      simpa using read_of_spelledBy spelled (.inl rfl)

/-- Reading an expression agrees with reading a program. Tokens are read as one expression exactly
if, closed by a semicolon, they are read as the program of one statement that evaluates it. -/
theorem ofTokens_agrees_with_statement (setting : Int) {tokens : List Token}
    (noEnd : ∀ token ∈ tokens, token.kind ≠ .eof) {closing : Token}
    (semicolon : closing.kind = .semicolon) (expr : Expr) :
    ofTokens (depthLimit setting) tokens = .ok expr ↔
      Program.ofTokens (depthLimit setting) (terminated closing tokens) =
        .ok [.expression expr] := by
  have noEndClosed : ∀ token ∈ terminated closing tokens ++ [], token.kind ≠ .eof := by
    unfold terminated
    split
    · simpa using noEnd
    · simpa [or_imp, forall_and, semicolon] using noEnd
  have body : (Input.ofTokens (terminated closing tokens)).body = terminated closing tokens := by
    simpa [Input.ofTokens] using Input.body_append noEndClosed []
  rw [Program.ofTokens_eq_ok_iff_spelledBy, body, Program.spelledBy_expression_iff,
    ofTokens_eq_ok_iff_terminated noEnd semicolon]

/-- A negation of a parenthesized operand, which nests twice. -/
def negatedGroup : List Token :=
  [.minus, .leftParen, .keyword .nilWord, .rightParen].map fun kind => { kind, line := 1 }

/-- Within two levels it is read alone and, behind a semicolon, as a statement; within one level it
is read neither way. -/
theorem ofTokens_agrees_with_negatedGroup :
    Program.ofTokens (depthLimit 2)
        (terminated { kind := .semicolon, line := 1 } negatedGroup) =
      .ok [.expression (.unary { kind := .minus, line := 1 }
        (.group (.literal (some .nil) 1)))] ∧
      ∀ expr, Program.ofTokens (depthLimit 1)
        (terminated { kind := .semicolon, line := 1 } negatedGroup) ≠ .ok [.expression expr] := by
  have noEnd : ∀ token ∈ negatedGroup, token.kind ≠ .eof := by decide
  have tooDeep : ∀ expr, ofTokens (depthLimit 1) negatedGroup ≠ .ok expr := by
    intro expr isRead
    cases isRead
  exact ⟨(ofTokens_agrees_with_statement 2 noEnd rfl _).mp rfl, fun expr isRead =>
    tooDeep expr ((ofTokens_agrees_with_statement 1 noEnd rfl expr).mpr isRead)⟩

end Expr

end Scriptlet
