import Scriptlet.Engine

/-!
# Recovery keeps the meaning of a program

A program is read in two ways: up to its first fault, or behind every fault to its end. Both drive
the same machine, one token a step, so they can only part at the first fault. `Program.untilFault`
is the common part: the statements completed before the first fault, and that fault. Reading up to
the first fault returns it, and the events of the recovering reader start with it.

An engine runs nothing unless all of a source reads without a fault. Hence a recovering engine and
any other do the same, except that the recovering one may report more faults after the first.
-/

namespace Scriptlet

namespace Program

/-- The statements that are completed before the first fault, and that fault if there is one. -/
def untilFault (limit : Nat) (ending : Token) (state : State) :
    List Token → List Statement × Option Fault
  | [] => ([], finish ending state)
  | token :: rest =>
      match step limit state token with
      | (_, some (.fault found)) => ([], some found)
      | (next, some (.read statement)) =>
          let (done, found) := untilFault limit ending next rest
          (statement :: done, found)
      | (next, none) => untilFault limit ending next rest

theorem readAll_eq_untilFault (limit : Nat) (ending : Token) (state : State)
    (done : List Statement) (tokens : List Token) :
    readAll limit ending state done tokens =
      match untilFault limit ending state tokens with
      | (_, some found) => .error found
      | (more, none) => .ok (done.reverse ++ more) := by
  induction tokens generalizing state done with
  | nil =>
      simp only [readAll, untilFault]
      cases finish ending state <;> simp
  | cons token rest ih =>
      simp only [readAll, untilFault]
      rcases step limit state token with ⟨next, _ | statement | found⟩
      · exact ih next done
      · simp only [ih next (statement :: done)]
        rcases untilFault limit ending next rest with ⟨more, _ | found⟩ <;> simp
      · rfl

theorem statements_append (front back : List Event) :
    statements (front ++ back) = statements front ++ statements back :=
  List.filterMap_append

theorem faults_append (front back : List Event) :
    faults (front ++ back) = faults front ++ faults back :=
  List.filterMap_append

/-- The recovering reader finds the same first fault, and before it the same statements; without a
fault it finds nothing else. -/
theorem events_untilFault (limit : Nat) (ending : Token) (state : State) (tokens : List Token) :
    (untilFault limit ending state tokens).2 =
        (faults (events limit ending state tokens)).head? ∧
      (untilFault limit ending state tokens).1 <+:
        statements (events limit ending state tokens) ∧
      ((untilFault limit ending state tokens).2 = none →
        statements (events limit ending state tokens) =
          (untilFault limit ending state tokens).1) := by
  induction tokens generalizing state with
  | nil =>
      simp only [untilFault, events]
      cases finish ending state <;> simp [statements, faults]
  | cons token rest ih =>
      simp only [untilFault, events, statements_append, faults_append]
      rcases step limit state token with ⟨next, _ | statement | found⟩
      · simpa [statements, faults] using ih next
      · rcases ih next with ⟨sameFault, sameFront, sameAll⟩
        refine ⟨by simpa [faults] using sameFault, ?_, ?_⟩
        · simpa [statements] using sameFront
        · intro noFault
          simpa [statements] using sameAll noFault
      · simp [statements, faults]

/-- Reading up to the first fault, told from what recovery finds. -/
theorem ofTokens_eq_recover (limit : Nat) (tokens : List Token) :
    ofTokens limit tokens =
      match (recover limit tokens).2 with
      | [] => .ok (recover limit tokens).1
      | found :: _ => .error found := by
  simp only [ofTokens, recover, readAll_eq_untilFault, List.reverse_nil, List.nil_append]
  rcases events_untilFault limit (Input.ofTokens tokens).ending .ready (Input.ofTokens tokens).body
    with ⟨sameFault, -, sameAll⟩
  rcases reading : untilFault limit (Input.ofTokens tokens).ending .ready
    (Input.ofTokens tokens).body with ⟨done, _ | fault⟩
  · rw [reading] at sameFault sameAll
    have noFaults := List.head?_eq_none_iff.mp sameFault.symm
    simp [noFaults, sameAll rfl]
  · rw [reading] at sameFault
    rcases List.head?_eq_some_iff.mp sameFault.symm with ⟨more, found⟩
    simp [found]

end Program

namespace Failure

/-- The first fault that a failure carries. -/
def firstFault? (failure : Failure) : Option Fault :=
  failure.faults?.bind List.head?

@[simp]
theorem firstFault?_fault (found : Fault) : (fault found).firstFault? = some found :=
  rfl

theorem ofFaults?_eq_none_iff {found : List Fault} : ofFaults? found = none ↔ found = [] := by
  match found with
  | [] => simp [ofFaults?]
  | [only] => simp [ofFaults?]
  | first :: second :: rest => simp [ofFaults?]

theorem faults?_of_ofFaults? {found : List Fault} {failure : Failure}
    (failed : ofFaults? found = some failure) : failure.faults? = some found := by
  match found with
  | [] => cases failed
  | [only] =>
      cases failed
      rfl
  | first :: second :: rest =>
      cases failed
      rfl

end Failure

namespace Engine

/-- An engine reads what recovery reads if it finds no fault, and otherwise fails with faults that
recovery finds. -/
theorem statements_cases (engine : Engine) (tokens : List Token) :
    engine.statements tokens = .ok (Program.recover engine.depth tokens).1 ∨
      ∃ found failure, engine.statements tokens = .error failure ∧
        Failure.ofFaults? found = some failure ∧
        found ⊆ (Program.recover engine.depth tokens).2 := by
  unfold statements
  rw [Program.ofTokens_eq_recover]
  rcases Program.recover engine.depth tokens with ⟨read, found⟩
  split
  · dsimp only
    cases failed : Failure.ofFaults? found with
    | none => exact .inl rfl
    | some failure => exact .inr ⟨found, failure, rfl, failed, List.Subset.refl found⟩
  · cases found with
    | nil => exact .inl rfl
    | cons first more => exact .inr ⟨[first], .fault first, rfl, rfl, by simp⟩

/-- A source is cut into the tokens of its scan, or refused for the faults of the scan. -/
theorem tokens_cases (source : Text) :
    tokens source = .ok (Scan.ofSource source).tokens ∨
      ∃ failure, tokens source = .error failure ∧
        Failure.ofFaults? (Scan.ofSource source).faults = some failure := by
  unfold tokens
  dsimp only
  cases failed : Failure.ofFaults? (Scan.ofSource source).faults with
  | none => exact .inl rfl
  | some failure => exact .inr ⟨failure, rfl, rfl⟩

/-- A source is read as what recovery reads, or refused for the faults of its scan or for some of
those that recovery finds. -/
theorem program_cases (engine : Engine) (source : Text) :
    engine.program source =
        .ok (Program.recover engine.depth (Scan.ofSource source).tokens).1 ∨
      ∃ found failure, engine.program source = .error failure ∧
        Failure.ofFaults? found = some failure ∧
        (found = (Scan.ofSource source).faults ∨
          found ⊆ (Program.recover engine.depth (Scan.ofSource source).tokens).2) := by
  unfold program
  rcases tokens_cases source with scanned | ⟨failure, refused, failed⟩
  · rw [scanned]
    rcases engine.statements_cases (Scan.ofSource source).tokens with
      read | ⟨found, failure, refused, failed, some⟩
    · exact .inl read
    · exact .inr ⟨found, failure, refused, failed, .inr some⟩
  · rw [refused]
    exact .inr ⟨_, failure, rfl, failed, .inl rfl⟩

/-- A source is read as one expression if its tokens are, or refused for the faults of its scan or
for the one that ends the reading. -/
theorem expression_cases (engine : Engine) (source : Text) :
    (∃ expr, engine.expression source = .ok expr ∧
        Expr.ofTokens engine.depth (Scan.ofSource source).tokens = .ok expr) ∨
      ∃ found failure, engine.expression source = .error failure ∧
        Failure.ofFaults? found = some failure ∧
        (found = (Scan.ofSource source).faults ∨
          ∃ fault, found = [fault] ∧
            Expr.ofTokens engine.depth (Scan.ofSource source).tokens = .error fault) := by
  unfold expression
  rcases tokens_cases source with scanned | ⟨failure, refused, failed⟩
  · rw [scanned]
    cases read : Expr.ofTokens engine.depth (Scan.ofSource source).tokens with
    | ok expr => exact .inl ⟨expr, by simp only [read], rfl⟩
    | error fault =>
        refine .inr ⟨[fault], .fault fault, ?_, rfl, .inr ⟨fault, rfl, rfl⟩⟩
        simp only [read]
  · rw [refused]
    exact .inr ⟨_, failure, rfl, failed, .inl rfl⟩

/-- Both ways of reading tokens give the same statements, or both fail with the same first fault. -/
theorem statements_recovers (depth : Nat) (tokens : List Token) :
    (∃ read, statements { depth, recovers := false } tokens = .ok read ∧
        statements { depth, recovers := true } tokens = .ok read) ∨
      ∃ fault failure, statements { depth, recovers := false } tokens = .error (.fault fault) ∧
        statements { depth, recovers := true } tokens = .error failure ∧
        failure.firstFault? = some fault := by
  simp only [statements, Program.ofTokens_eq_recover, Bool.false_eq_true, if_true, if_false]
  rcases recovered : Program.recover depth tokens with ⟨read, _ | ⟨fault, more⟩⟩
  · left
    exact ⟨read, rfl, rfl⟩
  · right
    cases failed : Failure.ofFaults? (fault :: more) with
    | none => cases Failure.ofFaults?_eq_none_iff.mp failed
    | some failure =>
        refine ⟨fault, failure, rfl, rfl, ?_⟩
        rw [Failure.firstFault?, Failure.faults?_of_ofFaults? failed]
        rfl

end Engine

/-- Recovery never changes what a program means. On tokens, recovery finds no fault exactly if
reading up to the first fault succeeds, and then both give the same statements; otherwise its first
fault is the one that ends the reading, and its statements start with those completed before. On
sources, a recovering engine and any other print the same, fail in the same cases, and fail with the
same first fault. -/
theorem Program.recover_keeps_meaning :
    (∀ (setting : Int) (tokens : List Token),
      ((recover (depthLimit setting) tokens).2 = [] ↔
        ∃ read, ofTokens (depthLimit setting) tokens = .ok read) ∧
      (∀ read, ofTokens (depthLimit setting) tokens = .ok read →
        (recover (depthLimit setting) tokens).1 = read) ∧
      (∀ fault, ofTokens (depthLimit setting) tokens = .error fault →
        (recover (depthLimit setting) tokens).2.head? = some fault ∧
        ∃ done, untilFault (depthLimit setting) (Input.ofTokens tokens).ending .ready
            (Input.ofTokens tokens).body = (done, some fault) ∧
          done <+: (recover (depthLimit setting) tokens).1)) ∧
    (∀ (depth : Nat) (source : Text) (sink : Sink),
      let strict := Engine.run { depth, recovers := false } source sink
      let lenient := Engine.run { depth, recovers := true } source sink
      strict.1 = lenient.1 ∧ (strict.2 = none ↔ lenient.2 = none) ∧
        strict.2.bind Failure.firstFault? = lenient.2.bind Failure.firstFault?) := by
  constructor
  · intro setting tokens
    simp only [ofTokens, recover, readAll_eq_untilFault]
    rcases events_untilFault (depthLimit setting)
      (Input.ofTokens tokens).ending .ready (Input.ofTokens tokens).body with
        ⟨sameFault, sameFront, sameAll⟩
    rcases reading : untilFault (depthLimit setting) (Input.ofTokens tokens).ending .ready
      (Input.ofTokens tokens).body with ⟨done, _ | fault⟩
    · rw [reading] at sameFault sameAll
      have noFaults := List.head?_eq_none_iff.mp sameFault.symm
      simp [noFaults, sameAll rfl]
    · rw [reading] at sameFault sameFront
      have faulty : faults (events (depthLimit setting) (Input.ofTokens tokens).ending .ready
          (Input.ofTokens tokens).body) ≠ [] := by
        intro noFaults
        simp [noFaults] at sameFault
      simp [faulty, ← sameFault, sameFront]
  · intro depth source sink
    simp only [Engine.run, Engine.program]
    cases Engine.tokens source with
    | error failure => simp
    | ok tokens =>
        rcases Engine.statements_recovers depth tokens with
          ⟨read, strict, lenient⟩ | ⟨fault, failure, strict, lenient, first⟩
        · simp [strict, lenient]
        · simp [strict, lenient, first]

end Scriptlet
