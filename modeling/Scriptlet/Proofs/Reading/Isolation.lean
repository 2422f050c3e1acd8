import Scriptlet.Proofs.Reading.Runs

/-!
# Recovery isolates faults

A chunk is what stands between two semicolons, with the second of them. Whatever is wrong inside a
chunk, the machine is back where a statement may start when the chunk is over, and it has completed
exactly one statement or found exactly one fault by then. Nothing else of the chunk is left: a state
in which a statement may start holds no openings, so also the depth that a failed statement had
reached is forgotten. Hence a program made of chunks is recovered chunk by chunk.
-/

namespace Scriptlet.Program

/-- The words that open a statement. -/
def openingWords : List Keyword :=
  [.classWord, .funWord, .varWord, .valWord, .forWord, .ifWord, .whileWord, .loopWord, .printWord,
    .returnWord]

/-- Tokens up to a semicolon. Only the first of them may open a statement. -/
structure IsChunk (tokens : List Token) : Prop where
  noEnd : ∀ token ∈ tokens, token.kind ≠ .eof
  closes : ∃ front last, tokens = front ++ [last] ∧ last.kind = .semicolon ∧
    ∀ token ∈ front, token.kind ≠ .semicolon
  follows : ∀ token ∈ tokens.tail, ∀ word ∈ openingWords, token.kind ≠ .keyword word

theorem leads_eq_false {token : Token}
    (follows : ∀ word ∈ openingWords, token.kind ≠ .keyword word) : leads token = false := by
  unfold leads
  split
  · rename_i word isWord
    cases word with
    | classWord | funWord | varWord | valWord | forWord | ifWord | whileWord | loopWord
    | printWord | returnWord => exact absurd isWord (follows _ (by decide))
    | _ => rfl
  · rfl

/-- A lost machine stays lost until a semicolon and finds nothing on the way. -/
theorem run_of_isLost (limit : Nat) {state : State} {tokens : List Token} (lost : state.isLost)
    (unclosed : ∀ token ∈ tokens, token.kind ≠ .semicolon)
    (follows : ∀ token ∈ tokens, leads token = false) :
    (after limit state tokens).isLost ∧ completed limit state tokens = [] := by
  induction tokens generalizing state with
  | nil => exact ⟨lost, rfl⟩
  | cons token rest ih =>
      rw [List.forall_mem_cons] at unclosed follows
      have skipped := step_of_isLost limit lost follows.1
      simp only [after, completed, skipped, Option.toList_none, List.nil_append]
      exact ih (by simp [afterSkipped, unclosed.1, State.isLost]) unclosed.2 follows.2

/-- Before its semicolon a statement goes on without an event, or one fault makes the machine lose
its way. -/
theorem State.Sound.run {limit : Nat} {state : State} {tokens : List Token}
    (sound : state.Sound limit) (unclosed : ∀ token ∈ tokens, token.kind ≠ .semicolon)
    (follows : ∀ token ∈ tokens.tail, leads token = false) :
    ((Program.after limit state tokens).Sound limit ∧ completed limit state tokens = []) ∨
      ((Program.after limit state tokens).isLost ∧
        ∃ found, completed limit state tokens = [.fault found]) := by
  induction tokens generalizing state with
  | nil => exact .inl ⟨sound, rfl⟩
  | cons token rest ih =>
      rw [List.forall_mem_cons] at unclosed
      have effect := sound.effect_step token
      simp only [Program.after, completed]
      generalize step limit state token = taken at effect
      cases effect with
      | continues goesOn next =>
          exact ih next unclosed.2 fun later member => follows later (List.mem_of_mem_tail member)
      | completes semicolon statement => exact absurd semicolon unclosed.1
      | ends semicolon cause => exact absurd semicolon unclosed.1
      | strays goesOn lost cause =>
          rcases run_of_isLost limit lost unclosed.2 follows with ⟨stillLost, nothing⟩
          exact .inr ⟨stillLost, _, by rw [nothing]; rfl⟩

/-- Behind a chunk a statement may start, and there was one event. -/
theorem IsChunk.run {chunk : List Token} (isChunk : IsChunk chunk) (limit : Nat) :
    after limit .ready chunk = .ready ∧ ∃ event, completed limit .ready chunk = [event] := by
  rcases isChunk.closes with ⟨front, last, rfl, semicolon, noSemicolon⟩
  have follows : ∀ token ∈ (front ++ [last]).tail, leads token = false :=
    fun token member => leads_eq_false (isChunk.follows token member)
  have followsFront : ∀ token ∈ front.tail, leads token = false := by
    intro token member
    apply follows
    cases front with
    | nil => cases member
    | cons first rest => exact List.mem_append_left _ member
  rw [after_append, completed_append]
  have start : State.Sound limit .ready := .ready
  rcases start.run noSemicolon followsFront with
    ⟨sound, nothing⟩ | ⟨lost, found, one⟩
  · -- The semicolon ends the statement, for better or worse.
    have effect := sound.effect_step last
    simp only [nothing, after, completed, List.nil_append, List.append_nil]
    generalize step limit (after limit .ready front) last = taken at effect
    cases effect with
    | continues goesOn next => exact absurd semicolon goesOn
    | completes _ statement => exact ⟨rfl, _, rfl⟩
    | ends _ cause => exact ⟨rfl, _, rfl⟩
    | strays goesOn lost cause => exact absurd semicolon goesOn
  · have noWord : leads last = false := by
      simp [leads, semicolon]
    have skipped := step_of_isLost limit lost noWord
    simp only [one, after, completed, skipped, afterSkipped, semicolon]
    exact ⟨rfl, _, rfl⟩

theorem IsChunk.recover_append {chunk : List Token} (isChunk : IsChunk chunk) (limit : Nat)
    (back : List Token) :
    recover limit (chunk ++ back) =
      ((recover limit chunk).1 ++ (recover limit back).1,
        (recover limit chunk).2 ++ (recover limit back).2) := by
  have ready := (isChunk.run limit).1
  have alone := Program.recover_append isChunk.noEnd ready []
  have nothing : recover limit [] = ([], []) := rfl
  rw [List.append_nil, nothing, List.append_nil, List.append_nil] at alone
  rw [Program.recover_append isChunk.noEnd ready, alone]

theorem IsChunk.recover_cases {chunk : List Token} (isChunk : IsChunk chunk) (limit : Nat) :
    (∃ statement, recover limit chunk = ([statement], [])) ∨
      ∃ fault, recover limit chunk = ([], [fault]) := by
  rcases isChunk.run limit with ⟨ready, event, one⟩
  have alone := Program.recover_append isChunk.noEnd ready []
  rw [List.append_nil, one] at alone
  cases event with
  | read statement => exact .inl ⟨statement, alone⟩
  | fault found => exact .inr ⟨found, alone⟩

/-- Recovery isolates faults. Each chunk gives exactly one statement or exactly one fault, the same
that it gives alone, and what follows the chunks is recovered as if it stood alone. -/
theorem recover_isolates_chunks (setting : Int) (chunks : List (List Token))
    (areChunks : ∀ chunk ∈ chunks, IsChunk chunk) (rest : List Token) :
    (∀ chunk ∈ chunks,
      (∃ statement, recover (depthLimit setting) chunk = ([statement], [])) ∨
        ∃ fault, recover (depthLimit setting) chunk = ([], [fault])) ∧
    recover (depthLimit setting) (chunks.flatten ++ rest) =
      (chunks.flatMap (fun chunk => (recover (depthLimit setting) chunk).1) ++
          (recover (depthLimit setting) rest).1,
        chunks.flatMap (fun chunk => (recover (depthLimit setting) chunk).2) ++
          (recover (depthLimit setting) rest).2) := by
  constructor
  · intro chunk member
    exact (areChunks chunk member).recover_cases _
  · induction chunks with
    | nil => rfl
    | cons chunk more ih =>
        rw [List.forall_mem_cons] at areChunks
        simp only [List.flatten_cons, List.flatMap_cons, List.append_assoc,
          areChunks.1.recover_append, ih areChunks.2]

/-- Parentheses that nest to a depth of two. -/
def nestedChunk : List Token :=
  [.leftParen, .leftParen, .keyword .nilWord, .rightParen, .rightParen, .semicolon].map
    fun kind => { kind, line := 1 }

/-- A statement that nests to a depth of one. -/
def negatedChunk : List Token :=
  [.keyword .printWord, .minus, .keyword .nilWord, .semicolon].map fun kind => { kind, line := 2 }

theorem isChunk_nestedChunk : IsChunk nestedChunk where
  noEnd := by decide
  closes := ⟨nestedChunk.dropLast, { kind := .semicolon, line := 1 }, by decide⟩
  follows := by decide

theorem isChunk_negatedChunk : IsChunk negatedChunk where
  noEnd := by decide
  closes := ⟨negatedChunk.dropLast, { kind := .semicolon, line := 2 }, by decide⟩
  follows := by decide

/-- Where one level is allowed, the first chunk fails inside its parentheses and the second is read
all the same, and so is one that is never closed. -/
theorem recover_isolates_nestedChunk :
    (∀ chunk ∈ [nestedChunk, negatedChunk], IsChunk chunk) ∧
      (recover (depthLimit 1) nestedChunk).2.map Fault.cause = [.tooDeep] ∧
      (recover (depthLimit 1) negatedChunk).1.length = 1 ∧
      recover (depthLimit 1) ([nestedChunk, negatedChunk].flatten ++ negatedChunk.dropLast) =
        ((recover (depthLimit 1) nestedChunk).1 ++ (recover (depthLimit 1) negatedChunk).1 ++
            (recover (depthLimit 1) negatedChunk.dropLast).1,
          (recover (depthLimit 1) nestedChunk).2 ++ (recover (depthLimit 1) negatedChunk).2 ++
            (recover (depthLimit 1) negatedChunk.dropLast).2) := by
  have areChunks : ∀ chunk ∈ [nestedChunk, negatedChunk], IsChunk chunk := by
    simp [isChunk_nestedChunk, isChunk_negatedChunk]
  refine ⟨areChunks, by decide, by decide, ?_⟩
  simpa using (recover_isolates_chunks 1 _ areChunks negatedChunk.dropLast).2

end Scriptlet.Program
