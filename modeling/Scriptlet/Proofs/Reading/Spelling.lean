import Scriptlet.Proofs.Grammar.Soundness
import Scriptlet.Proofs.Output
import Scriptlet.Proofs.Recovery

/-!
# What spells the statements of a program

Each expression that the program reader completes is spelled by a stretch of the tokens, whatever
faults lie around it. The invariant is about the statement being read, since the machine forgets the
one before it and skips from a fault to the next: what has been read of its expression is spelled by
the last tokens so far.
-/

namespace Scriptlet

namespace Program

theorem expr?_statement (keyword : Option Int) (expr : Expr) :
    (statement keyword expr).expr? = some expr := by
  cases keyword with
  | none => rfl
  | some line => rfl

/-- Where the machine is behind some tokens: outside a statement, or inside one whose expression the
last of them spell so far. -/
inductive State.Spelled (limit : Nat) (seen : List Token) : State → Prop where
  | ready : Spelled limit seen .ready
  | startled : Spelled limit seen .startled
  | skipping : Spelled limit seen .skipping
  | reading (keyword : Option Int) {phase : Phase} {spelling : List Token}
      (spells : phase.Spells limit spelling) (isSuffix : spelling <:+ seen) :
      Spelled limit seen (.reading keyword phase)

/-- The tokens spell the expression of the statement in one stretch. -/
def SpelledWithin (limit : Nat) (tokens : List Token) (statement : Statement) : Prop :=
  ∃ expr spelling, statement.expr? = some expr ∧ expr.SpelledBy limit spelling ∧
    spelling <:+: tokens

/-- What a token does: the machine goes on in the invariant, and the tokens so far spell the
statement that is completed, if one is. -/
def Extends (limit : Nat) (seen : List Token) (taken : State × Option Event) : Prop :=
  taken.1.Spelled limit seen ∧
    ∀ statement, taken.2 = some (.read statement) → SpelledWithin limit seen statement

namespace Extends

theorem of_none {limit : Nat} {seen : List Token} {next : State}
    (spelled : next.Spelled limit seen) : Extends limit seen (next, none) := by
  refine ⟨spelled, ?_⟩
  rintro statement ⟨⟩

theorem of_fault {limit : Nat} {seen : List Token} {next : State} (found : Fault)
    (spelled : next.Spelled limit seen) : Extends limit seen (next, some (.fault found)) := by
  refine ⟨spelled, ?_⟩
  rintro statement ⟨⟩

end Extends

theorem spelled_afterSkipped (limit : Nat) (seen : List Token) (token : Token) :
    (afterSkipped token).Spelled limit seen := by
  unfold afterSkipped
  split
  · exact .ready
  · exact .skipping

theorem extends_inside {limit : Nat} {seen spelling : List Token} {phase : Phase}
    (keyword : Option Int) (spells : phase.Spells limit spelling) (isSuffix : spelling <:+ seen)
    (token : Token) : Extends limit (seen ++ [token]) (inside limit keyword phase token) := by
  have turn := turn_inside limit keyword phase token
  generalize inside limit keyword phase token = after at turn ⊢
  cases turn with
  | continues taken =>
      apply Extends.of_none
      apply State.Spelled.reading keyword (spells.take taken)
      rcases isSuffix with ⟨front, rfl⟩
      exact ⟨front, by simp⟩
  | @completes whole taken semicolon =>
      refine ⟨.ready, ?_⟩
      rintro _ ⟨⟩
      have spelled := spells.finish (Phase.finish_of_ended taken)
      have inSeen := isSuffix.isInfix.trans (List.prefix_append seen [token]).isInfix
      exact ⟨whole, spelling, expr?_statement keyword whole, spelled, inSeen⟩
  | strays taken unclosed => exact .of_fault _ (spelled_afterSkipped limit _ token)
  | refuses taken => exact .of_fault _ (spelled_afterSkipped limit _ token)
  | takes taken => exact .of_fault _ .startled

theorem extends_start (limit : Nat) (seen : List Token) (token : Token) :
    Extends limit (seen ++ [token]) (start limit token) := by
  unfold start
  split
  · exact .of_none (.reading _ (.expecting .nil) List.nil_suffix)
  · exact extends_inside none (.expecting .nil) List.nil_suffix token

theorem State.Spelled.step {limit : Nat} {seen : List Token} {state : State}
    (spelled : state.Spelled limit seen) (token : Token) :
    Extends limit (seen ++ [token]) (Program.step limit state token) := by
  cases spelled with
  | ready => exact extends_start limit seen token
  | startled => exact .of_none (spelled_afterSkipped limit _ token)
  | skipping =>
      simp only [Program.step]
      split
      · exact extends_start limit seen token
      · exact .of_none (spelled_afterSkipped limit _ token)
  | reading keyword spells isSuffix => exact extends_inside keyword spells isSuffix token

theorem spelledWithin_of_mem_events {limit : Nat} {ending : Token} {state : State}
    {seen tokens : List Token} (spelled : state.Spelled limit seen) :
    ∀ statement ∈ statements (events limit ending state tokens),
      SpelledWithin limit (seen ++ tokens) statement := by
  induction tokens generalizing state seen with
  | nil =>
      intro statement member
      cases finished : finish ending state <;> simp [events, finished, statements] at member
  | cons token rest ih =>
      intro statement member
      rcases spelled.step token with ⟨nextSpelled, completes⟩
      simp only [events, statements_append, List.mem_append] at member
      rcases member with here | later
      · have completed : (Program.step limit state token).2 = some (.read statement) := by
          rcases event : (Program.step limit state token).2 with _ | (first | found)
          · simp [event, statements] at here
          · have same : statement = first := by simpa [event, statements] using here
            rw [same]
          · simp [event, statements] at here
        rcases completes statement completed with ⟨expr, spelling, isExpr, spells, inSeen⟩
        refine ⟨expr, spelling, isExpr, spells, inSeen.trans ?_⟩
        exact ⟨[], rest, by simp⟩
      · have within := ih nextSpelled statement later
        rwa [List.append_assoc, List.singleton_append] at within

/-- Every statement that recovery finds has an expression that a stretch of the tokens spells. -/
theorem spelledWithin_of_mem_recover {limit : Nat} {tokens : List Token} :
    ∀ statement ∈ (recover limit tokens).1, SpelledWithin limit tokens statement := by
  intro statement member
  have nothing : State.ready.Spelled limit [] := .ready
  rcases spelledWithin_of_mem_events nothing statement member with
    ⟨expr, spelling, isExpr, spells, inBody⟩
  refine ⟨expr, spelling, isExpr, spells, ?_⟩
  exact inBody.trans (List.takeWhile_prefix _).isInfix

end Program

namespace Expr

/-- An expression that is read alone is spelled by a stretch of the tokens, too. -/
theorem spelledBy_of_ofTokens {limit : Nat} {tokens : List Token} {expr : Expr}
    (isRead : ofTokens limit tokens = .ok expr) :
    ∃ spelling, expr.SpelledBy limit spelling ∧ spelling <:+: tokens := by
  rcases spelledBy_of_read (.expecting .nil) isRead with ⟨spelling, spelledBy, same⟩
  refine ⟨spelling, spelledBy, ?_⟩
  have inBody : spelling <+: (Input.ofTokens tokens).body := by
    rcases same with same | ⟨last, -, same⟩
    · exact ⟨[], by rw [same, List.append_nil]⟩
    · exact ⟨[last], same.symm⟩
  exact (inBody.trans (List.takeWhile_prefix _)).isInfix

end Expr

end Scriptlet
