import Scriptlet.Proofs.EvaluationRules
import Scriptlet.Proofs.Placement
import Scriptlet.Proofs.Reading.Spelling
import Scriptlet.Report

/-!
# Faults are shown with their lines

Whatever an engine finds wrong with a source lies on a line of the source, so there is a frame for
it, and a report shows every fault above the frame of its line.

For lexical and syntax faults this is where scanning and reading put them. Runtime faults are at
operators. Evaluation finds an operator in the tree it evaluates, the tree yields the tokens that
were read into it, and reading takes these tokens from the source.
-/

namespace Scriptlet

/-- The operators of a tree in order. -/
def Expr.operators : Expr → List Token
  | .absent => []
  | .literal _ _ => []
  | .group inner => inner.operators
  | .unary operator operand => operator :: operand.operators
  | .binary left operator right => left.operators ++ operator :: right.operators

theorem Expr.Yields.operators_subset {expr : Expr} {tokens : List Token}
    (yields : expr.Yields tokens) : expr.operators ⊆ tokens := by
  induction yields with
  | literal denotes => exact List.nil_subset _
  | group opens closes innerYields ih =>
      exact List.subset_cons_of_subset _ (List.subset_append_of_subset_left _ ih)
  | @unary operator _ _ operandYields ih => exact List.cons_subset_cons operator ih
  | @binary _ _ operator _ _ leftYields rightYields leftIh rightIh =>
      refine List.append_subset.mpr ⟨List.subset_append_of_subset_left _ leftIh, ?_⟩
      exact List.subset_append_of_subset_right _ (List.cons_subset_cons operator rightIh)

/-- All faults that the failure carries are at some of the tokens. -/
def Failure.IsAt (tokens : List Token) (failure : Failure) : Prop :=
  ∀ fault ∈ failure.found, ∃ token ∈ tokens, ∃ cause, fault = .atToken token cause

theorem Failure.IsAt.mono {tokens others : List Token} {failure : Failure}
    (isAt : failure.IsAt tokens) (within : tokens ⊆ others) : failure.IsAt others := by
  intro fault member
  rcases isAt fault member with ⟨token, inside, atToken⟩
  exact ⟨token, within inside, atToken⟩

theorem Failure.IsAt.outside {failure : Failure} (nothing : failure.faults? = none)
    (tokens : List Token) : failure.IsAt tokens := by
  simp [IsAt, found, nothing]

theorem Failure.IsAt.fault {token : Token} {tokens : List Token} (inside : token ∈ tokens)
    (cause : Cause) : (Failure.fault (.atToken token cause)).IsAt tokens := by
  intro fault member
  exact ⟨token, inside, cause, List.mem_singleton.mp member⟩

theorem Token.Unary.isAt {operator : Token} {operand : Value} {failure : Failure}
    (refused : operator.Unary operand (.error failure)) : failure.IsAt [operator] := by
  cases refused with
  | unreadable kind unread => exact .fault (.head _) _
  | plusOther kind other => exact .fault (.head _) _
  | unknown unknown => exact .fault (.head _) _

theorem Token.Binary.isAt {operator : Token} {left right : Value} {failure : Failure}
    (refused : operator.Binary left right (.error failure)) : failure.IsAt [operator] := by
  cases refused with
  | refused known unfit => exact .fault (.head _) _
  | unknown unknown => exact .fault (.head _) _

/-- A tree without a value is at fault at one of its operators, or a part of it is missing. -/
theorem Expr.Evaluates.isAt {expr : Expr} {failure : Failure}
    (fails : expr.Evaluates (.error failure)) : failure.IsAt expr.operators := by
  generalize isError : Except.error failure = result at fails
  induction fails with
  | absent =>
      cases isError
      exact .outside rfl _
  | literal value line => cases isError
  | emptyLiteral line => cases isError
  | group evaluates ih => exact ih isError
  | unary evaluates applied ih =>
      cases isError
      exact applied.isAt.mono (List.cons_subset_cons _ (List.nil_subset _))
  | operandFails fails ih => exact (ih isError).mono (List.subset_cons_self _ _)
  | binary leftEvaluates rightEvaluates applied leftIh rightIh =>
      cases isError
      exact applied.isAt.mono (by simp [operators])
  | leftFails fails ih => exact (ih isError).mono (List.subset_append_left _ _)
  | rightFails leftEvaluates fails leftIh ih =>
      refine (ih isError).mono ?_
      exact List.subset_append_of_subset_right _ (List.subset_cons_self _ _)

theorem Expr.SpelledBy.isAt {limit : Nat} {expr : Expr} {spelling tokens : List Token}
    {failure : Failure} (spelled : expr.SpelledBy limit spelling) (inside : spelling <:+: tokens)
    (failed : expr.eval = .error failure) : failure.IsAt tokens := by
  have evaluates := expr.evaluates_meaning
  rw [← eval_eq_meaning, failed] at evaluates
  exact evaluates.isAt.mono (List.Subset.trans spelled.yields.operators_subset inside.subset)

theorem Program.isAt_of_run {limit : Nat} {tokens : List Token} {statements : List Statement}
    (within : ∀ statement ∈ statements, SpelledWithin limit tokens statement) {sink : Sink}
    {failure : Failure} (failed : (run sink statements).2 = some failure) :
    failure.IsAt tokens := by
  rcases failure_of_run failed with outside | ⟨statement, member, expr, isExpr, unevaluated⟩
  · exact .outside outside tokens
  · rcases within statement member with ⟨own, spelling, isOwn, spelled, inside⟩
    rw [isExpr] at isOwn
    cases isOwn
    exact spelled.isAt inside unevaluated

theorem Expr.isAt_of_runPrinted {limit : Nat} {tokens : List Token} {expr : Expr}
    (isRead : ofTokens limit tokens = .ok expr) {sink : Sink} {failure : Failure}
    (failed : (expr.runPrinted sink).2 = .error failure) : failure.IsAt tokens := by
  rcases failure_of_runPrinted failed with outside | unevaluated
  · exact .outside outside tokens
  · rcases spelledBy_of_ofTokens isRead with ⟨spelling, spelled, inside⟩
    exact spelled.isAt inside unevaluated

theorem Failure.IsAt.placed {source : Text} {failure : Failure}
    (isAt : failure.IsAt (Scan.ofSource source).tokens) :
    ∀ fault ∈ failure.found, fault.Placed source := by
  intro fault member
  rcases isAt fault member with ⟨token, inside, cause, rfl⟩
  exact .atToken rfl rfl (Scan.placed_of_mem_tokens inside)

namespace Engine

theorem placed_of_program {engine : Engine} {source : Text} {failure : Failure}
    (refused : engine.program source = .error failure) :
    ∀ fault ∈ failure.found, fault.Placed source := by
  rcases engine.program_cases source with
    recovered | ⟨found, other, refusedToo, isFailure, place⟩
  · rw [recovered] at refused
    cases refused
  · rw [refusedToo] at refused
    cases refused
    rw [Failure.found_of_ofFaults? isFailure]
    intro fault member
    rcases place with rfl | subset
    · exact Scan.placed_of_mem_faults member
    · exact Program.placed_of_mem_recover (subset member)

theorem placed_of_expression {engine : Engine} {source : Text} {failure : Failure}
    (refused : engine.expression source = .error failure) :
    ∀ fault ∈ failure.found, fault.Placed source := by
  rcases engine.expression_cases source with
    ⟨expr, isRead, -⟩ | ⟨found, other, refusedToo, isFailure, place⟩
  · rw [isRead] at refused
    cases refused
  · rw [refusedToo] at refused
    cases refused
    rw [Failure.found_of_ofFaults? isFailure]
    intro fault member
    rcases place with rfl | ⟨first, rfl, unread⟩
    · exact Scan.placed_of_mem_faults member
    · rw [List.mem_singleton.mp member]
      rcases Expr.blames_of_read unread with ⟨token, place, cause, -, rfl⟩
      refine .atToken rfl rfl (Scan.placed_of_mem_tokens ?_)
      rcases place with rfl | inBody
      · exact Scan.ending_mem_tokens source
      · exact List.takeWhile_subset _ inBody

/-- Why an engine does not take a source through, whatever it is asked to do with it. -/
inductive Refuses (engine : Engine) (source : Text) (failure : Failure) : Prop where
  | running (sink : Sink) (failed : (engine.run source sink).2 = some failure)
  | checking (failed : engine.check source = some failure)
  | evaluating (sink : Sink) (failed : (engine.evaluate source sink).2 = .error failure)
  | formatting (failed : engine.form source = .error failure)

theorem Refuses.placed {engine : Engine} {source : Text} {failure : Failure}
    (refuses : engine.Refuses source failure) : ∀ fault ∈ failure.found, fault.Placed source := by
  cases refuses with
  | running sink failed =>
      unfold run at failed
      split at failed
      · rename_i isProgram
        rcases engine.program_cases source with recovered | ⟨-, other, refused, -⟩
        · rw [recovered] at isProgram
          cases isProgram
          exact (Program.isAt_of_run Program.spelledWithin_of_mem_recover failed).placed
        · rw [refused] at isProgram
          cases isProgram
      · rename_i refused
        cases failed
        exact placed_of_program refused
  | checking failed =>
      rw [Failure.found_of_ofFaults? failed]
      exact fun fault member => placed_of_mem_faults member
  | evaluating sink failed =>
      unfold evaluate at failed
      split at failed
      · rename_i isExpr
        rcases engine.expression_cases source with ⟨expr, isRead, ofTokens⟩ | ⟨-, other, refused, -⟩
        · rw [isRead] at isExpr
          cases isExpr
          exact (Expr.isAt_of_runPrinted ofTokens failed).placed
        · rw [refused] at isExpr
          cases isExpr
      · rename_i refused
        cases failed
        exact placed_of_expression refused
  | formatting failed =>
      unfold form at failed
      split at failed
      · cases failed
      · rename_i refused
        cases failed
        exact placed_of_expression refused

end Engine

/-- What a frame puts before its line. -/
def gutter (line : Int) : Text :=
  text "  --> line " ++ Text.ofInt line ++ text "\n " ++ Text.spaces (Text.ofInt line).length ++
    text " |\n " ++ Text.ofInt line ++ text " | "

theorem codeFrame?_of_getElem? {source line : Text} {above : Nat} (filled : source ≠ [])
    (isLine : source.lines[above]? = some line) :
    codeFrame? source (1 + above) =
      some (gutter (1 + above) ++ Text.trimEnd (· = Text.carriageReturn) line) := by
  have number : (1 + (above : Int)).toNat - 1 = above := by omega
  have positive : ¬1 + (above : Int) ≤ 0 := by omega
  simp [codeFrame?, filled, positive, number, isLine, gutter]

/-- The line of a fault in its source, as its frame displays it. -/
structure Fault.IsOn (source content : Text) (fault : Fault) : Prop where
  first : 1 ≤ fault.line
  last : fault.line ≤ 1 + source.newlines
  isLine : ∃ line, source.lines[(fault.line - 1).toNat]? = some line ∧
    content = Text.trimEnd (· = Text.carriageReturn) line
  framed : source ≠ [] → codeFrame? source fault.line = some (gutter fault.line ++ content)
  lexeme : ∀ token, fault.token = some token → token.lexeme ≠ [] → Text.newline ∉ token.lexeme →
    token.lexeme <:+: content

theorem Fault.Placed.exists_isOn {source : Text} {fault : Fault} (placed : fault.Placed source) :
    ∃ content, fault.IsOn source content := by
  rcases placed.exists_line with ⟨above, line, isLine, found, holds⟩
  have inside := (List.getElem?_eq_some_iff.mp found).1
  rw [Text.length_lines] at inside
  refine ⟨Text.trimEnd (· = Text.carriageReturn) line, ?_, ?_, ⟨line, ?_, rfl⟩, ?_, ?_⟩
  · omega
  · omega
  · rwa [show (fault.line - 1).toNat = above by omega]
  · intro filled
    rw [isLine]
    exact codeFrame?_of_getElem? filled found
  · intro token isAt filled inLine
    exact (holds token isAt filled inLine).2

namespace Report

/-- A report of faults in order. Each is worded, and the frame of its line follows; only a source
without text has no frames. -/
inductive Shows (colour : Colour) (source : Text) : List Fault → Text → Prop where
  | nil : Shows colour source [] []
  | framed {fault : Fault} {content : Text} {rest : List Fault} {more : Text} (filled : source ≠ [])
      (isOn : fault.IsOn source content) (shows : Shows colour source rest more) :
      Shows colour source (fault :: rest)
        (faultBlock colour fault.text ++ frameBlock colour (gutter fault.line ++ content) ++ more)
  | bare {fault : Fault} {rest : List Fault} {more : Text} (empty : source = [])
      (shows : Shows colour source rest more) :
      Shows colour source (fault :: rest) (faultBlock colour fault.text ++ more)

theorem shows_of_placed {source : Text} {faults : List Fault} (colour : Colour)
    (placed : ∀ fault ∈ faults, fault.Placed source) :
    Shows colour source faults (faults.flatMap (ofFault colour source)) := by
  induction faults with
  | nil => exact .nil
  | cons fault rest ih =>
      rw [List.forall_mem_cons] at placed
      rw [List.flatMap_cons, ofFault]
      by_cases filled : source = []
      · subst filled
        have frameless : codeFrame? [] fault.line = none := rfl
        rw [frameless]
        simpa using Shows.bare rfl (ih placed.2)
      · rcases placed.1.exists_isOn with ⟨content, isOn⟩
        rw [isOn.framed filled]
        exact .framed filled isOn (ih placed.2)

theorem ofFailure_eq {source : Text} {failure : Failure} (colour : Colour)
    (faulty : failure.found ≠ []) :
    ofFailure colour source failure = failure.found.flatMap (ofFault colour source) := by
  rw [ofFailure, ← Failure.found]
  cases found : failure.found with
  | nil => exact absurd found faulty
  | cons first more => rfl

theorem ofFailure_of_found_eq_nil (colour : Colour) (source : Text) {failure : Failure}
    (nothing : failure.found = []) :
    ofFailure colour source failure = faultBlock colour failure.text := by
  rw [ofFailure, ← Failure.found, nothing]

theorem shows_ofFailure {engine : Engine} {source : Text} {failure : Failure} (colour : Colour)
    (refuses : engine.Refuses source failure) (faulty : failure.found ≠ []) :
    Shows colour source failure.found (ofFailure colour source failure) := by
  rw [ofFailure_eq colour faulty]
  exact shows_of_placed colour refuses.placed

end Report

/-- Every fault is shown with the line that holds it. Whatever an engine finds wrong with a source
lies on one of its lines, whose frame displays the lexeme at fault if that fits on a line; and a
report is made of the faults in order, each followed by this frame. -/
theorem Engine.faults_are_on_their_lines {engine : Engine} {source : Text} {failure : Failure}
    (refuses : engine.Refuses source failure) :
    (∀ fault ∈ failure.found, ∃ content, fault.IsOn source content) ∧
      ∀ colour, failure.found ≠ [] →
        Report.Shows colour source failure.found (Report.ofFailure colour source failure) := by
  exact ⟨fun fault member => (refuses.placed fault member).exists_isOn,
    fun colour => Report.shows_ofFailure colour refuses⟩

/-- A program that fails on its third line, which ends in a carriage return. -/
def brokenSum : Text :=
  text "print true;\r\nprint nil\r\n+ nil;\r\n"

/-- The runtime fault at the operator of the sum. -/
def sumFault : Fault :=
  .atToken { kind := .plus, lexeme := text "+", line := 3 } (.invalidOperands (text "+") .nil .nil)

theorem Engine.faults_are_on_their_lines_brokenSum :
    Refuses {} brokenSum (.fault sumFault) ∧
      (∃ content, sumFault.IsOn brokenSum content ∧ text "+" <:+: content ∧
        codeFrame? brokenSum 3 = some (gutter 3 ++ content)) ∧
      Report.Shows .plain brokenSum [sumFault]
        (text ("[line 3] Error at '+': invalid operands for +: nil and nil\n" ++
          "  --> line 3\n   |        \n 3 | + nil; \n")) := by
  have refuses : Refuses {} brokenSum (.fault sumFault) := .running {} (by decide +kernel)
  have filled : brokenSum ≠ [] := by decide
  have report : Report.ofFailure .plain brokenSum (.fault sumFault) =
      text ("[line 3] Error at '+': invalid operands for +: nil and nil\n" ++
        "  --> line 3\n   |        \n 3 | + nil; \n") := by
    decide +kernel
  rcases faults_are_on_their_lines refuses with ⟨onLines, shown⟩
  rcases onLines sumFault (.head _) with ⟨content, isOn⟩
  have occurs := isOn.lexeme _ rfl (by decide) (by decide)
  have shows := shown .plain (List.cons_ne_nil _ _)
  rw [report] at shows
  exact ⟨refuses, ⟨content, isOn, occurs, isOn.framed filled⟩, shows⟩

end Scriptlet
