import Scriptlet.Proofs.Output
import Scriptlet.Proofs.Scanning.Lines
import Scriptlet.Proofs.Validation

/-!
# Programs compose

A source that a check accepts can be followed by any other on the next line. The seam is clean for
all stages. Scanning: strings and block comments are closed, and a line comment or an unfinished
character ends at the line feed. Reading: the first source ends where a statement may start, with
nothing nested. Running: nothing but what was printed is kept from one statement to the next. So the
faults of both together are those of the second, as many lines further down as the first is long,
and both together do what they do one after the other.
-/

namespace Scriptlet

open Glyph

theorem Text.glyphs_append_newline (first second : Text) :
    glyphs (first ++ newline :: second) = first.glyphs ++ char '\n' :: second.glyphs :=
  glyphsFrom_append_of_ascii (by decide) [] first second

namespace Scan

theorem split_append_newline {first : Text} (faultless : (ofSource first).faults = [])
    (second : Text) :
    Segment.split (Text.glyphs (first ++ Text.newline :: second)) =
      (Segment.split first.glyphs ++ [⟨.blank, [char '\n']⟩]) ++ Segment.split second.glyphs := by
  have closed := closed_of_faultless faultless
  have seam : Segment.split (char '\n' :: second.glyphs) =
      ⟨.blank, [char '\n']⟩ :: Segment.split second.glyphs := by
    rw [Segment.split_cons, Segment.extent_of_blank blank_lineFeed]
    rfl
  rw [Text.glyphs_append_newline, Segment.split_append_of_closed closed (.inr ⟨_, rfl⟩), seam,
    List.append_assoc, List.singleton_append]

theorem newlines_of_line (source : Text) :
    total Segment.newlines (Segment.split source.glyphs ++ [⟨.blank, [char '\n']⟩]) =
      1 + source.newlines := by
  rw [total_append, Segment.total_newlines_split, (Text.cutInto_glyphs source).newlines_eq,
    Nat.add_comm]
  rfl

theorem tokens_append_newline {first : Text} (faultless : (ofSource first).faults = [])
    (second : Text) :
    (ofSource (first ++ Text.newline :: second)).tokens =
      words (Segment.split first.glyphs) ++
        (ofSource second).tokens.map (Token.shifted (1 + first.newlines : Nat)) := by
  have noWord : words [⟨.blank, [char '\n']⟩] = [] := rfl
  rw [ofSource, split_append_newline faultless, tokens_append, newlines_of_line, words_append,
    noWord, List.map_nil, List.append_nil]
  rfl

theorem faults_append_newline {first : Text} (faultless : (ofSource first).faults = [])
    (second : Text) :
    (ofSource (first ++ Text.newline :: second)).faults =
      (ofSource second).faults.map (Fault.shifted (1 + first.newlines : Nat)) := by
  have noFault : (ofSegments [⟨.blank, [char '\n']⟩]).faults = [] := rfl
  have nothing : (ofSegments (Segment.split first.glyphs)).faults = [] := faultless
  rw [ofSource, split_append_newline faultless, faults_append, newlines_of_line, faults_append,
    noFault, nothing]
  rfl

end Scan

theorem Program.recover_shifted (limit : Nat) (lines : Int) {tokens : List Token}
    (ends : .eof ∈ tokens.map Token.kind) :
    List.Forall₂ (Statement.Alike (Likeness.shifted lines)) (recover limit tokens).1
        (recover limit (tokens.map (Token.shifted lines))).1 ∧
      (recover limit (tokens.map (Token.shifted lines))).2 =
        (recover limit tokens).2.map (Fault.shifted lines) := by
  have moved : List.Forall₂ (Likeness.shifted lines).token tokens
      (tokens.map (Token.shifted lines)) := by
    rw [List.forall₂_map_right_iff, List.forall₂_same]
    intro token _
    exact rfl
  rcases recover_alike limit moved ends with ⟨statements, faults⟩
  exact ⟨statements, Fault.map_shifted_eq_of_alike faults⟩

theorem Failure.ofFaults?_map_shifted (lines : Int) (found : List Fault) :
    ofFaults? (found.map (Fault.shifted lines)) =
      (ofFaults? found).map (Failure.shifted lines) := by
  rcases found with _ | ⟨first, _ | ⟨second, more⟩⟩ <;> rfl

/-- Faults lie on a line exactly if they do so after both are moved. -/
theorem Fault.contains_line_shifted (lines : Int) (found : List Fault) (fault : Fault) :
    ((found.map (Fault.shifted lines)).map Fault.line).contains (fault.shifted lines).line =
      (found.map Fault.line).contains fault.line := by
  rw [Bool.eq_iff_iff, List.contains_iff_mem, List.contains_iff_mem]
  simp [shifted]

namespace Engine

variable {engine : Engine} {first : Text}

theorem recover_append_newline (checked : engine.check first = none) (second : Text) :
    Program.recover engine.depth (Scan.ofSource (first ++ Text.newline :: second)).tokens =
      ((Program.recover engine.depth (Scan.ofSource first).tokens).1 ++
          (Program.recover engine.depth ((Scan.ofSource second).tokens.map
            (Token.shifted (1 + first.newlines : Nat)))).1,
        (Program.recover engine.depth (Scan.ofSource second).tokens).2.map
          (Fault.shifted (1 + first.newlines : Nat))) := by
  rcases check_eq_none_iff.mp checked with ⟨scanned, read⟩
  have ends : .eof ∈ (Scan.ofSource second).tokens.map Token.kind := Scan.eof_mem_kinds _
  -- The first source is left as its words, without the token that marked its end.
  rw [Scan.tokens_append_newline scanned,
    Program.recover_append_of_faultless Scan.kind_ne_eof_of_mem_words rfl read,
    (Program.recover_shifted engine.depth _ ends).2]
  rfl

theorem faults_append_newline (checked : engine.check first = none) (second : Text) :
    engine.faults (first ++ Text.newline :: second) =
      (engine.faults second).map (Fault.shifted (1 + first.newlines : Nat)) := by
  rcases check_eq_none_iff.mp checked with ⟨scanned, -⟩
  simp only [faults, recover_append_newline checked, Scan.faults_append_newline scanned,
    List.filter_map, List.map_append]
  -- The same syntax faults are left out, since faults share a line exactly if they did before.
  simp only [Function.comp_def, Fault.contains_line_shifted]

theorem check_append_newline (checked : engine.check first = none) (second : Text) :
    engine.check (first ++ Text.newline :: second) =
      (engine.check second).map (Failure.shifted (1 + first.newlines : Nat)) := by
  rw [check, faults_append_newline checked, Failure.ofFaults?_map_shifted, check]

end Engine

theorem Likeness.faithful_shifted (lines : Int) : (Likeness.shifted lines).Faithful where
  value_eq same := same
  lexeme_eq {one other} moved := by rw [show other = one.shifted lines from moved]; rfl

namespace Program

theorem run_shifted {lines : Int} {statements moved : List Statement}
    (correspond : List.Forall₂ (Statement.Alike (Likeness.shifted lines)) statements moved)
    (sink : Sink) :
    run sink moved =
      ((run sink statements).1, (run sink statements).2.map (Failure.shifted lines)) := by
  rcases run_alike (Likeness.faithful_shifted lines) correspond sink with ⟨printed, failures⟩
  refine Prod.ext printed.symm ?_
  generalize (run sink statements).2 = failed, (run sink moved).2 = otherFailed at failures
  cases failures with
  | none => rfl
  | some alike => rw [Failure.shifted_eq_of_alike alike, Option.map_some]

end Program

theorem Engine.run_append_newline {engine : Engine} {first second : Text}
    (checked : engine.check first = none) (checkedToo : engine.check second = none) (sink : Sink) :
    engine.run (first ++ Text.newline :: second) sink =
      match engine.run first sink with
      | (printed, some failure) => (printed, some failure)
      | (printed, none) =>
          ((engine.run second printed).1,
            (engine.run second printed).2.map (Failure.shifted (1 + first.newlines : Nat))) := by
  have checkedBoth : engine.check (first ++ Text.newline :: second) = none := by
    rw [check_append_newline checked, checkedToo, Option.map_none]
  have ends : .eof ∈ (Scan.ofSource second).tokens.map Token.kind := Scan.eof_mem_kinds _
  have moved := (Program.recover_shifted engine.depth (1 + first.newlines : Nat) ends).1
  simp only [run, program_of_check checked, program_of_check checkedToo,
    program_of_check checkedBoth, recover_append_newline checked, Program.run_append]
  rcases Program.run sink (Program.recover engine.depth (Scan.ofSource first).tokens).1 with
    ⟨printed, _ | failure⟩
  · exact Program.run_shifted moved printed
  · rfl

theorem Sink.output_append (later before : List Text) :
    output { written := later ++ before } =
      output { written := before } ++ output { written := later } := by
  simp [output]

/-- What a source prints does not depend on what was printed before. -/
theorem Engine.exists_lines (engine : Engine) (source : Text) :
    ∃ lines failed, ∀ before,
      engine.run source { written := before } = ({ written := lines ++ before }, failed) := by
  unfold run
  cases engine.program source with
  | ok statements => exact ⟨_, _, Program.run_endless statements⟩
  | error failure => exact ⟨[], some failure, fun _ => rfl⟩

/-- Programs compose. If a check accepts the first source, then the faults of both sources, the
second below the first, are those of the second, moved down by the lines of the first. If the check
accepts the second as well, both together do what they do one after the other, on any sink, with the
failure of the second moved down. So they print what the first prints and, unless that fails, what
the second prints. -/
theorem Engine.programs_compose {engine : Engine} {first : Text}
    (checked : engine.check first = none) (second : Text) :
    let joined := first ++ Text.newline :: second
    let lines : Nat := 1 + first.newlines
    engine.faults joined = (engine.faults second).map (Fault.shifted lines) ∧
      engine.check joined = (engine.check second).map (Failure.shifted lines) ∧
      (engine.check second = none →
        (∀ sink, engine.run joined sink =
          match engine.run first sink with
          | (printed, some failure) => (printed, some failure)
          | (printed, none) =>
              ((engine.run second printed).1,
                (engine.run second printed).2.map (Failure.shifted lines))) ∧
        (engine.run joined {}).1.output =
          (engine.run first {}).1.output ++
            (if (engine.run first {}).2 = none then (engine.run second {}).1.output else []) ∧
        (engine.run joined {}).2 =
          (engine.run first {}).2.or ((engine.run second {}).2.map (Failure.shifted lines))) := by
  intro joined lines
  refine ⟨faults_append_newline checked second, check_append_newline checked second, ?_⟩
  intro checkedToo
  have together := run_append_newline checked checkedToo
  refine ⟨together, ?_⟩
  rcases engine.exists_lines first with ⟨printed, failed, ran⟩
  rcases engine.exists_lines second with ⟨later, failedLater, ranLater⟩
  rw [together {}, ran [], ranLater []]
  cases failed with
  | none => simp [ranLater, Sink.output_append, lines]
  | some failure => simp

/-- A source with a string of two lines and a comment that only the end of the source ends. -/
def openEnded : Text :=
  text "print \"a\nb\"; // c"

/-- A source that prints a line and then fails. -/
def failing : Text :=
  text "print 1;\nprint 2 - nil;"

theorem Engine.programs_compose_openEnded :
    (check {} openEnded = none ∧ check {} failing = none) ∧
      check {} (openEnded ++ Text.newline :: text "print (;") =
        (check {} (text "print (;")).map (Failure.shifted 2) ∧
      (run {} (openEnded ++ Text.newline :: failing) {}).1.output = text "a\nb\n1\n" ∧
      (run {} (openEnded ++ Text.newline :: failing) {}).2 =
        (run {} failing {}).2.map (Failure.shifted 2) := by
  have checked : check {} openEnded = none := by decide +kernel
  have checkedToo : check {} failing = none := by decide +kernel
  rcases programs_compose checked (text "print (;") with ⟨-, faulty, -⟩
  rcases programs_compose checked failing with ⟨-, -, compose⟩
  rcases compose checkedToo with ⟨-, printed, failed⟩
  refine ⟨⟨checked, checkedToo⟩, faulty, printed.trans ?_, failed.trans ?_⟩
  · decide +kernel
  · have succeeds : (run {} openEnded {}).2 = none := by decide +kernel
    rw [succeeds, Option.none_or]
    rfl

end Scriptlet
