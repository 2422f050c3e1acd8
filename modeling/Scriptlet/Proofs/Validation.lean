import Scriptlet.Command.Performing
import Scriptlet.Proofs.Layout.Meaning
import Scriptlet.Proofs.Reading.Runs
import Scriptlet.Proofs.Stages

/-!
# Validators agree and guard execution

A source is validated in several ways. A check scans it and reads it with recovery even behind
lexical faults, and leaves out the syntax faults on lines that have a lexical one. An engine that
runs it stops after scanning if there was a fault, and reads up to the first fault or behind all of
them. Laying it out looks at the last lexical fault and at the first syntax fault. All of them
accept the same sources: those that scan without a fault and read without one. Leaving out faults
can never empty the list of a check, because what is left out stands on the line of a fault that
stays.

Nothing of a source runs unless it is accepted, so a failure tells from its faults whether it was.
-/

namespace Scriptlet

/-- A failure that reports a lexical or a syntax fault. -/
def Failure.IsStatic (failure : Failure) : Prop :=
  ∃ fault ∈ failure.found, fault.stage = .lexical ∨ fault.stage = .grammatical

theorem Failure.not_isStatic {failure : Failure}
    (runtime : ∀ fault ∈ failure.found, fault.stage = .runtime) : ¬failure.IsStatic := by
  rintro ⟨fault, member, lexical | grammatical⟩
  · rw [runtime fault member] at lexical
    cases lexical
  · rw [runtime fault member] at grammatical
    cases grammatical

theorem Failure.exists_isStatic_of_ofFaults? {found : List Fault} (faulty : found ≠ [])
    (static : ∀ fault ∈ found, fault.stage = .lexical ∨ fault.stage = .grammatical) :
    ∃ failure, ofFaults? found = some failure ∧ failure.IsStatic := by
  cases failed : ofFaults? found with
  | none => exact absurd (ofFaults?_eq_none_iff.mp failed) faulty
  | some failure =>
      refine ⟨failure, rfl, ?_⟩
      rcases List.exists_mem_of_ne_nil found faulty with ⟨fault, member⟩
      refine ⟨fault, ?_, static fault member⟩
      rwa [found_of_ofFaults? failed]

namespace Engine

theorem check_eq_none_iff {engine : Engine} {source : Text} :
    engine.check source = none ↔ (Scan.ofSource source).faults = [] ∧
      (Program.recover engine.depth (Scan.ofSource source).tokens).2 = [] := by
  simp only [check, Failure.ofFaults?_eq_none_iff, faults, List.append_eq_nil_iff]
  refine and_congr_right ?_
  intro scanned
  -- Without lexical faults no line is left out.
  rw [scanned, List.filter_eq_self.mpr]
  simp

theorem program_of_check {engine : Engine} {source : Text} (checked : engine.check source = none) :
    engine.program source =
      .ok (Program.recover engine.depth (Scan.ofSource source).tokens).1 := by
  rcases check_eq_none_iff.mp checked with ⟨scanned, read⟩
  simp only [program, tokens_of_faultless scanned, statements, Program.ofTokens_eq_recover, read,
    Failure.ofFaults?]
  split <;> rfl

theorem statements_isStatic (engine : Engine) {tokens : List Token}
    (faulty : (Program.recover engine.depth tokens).2 ≠ []) :
    ∃ failure, engine.statements tokens = .error failure ∧ failure.IsStatic := by
  have static : ∀ fault ∈ (Program.recover engine.depth tokens).2,
      fault.stage = .lexical ∨ fault.stage = .grammatical :=
    fun fault member => .inr (Program.stage_of_mem_recover member)
  unfold statements
  split
  · rcases Failure.exists_isStatic_of_ofFaults? faulty static with ⟨failure, failed, isStatic⟩
    exact ⟨failure, by simp only [failed], isStatic⟩
  · rw [Program.ofTokens_eq_recover]
    cases found : (Program.recover engine.depth tokens).2 with
    | nil => exact absurd found faulty
    | cons first more =>
        refine ⟨.fault first, rfl, first, List.mem_singleton.mpr rfl, static first ?_⟩
        rw [found]
        exact .head more

/-- An engine refuses what its check refuses, and says why. -/
theorem program_isStatic {engine : Engine} {source : Text} (refused : engine.check source ≠ none) :
    ∃ failure, engine.program source = .error failure ∧ failure.IsStatic := by
  rw [ne_eq, check_eq_none_iff, not_and] at refused
  by_cases scanned : (Scan.ofSource source).faults = []
  · rcases engine.statements_isStatic (refused scanned) with ⟨failure, failed, isStatic⟩
    exact ⟨failure, by simp only [program, tokens_of_faultless scanned, failed], isStatic⟩
  · have static : ∀ fault ∈ (Scan.ofSource source).faults,
        fault.stage = .lexical ∨ fault.stage = .grammatical :=
      fun fault member => .inl (Scan.stage_of_mem_faults member)
    rcases Failure.exists_isStatic_of_ofFaults? scanned static with ⟨failure, failed, isStatic⟩
    exact ⟨failure, by simp only [program, tokens, failed], isStatic⟩

theorem run_of_refused {engine : Engine} {source : Text} (refused : engine.check source ≠ none)
    (sink : Sink) :
    ∃ failure, engine.run source sink = (sink, some failure) ∧ failure.IsStatic := by
  rcases program_isStatic refused with ⟨failure, failed, isStatic⟩
  exact ⟨failure, by simp only [run, failed], isStatic⟩

theorem check_eq_none_iff_run {engine : Engine} {source : Text} (sink : Sink) :
    engine.check source = none ↔
      ∀ failure, (engine.run source sink).2 = some failure → ¬failure.IsStatic := by
  constructor
  · intro checked failure failed
    simp only [run, program_of_check checked] at failed
    exact Failure.not_isStatic (Program.stage_of_run failed)
  · intro dynamic
    by_contra refused
    rcases run_of_refused refused sink with ⟨failure, failed, isStatic⟩
    exact dynamic failure (by rw [failed]) isStatic

theorem check_eq_none_iff_verify {engine : Engine} (isDefault : engine.depth = defaultDepth)
    {source : Text} : engine.check source = none ↔ Layout.verify source = none := by
  rw [check_eq_none_iff, Layout.verify_eq_none_iff, isDefault]
  simp only [Program.ofTokens_eq_ok_iff, Prod.ext_iff]
  simp

end Engine

theorem FileTree.file?_of_find {tree : FileTree} {folder path : Path} {written content : Text}
    (found : tree.find folder written = .ok (.file path content)) :
    tree.file? path = some content := by
  unfold find at found
  split at found
  · cases found
  · cases followed : tree.follow (if Path.isAbsolute written then [] else folder)
        (Path.names written) with
    | error obstacle =>
        rw [followed] at found
        cases found
    | ok reached =>
        simp only [followed, bind, Except.bind] at found
        cases held : tree.file? reached with
        | some here =>
            rw [held] at found
            cases found
            exact held
        | none =>
            simp only [held] at found
            split at found <;> cases found

theorem Formatting.status_perform (task : Task) {environment : Environment}
    {target source : Text} {path : Path}
    (found : environment.tree.find environment.folder target = .ok (.file path source))
    (script : isScript path) :
    (perform task environment [target]).status = .badData ↔ Layout.verify source ≠ none := by
  have scripts : allScripts environment [target] = .ok [path] := by
    simp [allScripts, targetScripts, found, script]
  have single : ordered [path] = [path] :=
    List.mergeSort_singleton path
  have content := FileTree.file?_of_find found
  cases verified : Layout.verify source with
  | some failure => simp [perform, scripts, single, takeAll, content, verified]
  | none =>
      simp only [perform, scripts, single, takeAll, content, Option.getD_some, verified]
      split <;> simp

namespace Command

theorem status_performCheck {environment : Environment} {script source : Text}
    (read : environment.tree.read environment.folder
      (Path.absolute environment.folder script).text = .ok source) :
    (performCheck environment defaultDepth script).status = .badData ↔
      Layout.verify source ≠ none := by
  have created : Engine.create defaultDepth false = .ok {} := rfl
  have agrees : Engine.check {} source = none ↔ Layout.verify source = none :=
    Engine.check_eq_none_iff_verify rfl
  rw [ne_eq, ← agrees, Engine.check, Failure.ofFaults?_eq_none_iff]
  simp only [performCheck, read, created]
  split
  · rename_i faultless
    simp [faultless, Outcome.done]
  · rename_i faulty
    simpa using faulty

theorem status_runScript {environment : Environment} {settings : Settings} {script source : Text}
    (isDefault : settings.engine.depth = defaultDepth)
    (read : environment.tree.read environment.folder script = .ok source) :
    (runScript environment settings script).status = .badData ↔ Layout.verify source ≠ none ∨
      ∃ failure, (settings.engine.run source {}).2 = some failure ∧ ¬failure.IsStatic := by
  have failing : (runScript environment settings script).status = .badData ↔
      ∃ failure, (settings.engine.run source {}).2 = some failure := by
    simp only [runScript, read]
    cases (settings.engine.run source {}).2 <;> simp
  rw [failing, ne_eq, ← Engine.check_eq_none_iff_verify isDefault]
  constructor
  · rintro ⟨failure, failed⟩
    by_cases checked : settings.engine.check source = none
    · exact .inr ⟨failure, failed, (Engine.check_eq_none_iff_run {}).mp checked failure failed⟩
    · exact .inl checked
  · rintro (refused | ⟨failure, failed, -⟩)
    · rcases Engine.run_of_refused refused {} with ⟨failure, failed, -⟩
      exact ⟨failure, by rw [failed]⟩
    · exact ⟨failure, failed⟩

theorem printed_runScript {environment : Environment} {settings : Settings} {script source : Text}
    (isDefault : settings.engine.depth = defaultDepth)
    (read : environment.tree.read environment.folder script = .ok source)
    (refused : Layout.verify source ≠ none) :
    (runScript environment settings script).printed = [] := by
  rw [ne_eq, ← Engine.check_eq_none_iff_verify isDefault] at refused
  rcases Engine.run_of_refused refused {} with ⟨failure, failed, -⟩
  simp only [runScript, read, failed]
  rfl

end Command

/-- All validators agree and guard execution. A check accepts a source exactly if no engine of the
same depth, recovering or not, fails on it with a lexical or a syntax fault; what a check refuses is
never run, so nothing is printed. With the default depth a check accepts what layout accepts, and so
do the commands that check, lay out and run a script: they end with bad data where the source is
refused, and else only if it fails while running. -/
theorem Engine.validators_agree :
    (∀ (engine : Engine) (recovers : Bool) (source : Text) (sink : Sink),
      (engine.check source = none ↔ ∀ failure,
        (run { engine with recovers } source sink).2 = some failure → ¬failure.IsStatic) ∧
      (engine.check source ≠ none →
        ∃ failure, run { engine with recovers } source sink = (sink, some failure))) ∧
    (∀ (engine : Engine) (source : Text), engine.depth = defaultDepth →
      (engine.check source = none ↔ Layout.verify source = none)) ∧
    (∀ (environment : Environment) (script source : Text),
      environment.tree.read environment.folder (Path.absolute environment.folder script).text =
          .ok source →
        ((Command.performCheck environment defaultDepth script).status = .badData ↔
          Layout.verify source ≠ none)) ∧
    (∀ (environment : Environment) (task : Formatting.Task) (target source : Text) (path : Path),
      environment.tree.find environment.folder target = .ok (.file path source) →
        Formatting.isScript path →
        ((Formatting.perform task environment [target]).status = .badData ↔
          Layout.verify source ≠ none)) ∧
    (∀ (environment : Environment) (settings : Settings) (script source : Text),
      settings.engine.depth = defaultDepth →
        environment.tree.read environment.folder script = .ok source →
        ((Command.runScript environment settings script).status = .badData ↔
          Layout.verify source ≠ none ∨
            ∃ failure, (settings.engine.run source {}).2 = some failure ∧ ¬failure.IsStatic) ∧
        (Layout.verify source ≠ none →
          (Command.runScript environment settings script).printed = [])) := by
  refine ⟨?_, ?_, ?_, ?_, ?_⟩
  · intro engine recovers source sink
    -- A check does not look at how the engine reads.
    have same : engine.check source = check { engine with recovers } source := rfl
    rw [same]
    refine ⟨check_eq_none_iff_run sink, ?_⟩
    intro refused
    rcases run_of_refused refused sink with ⟨failure, failed, -⟩
    exact ⟨failure, failed⟩
  · intro engine source isDefault
    exact check_eq_none_iff_verify isDefault
  · intro environment script source read
    exact Command.status_performCheck read
  · intro environment task target source path found script
    exact Formatting.status_perform task found script
  · intro environment settings script source isDefault read
    exact ⟨Command.status_runScript isDefault read, Command.printed_runScript isDefault read⟩

/-- A sum with a stray character in place of its second operand: a lexical fault, and a syntax fault
on the same line. -/
def straySum : Text :=
  text "print 1 + #;"

/-- An environment with one script. -/
def straySumScript : Environment where
  tree := { files := [([text "sum.lax"], straySum)] }

theorem Engine.validators_agree_straySum :
    check {} straySum ≠ none ∧
      (∃ failure, run { recovers := true } straySum {} = ({}, some failure)) ∧
      Layout.verify straySum ≠ none ∧
      (Command.performCheck straySumScript defaultDepth (text "sum.lax")).status = .badData ∧
      (Formatting.perform ⟨false, true⟩ straySumScript [text "sum.lax"]).status = .badData ∧
      (Command.runScript straySumScript {} (text "sum.lax")).status = .badData ∧
      (Command.runScript straySumScript {} (text "sum.lax")).printed = [] := by
  have refused : check {} straySum ≠ none := by decide +kernel
  rcases validators_agree with ⟨guards, layout, checks, formats, runs⟩
  have unverified : Layout.verify straySum ≠ none := by
    rwa [ne_eq, ← layout {} straySum rfl]
  have ran := runs straySumScript {} (text "sum.lax") straySum rfl rfl
  refine ⟨refused, (guards {} true straySum {}).2 refused, unverified, ?_, ?_, ?_, ?_⟩
  · exact (checks straySumScript (text "sum.lax") straySum rfl).mpr unverified
  · exact (formats straySumScript ⟨false, true⟩ (text "sum.lax") straySum [text "sum.lax"] rfl
      (by decide)).mpr unverified
  · exact ran.1.mpr (.inl unverified)
  · exact ran.2 unverified

end Scriptlet
