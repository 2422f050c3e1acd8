import Scriptlet.Proofs.Text.Lines
import Scriptlet.Session.Basic

/-!
# Lines of a session are isolated

All lines of a session print to one buffer, and a line that fails leaves there what it printed
before. No message changes the session's engine or gives the buffer a bound, and emptying the buffer
drops all that lines can leave in it. So a line that prints starts from an empty buffer, whatever
happened before, and its entry is the one it would have on an engine of its own.
-/

namespace Scriptlet

/-- A sink without a bound, whatever was printed to it. -/
def Sink.IsOpen (sink : Sink) : Prop :=
  sink.emptied = {}

theorem Sink.IsOpen.emptied {sink : Sink} (isOpen : sink.IsOpen) : sink.emptied.IsOpen :=
  isOpen

theorem Sink.IsOpen.write {sink next : Sink} (isOpen : sink.IsOpen) {line : Text}
    (written : sink.write line = .ok next) : next.IsOpen := by
  rcases sink with ⟨room, reason, lines⟩
  cases isOpen
  cases written
  rfl

theorem Statement.isOpen_of_run {statement : Statement} {sink next : Sink} (isOpen : sink.IsOpen)
    (ran : statement.run sink = .ok next) : next.IsOpen := by
  cases statement with
  | absent => cases ran
  | expression expr =>
      rw [run] at ran
      split at ran <;> cases ran
      exact isOpen
  | print expr line =>
      rw [run] at ran
      split at ran
      · exact isOpen.write ran
      · cases ran

/-- A run leaves the sink open, also if it fails. -/
theorem Program.isOpen_run {sink : Sink} (isOpen : sink.IsOpen) (statements : List Statement) :
    (run sink statements).1.IsOpen := by
  induction statements generalizing sink with
  | nil => exact isOpen
  | cons statement rest ih =>
      rw [run]
      split
      · rename_i ran
        exact ih (Statement.isOpen_of_run isOpen ran)
      · exact isOpen

theorem Expr.isOpen_runPrinted {sink : Sink} (isOpen : sink.IsOpen) (expr : Expr) :
    (expr.runPrinted sink).1.IsOpen := by
  rw [runPrinted]
  split
  · exact isOpen
  · split
    · rename_i written
      exact isOpen.write written
    · exact isOpen

namespace Engine

theorem isOpen_run (engine : Engine) (source : Text) {sink : Sink} (isOpen : sink.IsOpen) :
    (engine.run source sink).1.IsOpen := by
  rw [run]
  split
  · exact Program.isOpen_run isOpen _
  · exact isOpen

theorem isOpen_evaluate (engine : Engine) (source : Text) {sink : Sink} (isOpen : sink.IsOpen) :
    (engine.evaluate source sink).1.IsOpen := by
  rw [evaluate]
  split
  · exact Expr.isOpen_runPrinted isOpen _
  · exact isOpen

end Engine

namespace Session

/-- A session on an engine, with an open buffer. -/
structure IsOn (engine : Engine) (session : Session) : Prop where
  engine_eq : session.engine = engine
  isOpen : session.printed.IsOpen

namespace IsOn

variable {engine : Engine} {session : Session}

theorem record (isOn : session.IsOn engine) (entry : Entry) : (session.record entry).IsOn engine :=
  ⟨isOn.engine_eq, isOn.isOpen⟩

theorem run (isOn : session.IsOn engine) (input : Text) : (session.run input).IsOn engine :=
  ⟨isOn.engine_eq, session.engine.isOpen_run input isOn.isOpen.emptied⟩

theorem evaluate (isOn : session.IsOn engine) (input argument : Text) :
    (session.evaluate input argument).IsOn engine :=
  ⟨isOn.engine_eq, session.engine.isOpen_evaluate argument isOn.isOpen.emptied⟩

theorem recallPrevious (isOn : session.IsOn engine) : session.recallPrevious.IsOn engine := by
  rw [Session.recallPrevious]
  split
  · exact isOn
  · split <;> exact ⟨isOn.engine_eq, isOn.isOpen⟩

theorem recallNext (isOn : session.IsOn engine) : session.recallNext.IsOn engine := by
  rw [Session.recallNext]
  split
  · exact isOn
  · split <;> exact ⟨isOn.engine_eq, isOn.isOpen⟩

theorem complete (isOn : session.IsOn engine) : session.complete.IsOn engine := by
  rw [Session.complete]
  split
  · exact isOn
  · split
    · exact isOn
    · split
      · exact isOn
      · exact ⟨isOn.engine_eq, isOn.isOpen⟩
      · exact isOn.record _

theorem command (isOn : session.IsOn engine) (input : Text) :
    (session.command input).IsOn engine := by
  unfold Session.command
  dsimp only
  split
  · exact ⟨isOn.engine_eq, isOn.isOpen⟩
  · split
    · exact ⟨isOn.engine_eq, isOn.isOpen⟩
    · split
      · exact isOn.record _
      · split
        · exact isOn.evaluate input _
        · split
          · exact ⟨isOn.engine_eq, isOn.isOpen⟩
          · exact isOn.record _

theorem reset (isOn : session.IsOn engine) : session.reset.IsOn engine :=
  ⟨isOn.engine_eq, isOn.isOpen⟩

theorem submit (isOn : session.IsOn engine) : session.submit.IsOn engine := by
  unfold Session.submit
  dsimp only
  split
  · exact ⟨isOn.engine_eq, isOn.isOpen⟩
  · split
    · exact (isOn.command session.field.content.trim).reset
    · have ran := isOn.run session.field.content
      apply reset
      exact ⟨ran.engine_eq, ran.isOpen⟩

/-- No message changes what lines run on. -/
theorem update (isOn : session.IsOn engine) (message : Message) :
    (session.update message).IsOn engine := by
  cases message with
  | set characters => exact ⟨isOn.engine_eq, isOn.isOpen⟩
  | typed characters => exact ⟨isOn.engine_eq, isOn.isOpen⟩
  | edited key => exact ⟨isOn.engine_eq, isOn.isOpen⟩
  | submitted => exact isOn.submit
  | previous => exact isOn.recallPrevious
  | next => exact isOn.recallNext
  | completed => exact isOn.complete
  | cleared => exact ⟨isOn.engine_eq, isOn.isOpen⟩
  | toggledHelp => exact ⟨isOn.engine_eq, isOn.isOpen⟩
  | quit => exact ⟨isOn.engine_eq, isOn.isOpen⟩
  | resized width height => exact ⟨isOn.engine_eq, isOn.isOpen⟩

theorem updates (isOn : session.IsOn engine) (messages : List Message) :
    (session.updates messages).IsOn engine := by
  induction messages generalizing session with
  | nil => exact isOn
  | cons message rest ih => exact ih (isOn.update message)

end IsOn

/-- A line that gives a command an argument, white space around it left out, or none. -/
inductive Gives (line name : Text) : Text → Prop where
  | nothing (alone : line.trim = name) : Gives line name []
  | argument {rest : Text} (spelled : line.trim = name ++ byte ' ' :: rest) :
      Gives line name rest.trim

variable {engine : Engine} {session : Session}

theorem Gives.cut_eq {line name argument : Text} (gives : Gives line name argument)
    (fresh : byte ' ' ∉ name) :
    ∃ rest, (Text.cut? (· = byte ' ') line.trim).getD (line.trim, []) = (name, rest) ∧
      rest.trim = argument := by
  cases gives with
  | nothing alone => exact ⟨[], by rw [alone, Text.cut?_of_not_mem fresh]; rfl, rfl⟩
  | @argument rest spelled => exact ⟨rest, by rw [spelled, Text.cut?_append fresh]; rfl, rfl⟩

/-- The names of the command that evaluates an expression. -/
def evaluators : List Text :=
  [text ":eval", text ":e"]

/-- The names of the command that shows the prefix form of an expression. -/
def formers : List Text :=
  [text ":ast", text ":a"]

theorem command_of_evaluators {line name argument : Text} (known : name ∈ evaluators)
    (gives : Gives line name argument) :
    session.command line.trim = session.evaluate line.trim argument := by
  have names : ∀ name ∈ evaluators, byte ' ' ∉ name ∧
      (name ≠ text ":help" ∧ name ≠ text ":h") ∧ (name ≠ text ":clear" ∧ name ≠ text ":c") ∧
      (name ≠ text ":ast" ∧ name ≠ text ":a") ∧ (name = text ":eval" ∨ name = text ":e") := by
    decide
  rcases names name known with ⟨fresh, noHelp, noClear, noForm, evaluates⟩
  rcases gives.cut_eq fresh with ⟨rest, cut, rfl⟩
  simp [command, cut, noHelp, noClear, noForm, evaluates]

theorem command_of_formers {line name argument : Text} (known : name ∈ formers)
    (gives : Gives line name argument) :
    session.command line.trim =
      session.record (.ofForm line.trim (session.engine.form argument)) := by
  have names : ∀ name ∈ formers, byte ' ' ∉ name ∧
      (name ≠ text ":help" ∧ name ≠ text ":h") ∧ (name ≠ text ":clear" ∧ name ≠ text ":c") ∧
      (name = text ":ast" ∨ name = text ":a") := by
    decide
  rcases names name known with ⟨fresh, noHelp, noClear, forms⟩
  rcases gives.cut_eq fresh with ⟨rest, cut, rfl⟩
  simp [command, cut, noHelp, noClear, forms]

/-- A line that starts with a command's name is obeyed. -/
theorem submit_of_gives {name argument : Text} (known : name ∈ evaluators ++ formers)
    (gives : Gives session.field.content name argument) :
    session.submit = (session.command session.field.content.trim).reset := by
  have colon : ∀ name ∈ evaluators ++ formers, name.head? = some (byte ':') := by decide
  have starts : session.field.content.trim.head? = some (byte ':') := by
    cases gives with
    | nothing alone => rw [alone, colon name known]
    | argument spelled => rw [spelled, List.head?_append, colon name known]; rfl
  have filled : session.field.content ≠ [] := by
    intro empty
    rw [empty] at starts
    cases starts
  rw [submit, if_neg (by simpa using filled), if_pos starts]

theorem IsOn.entries_of_run (isOn : session.IsOn engine) (filled : session.field.content ≠ [])
    (plain : session.field.content.trim.head? ≠ some (byte ':')) :
    session.submit.entries =
      session.entries ++ [.ofRun session.field.content (engine.run session.field.content {})] := by
  have fresh : session.printed.emptied = {} := isOn.isOpen
  rw [Session.submit, if_neg (by simpa using filled), if_neg plain, ← isOn.engine_eq, ← fresh]
  rfl

theorem IsOn.entries_of_evaluators (isOn : session.IsOn engine) {name argument : Text}
    (known : name ∈ evaluators) (gives : Gives session.field.content name argument) :
    session.submit.entries =
      session.entries ++
        [.ofEvaluation session.field.content.trim (engine.evaluate argument {})] := by
  have fresh : session.printed.emptied = {} := isOn.isOpen
  rw [submit_of_gives (List.mem_append_left _ known) gives, command_of_evaluators known gives,
    ← isOn.engine_eq, ← fresh]
  rfl

theorem IsOn.entries_of_formers (isOn : session.IsOn engine) {name argument : Text}
    (known : name ∈ formers) (gives : Gives session.field.content name argument) :
    session.submit.entries =
      session.entries ++ [.ofForm session.field.content.trim (engine.form argument)] := by
  rw [submit_of_gives (List.mem_append_right _ known) gives, command_of_formers known gives,
    ← isOn.engine_eq]
  rfl

/-- Lines are isolated. Whatever was submitted, failed, cleared or typed before, the entry of a
submitted line is the one that a new engine with the same settings gives for it: what it prints,
without line feeds at the end, and why it fails. A line that starts with no colon runs as a program;
the commands that evaluate an expression or show its prefix form do so with their argument. -/
theorem lines_are_isolated (prompt : Text) (engine : Engine) (messages : List Message) :
    let session := Session.updates { prompt, engine } messages
    let line := session.field.content
    let entries := (session.update .submitted).entries
    let printed (sink : Sink) := Text.trimEnd (· = Text.newline) sink.output
    (line ≠ [] → line.trim.head? ≠ some (byte ':') →
      entries = session.entries ++
        [{ input := line
           output := printed (engine.run line {}).1
           error := ((engine.run line {}).2.map Failure.text).getD [] }]) ∧
    (∀ name ∈ evaluators, ∀ argument, Gives line name argument →
      entries = session.entries ++
        [{ input := line.trim
           output := printed (engine.evaluate argument {}).1
           error := match (engine.evaluate argument {}).2 with
             | .ok _ => []
             | .error failure => failure.text }]) ∧
    ∀ name ∈ formers, ∀ argument, Gives line name argument →
      entries = session.entries ++
        [match engine.form argument with
          | .ok form => { input := line.trim, output := form, error := [] }
          | .error failure => { input := line.trim, output := [], error := failure.text }] := by
  have start : IsOn engine { prompt, engine } := ⟨rfl, rfl⟩
  have isOn := start.updates messages
  exact ⟨isOn.entries_of_run, fun _ known _ => isOn.entries_of_evaluators known,
    fun _ known _ => isOn.entries_of_formers known⟩

end Session

end Scriptlet
