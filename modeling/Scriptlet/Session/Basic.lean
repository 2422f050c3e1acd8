import Scriptlet.Engine
import Scriptlet.Session.Field
import Scriptlet.Text.Words

/-!
# Terminal sessions

An interactive session with an input field and a history. Every submitted line runs as a program of
its own on the session's engine, or is one of the session's commands, which start with a colon;
nothing carries over from one line to the next.
-/

namespace Scriptlet

/-- What the history shows about a submitted line. -/
structure Entry where
  input : Text := []
  output : Text := []
  error : Text := []
  deriving DecidableEq

/-- A terminal session. What lines print goes to a buffer that keeps what the last one printed, and
the lines that ran can be recalled into the field. -/
structure Session where
  prompt : Text
  engine : Engine
  printed : Sink := {}
  field : Field := {}
  entries : List Entry := []
  lines : List (List Char) := []
  recalled : Option Nat := none
  width : Int := 0
  height : Int := 0
  sized : Bool := false
  showsHelp : Bool := false
  quitting : Bool := false

/-- What can happen to a session. -/
inductive Message where
  | set (characters : List Char)
  | typed (characters : List Char)
  | edited (key : Field.Key)
  | submitted
  | previous
  | next
  | completed
  | cleared
  | toggledHelp
  | quit
  | resized (width height : Int)

namespace Entry

/-- Output is kept without the line feeds at its end. -/
def trimmed (sink : Sink) : Text :=
  Text.trimEnd (· = Text.newline) sink.output

/-- The entry of a line that ran as a program. -/
def ofRun (input : Text) (ran : Sink × Option Failure) : Entry :=
  { input, output := trimmed ran.1, error := (ran.2.map Failure.text).getD [] }

/-- The entry of a command that evaluated an expression. -/
def ofEvaluation (input : Text) (evaluated : Sink × Except Failure Value) : Entry :=
  { input
    output := trimmed evaluated.1
    error := match evaluated.2 with
      | .ok _ => []
      | .error failure => failure.text }

/-- The entry of a command that shows the prefix form of an expression. -/
def ofForm (input : Text) (form : Except Failure Text) : Entry :=
  match form with
  | .ok form => { input, output := form }
  | .error failure => { input, error := failure.text }

end Entry

/-- Drops all that was printed. -/
def Sink.emptied (sink : Sink) : Sink :=
  { sink with written := [] }

namespace Session

/-- Adds an entry to the history. -/
def record (session : Session) (entry : Entry) : Session :=
  { session with entries := session.entries ++ [entry] }

/-- Runs a line as a program. What it printed before it failed is kept. -/
def run (session : Session) (input : Text) : Session :=
  let ran := session.engine.run input session.printed.emptied
  { session.record (.ofRun input ran) with printed := ran.1 }

/-- Evaluates the argument of a command. -/
def evaluate (session : Session) (input argument : Text) : Session :=
  let evaluated := session.engine.evaluate argument session.printed.emptied
  { session.record (.ofEvaluation input evaluated) with printed := evaluated.1 }

/-- Recalls a line into the field. -/
def revisit (session : Session) (index : Nat) : Session :=
  { session with
    recalled := some index
    field := session.field.setToEnd ((session.lines[index]?).getD []) }

/-- Recalls the line before the recalled one, or the last line. -/
def recallPrevious (session : Session) : Session :=
  if session.lines.isEmpty then session
  else match session.recalled with
    | none => session.revisit (session.lines.length - 1)
    | some index => session.revisit (index - 1)

/-- Recalls the line after the recalled one; behind the last line the field is empty. -/
def recallNext (session : Session) : Session :=
  match session.recalled with
  | none => session
  | some index =>
      if index + 1 < session.lines.length then session.revisit (index + 1)
      else { session with recalled := none, field := session.field.setToEnd [] }

/-- The reserved words that start with a text. -/
def completions (word : Text) : List Keyword :=
  Keyword.all.filter fun keyword => word.isPrefixOf keyword.text

/-- Drops an ending from a text that has it. -/
def withoutEnding (ending source : Text) : Text :=
  if ending.isSuffixOf source then source.take (source.length - ending.length) else source

/-- Completes the last word of the field to the only reserved word that starts with it, or lists
the reserved words that do. -/
def complete (session : Session) : Session :=
  let input := session.field.content
  match input.words.getLast? with
  | none => session
  | some word =>
      if input.getLast? = some (byte ' ') then session
      else match completions word with
        | [] => session
        | [keyword] =>
            { session with
              field := session.field.setToEnd
                (withoutEnding word input ++ keyword.text).scalars }
        | keywords =>
            session.record
              { output := text "Completions: " ++
                  Text.joinWith (text ", ") (keywords.map Keyword.text) }

/-- Empties the field after a submitted line. -/
def reset (session : Session) : Session :=
  { session with field := session.field.set [], recalled := none }

/-- Obeys a command, given without white space around it. -/
def command (session : Session) (input : Text) : Session :=
  let (name, argument) := (Text.cut? (· = byte ' ') input).getD (input, [])
  let argument := argument.trim
  if name = text ":help" || name = text ":h" then
    { session with showsHelp := !session.showsHelp }
  else if name = text ":clear" || name = text ":c" then
    { session with entries := [] }
  else if name = text ":ast" || name = text ":a" then
    session.record (.ofForm input (session.engine.form argument))
  else if name = text ":eval" || name = text ":e" then
    session.evaluate input argument
  else if name = text ":quit" || name = text ":q" then
    { session with quitting := true }
  else
    session.record { input, error := text "Unknown command: " ++ name }

/-- Submits the field: an empty one ends the session, a command is obeyed, a line runs. -/
def submit (session : Session) : Session :=
  let input := session.field.content
  let trimmed := input.trim
  if input.isEmpty then { session with quitting := true }
  else if trimmed.head? = some (byte ':') then (session.command trimmed).reset
  else
    reset { session.run input with lines := session.lines ++ [session.field.value] }

/-- What a message does to a session. -/
def update (session : Session) : Message → Session
  | .set characters => { session with field := session.field.set characters }
  | .typed characters => { session with field := session.field.type characters }
  | .edited key => { session with field := session.field.press key }
  | .submitted => session.submit
  | .previous => session.recallPrevious
  | .next => session.recallNext
  | .completed => session.complete
  | .cleared => { session with entries := [] }
  | .toggledHelp => { session with showsHelp := !session.showsHelp }
  | .quit => { session with quitting := true }
  | .resized width height =>
      { session with
        width, height, sized := true
        field := { session.field with width := width - 10 } }

/-- What messages do to a session, one after the other. -/
def updates (session : Session) (messages : List Message) : Session :=
  messages.foldl update session

/-- The message of a key by its name. -/
def Message.ofKey? (name : String) : Option Message :=
  match name with
  | "up" => some .previous
  | "down" => some .next
  | "tab" => some .completed
  | "enter" => some .submitted
  | "ctrl+c" | "ctrl+d" => some .quit
  | "ctrl+l" => some .cleared
  | "ctrl+k" => some .toggledHelp
  | "left" => some (.edited .left)
  | "right" => some (.edited .right)
  | "home" => some (.edited .home)
  | "end" => some (.edited .finish)
  | "backspace" => some (.edited .backspace)
  | "delete" => some (.edited .delete)
  | "ctrl+u" => some (.edited .clearBefore)
  | "ctrl+w" => some (.edited .deleteWord)
  | _ => none

end Session

end Scriptlet
