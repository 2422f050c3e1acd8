import Scriptlet.Session.Basic

/-!
# The screen of a terminal session

A header, as much of the history as fits, the help panel on demand, the input field and a footer.
-/

namespace Scriptlet.Session

/-- A text of one or more lines as the screen shows it. -/
def shown (content : Text) : Text :=
  Cells.block id content

/-- The keys and commands that the help panel explains. -/
def helpLines : List (String × String) :=
  [("↑/↓", "Navigate line history"),
    ("Tab", "Complete keyword"),
    ("Enter", "Run line (empty line exits)"),
    (":ast", "Show an expression in prefix form"),
    (":eval", "Evaluate and print an expression"),
    (":help", "Toggle this help"),
    (":clear", "Clear history"),
    (":quit", "Exit REPL")]

/-- One line of the help panel; the first column is eight characters wide. -/
def helpLine (name description : String) : Text :=
  text "  " ++ text name ++ Text.spaces (8 - name.length) ++ text "  " ++ text description

/-- Repeats a text. -/
def repeated (count : Nat) (part : Text) : Text :=
  (List.replicate count part).flatten

/-- The help panel in its border. -/
def helpPanel : Text :=
  let lines := text "Help" :: helpLines.map fun (name, description) => helpLine name description
  let columns := (lines.map Cells.width).foldl max 0
  let rule := repeated (columns + 2) (text "─")
  let row (line : Text) : Text :=
    text "│ " ++ line ++ Text.spaces (columns - Cells.width line) ++ text " │"
  Text.joinWith [Text.newline]
    ([text "╭" ++ rule ++ text "╮"] ++ lines.map row ++ [text "╰" ++ rule ++ text "╯"])

/-- The lines of an entry's output or error, each behind a mark. -/
def marked (mark : String) (content : Text) : Text :=
  if content.isEmpty then []
  else content.lines.flatMap fun line =>
    text "  " ++ shown (text mark ++ line) ++ [Text.newline]

/-- One entry of the history. -/
def entryView (entry : Entry) : Text :=
  (if entry.input.isEmpty then [] else text "  › " ++ entry.input ++ [Text.newline]) ++
    marked "→ " entry.output ++ marked "✗ " entry.error ++ [Text.newline]

/-- How many entries of the history fit on the screen. -/
def room (session : Session) : Nat :=
  (session.height - (if session.showsHelp then 18 else 8)).toNat

/-- The whole screen. -/
def view (session : Session) : Text :=
  if !session.sized then text "Loading..."
  else if session.quitting then shown (text "Goodbye!\n")
  else
    let rule := repeated (min (session.width - 2) 60).toNat (text "─")
    let entries := session.entries.drop (session.entries.length - session.room)
    text " Lax REPL \n" ++ rule ++ text "\n\n" ++ entries.flatMap entryView ++
      (if session.showsHelp then helpPanel ++ [Text.newline] else []) ++
      shown session.prompt ++ session.field.view ++
      text "\n\nctrl+k help  ctrl+l clear  enter on empty line quits"

end Scriptlet.Session
