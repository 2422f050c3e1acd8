import Scriptlet.Engine
import Scriptlet.Text.Words

/-!
# Traces

What an engine logs about a source when asked to: how many tokens it has, each token, and each
statement read. A record is a line of keys and values; values that could be misread are quoted, and
a value of several lines is set off below its key.
-/

namespace Scriptlet

/-- One line of a log: what happened, and details. -/
structure Record where
  event : Text
  details : List (Text × Text)

namespace Record

/-- How a character shows in a value when it cannot stand for itself. -/
def escaped (character : Char) : Text :=
  if Category.isPrintable character then String.utf8EncodeChar character
  else match Quoted.letter? character with
    | some letter => [byte '\\', byte letter]
    | none =>
        if character.toNat < 0x20 then Quoted.hexByte character.toNat
        else Quoted.numbered character

/-- Whether a character makes a value be spelled out. -/
def isSpecial (character : Char) : Bool :=
  character = '"' || !Category.isPrintable character

/-- Spells out a value that holds special characters; double quotes are escaped on demand. -/
def spelled (escapeQuotes : Bool) (value : Text) : Text :=
  if value.scalars.any isSpecial then
    value.scalars.flatMap fun character =>
      if escapeQuotes && character = '"' then text "\\\"" else escaped character
  else
    value

/-- Whether a character makes a value be quoted. -/
def needsQuotes (character : Char) : Bool :=
  character = '=' || character = '\uFFFD' || Category.isSpace character || isSpecial character

/-- One line of a value of several lines. -/
def indented (line : Text) : Text :=
  text "  │ " ++ spelled false line

/-- A value of several lines; an empty line at the end is not shown. -/
def indentedLines (value : Text) : Text :=
  let lines := value.lines
  let last := lines.getLastD []
  Text.joinWith [Text.newline]
    (lines.dropLast.map indented ++ [if last.isEmpty then [] else indented last])

/-- One detail with what separates it from what comes before. -/
def detail (key value : Text) : Text :=
  if value.isEmpty then text " " ++ key ++ text "=\"\""
  else if Text.newlines value ≠ 0 then
    text "\n  " ++ key ++ text "=\n" ++ indentedLines value
  else if value.scalars.any needsQuotes then
    text " " ++ key ++ text "=\"" ++ spelled true value ++ text "\""
  else
    text " " ++ key ++ text "=" ++ value

/-- The text of a record. -/
def render (record : Record) : Text :=
  text "DEBU lax: " ++ record.event ++
    record.details.flatMap (fun (key, value) => detail key value) ++ [Text.newline]

/-- A token was scanned. -/
def ofToken (token : Token) : Record where
  event := text "token"
  details := [(text "line", Text.ofInt token.line), (text "type", text token.kind.name),
    (text "lexeme", token.lexeme)]

/-- A statement was read. -/
def ofStatement (statement : Statement) : Record where
  event := text "parsed"
  details := [(text "line", Text.ofInt statement.line), (text "stmt", statement.form)]

/-- What scanning tokens logs. -/
def ofTokens (tokens : List Token) : List Record :=
  { event := text "scanned", details := [(text "tokens", Text.ofNat tokens.length)] } ::
    tokens.map ofToken

end Record

namespace Engine

/-- What reading a source as an expression logs. -/
def expressionTrace (source : Text) : List Record :=
  match tokens source with
  | .ok tokens => Record.ofTokens tokens
  | .error _ => []

/-- What running a source logs. -/
def runTrace (engine : Engine) (source : Text) : List Record :=
  match tokens source with
  | .ok tokens =>
      Record.ofTokens tokens ++
        match engine.statements tokens with
        | .ok statements => statements.map Record.ofStatement
        | .error _ => []
  | .error _ => []

end Engine

end Scriptlet
