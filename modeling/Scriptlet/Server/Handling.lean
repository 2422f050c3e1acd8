import Scriptlet.Server.Diagnostic
import Scriptlet.Server.Message
import Scriptlet.Server.Word

/-!
# The language server

The server keeps the texts of the open documents and answers messages: it publishes the diagnostics
of a document whenever its text changes, offers the reserved words for completion, and says what
kind of word stands at a place. A message that cannot be read changes nothing.
-/

namespace Scriptlet.Server

/-- The open documents: names with their texts. -/
abbrev Documents := List (Text × Text)

namespace Documents

/-- The text of a document. -/
def get? (documents : Documents) (uri : Text) : Option Text :=
  (documents.find? fun entry => entry.1 = uri).map (·.2)

/-- Forgets a document. -/
def erase (documents : Documents) (uri : Text) : Documents :=
  documents.filter fun entry => entry.1 ≠ uri

/-- Stores the text of a document. -/
def insert (documents : Documents) (uri content : Text) : Documents :=
  documents.erase uri ++ [(uri, content)]

end Documents

/-- What the server can do, told to a client at the start. -/
def capabilities : Json :=
  .ofMembers
    [("capabilities", .ofMembers
      [("completionProvider", .ofMembers [("resolveProvider", .bool false)]),
        ("hoverProvider", .bool true),
        ("textDocumentSync", .ofInt 1)]),
      ("serverInfo", .ofMembers [("name", .ofText (text "lax-lsp"))])]

/-- The reserved words as completions. -/
def completions : Json :=
  .ofMembers
    [("isIncomplete", .bool false),
      ("items", .array (Keyword.all.map fun keyword =>
        .ofMembers [("detail", .ofText (text "keyword")), ("kind", .ofInt 14),
          ("label", .ofText keyword.text)]))]

/-- The notification that lists the diagnostics of a document. -/
def published (uri : Text) (diagnostics : List Diagnostic) : Outbound :=
  .notification (text "textDocument/publishDiagnostics")
    (.ofMembers [("diagnostics", .array (diagnostics.map Diagnostic.toJson)), ("uri", .ofText uri)])

/-- Stores the text of a document and publishes its diagnostics. -/
def store (documents : Documents) (uri content : Text) : Documents × List Outbound :=
  (documents.insert uri content, [published uri (Diagnostic.ofSource {} content)])

/-- What is said about a word. -/
def hover (word : Text) : Json :=
  .ofMembers [("contents", .ofMembers
    [("kind", .ofText (text "markdown")),
      ("value", .ofText (text "\x60" ++ word ++ text "\x60\n\nLax " ++
        text (Word.classify word).name))])]

/-- Answers a question about a place. -/
def answerHover (documents : Documents) (id : Json) (params : Option Json) : Outbound :=
  match params.bind position? with
  | none => .error (some id) (-32602) (text "invalid hover params")
  | some position =>
      let content := (documents.get? position.uri).getD []
      let word := Word.atPosition content position.line position.character
      .result (some id) (if word.isEmpty then none else some (hover word))

/-- The methods that the server knows. -/
inductive Method where
  | start
  | silent
  | shutdown
  | didOpen
  | didChange
  | didClose
  | completion
  | hover
  | unknown
  deriving DecidableEq, Repr

/-- The method with a name. -/
def Method.ofName (name : Text) : Method :=
  match name.toString with
  | "initialize" => .start
  | "initialized" => .silent
  | "exit" => .silent
  | "shutdown" => .shutdown
  | "textDocument/didOpen" => .didOpen
  | "textDocument/didChange" => .didChange
  | "textDocument/didClose" => .didClose
  | "textDocument/completion" => .completion
  | "textDocument/hover" => .hover
  | _ => .unknown

/-- Answers a request, which has an identifier. -/
def answer (documents : Documents) (message : Inbound) (reply : Json → Outbound) :
    Documents × List Outbound :=
  (documents, (message.id.map reply).toList)

/-- Handles a message: the documents after it, and what is sent. -/
def handle (documents : Documents) (message : Inbound) : Documents × List Outbound :=
  match Method.ofName message.method with
  | .start => (documents, [.result message.id (some capabilities)])
  | .silent => (documents, [])
  | .shutdown => answer documents message fun id => .result (some id) none
  | .didOpen =>
      match message.params.bind opened? with
      | some document => store documents document.uri document.content
      | none => (documents, [])
  | .didChange =>
      match message.params.bind changed? with
      | some change =>
          match change.contents.getLast? with
          | some content => store documents change.uri content
          | none => (documents, [])
      | none => (documents, [])
  | .didClose =>
      match message.params.bind closed? with
      | some uri => (documents.erase uri, [published uri []])
      | none => (documents, [])
  | .completion => answer documents message fun id => .result (some id) (some completions)
  | .hover => answer documents message fun id => answerHover documents id message.params
  | .unknown =>
      answer documents message fun id => .error (some id) (-32601) (text "method not found")

end Scriptlet.Server
