import Scriptlet.Command.Needs

/-!
# The command line

Collects what a command needs, performs it, and puts what it leaves behind where it belongs.
Sessions and servers talk to somebody who waits for answers, so they read and answer piece by piece.
-/

namespace Scriptlet.Shell

/-- The bytes of a text. -/
def bytes (content : Text) : ByteArray :=
  ByteArray.mk content.toArray

/-- Writes to a stream at once. -/
def emit (stream : IO.FS.Stream) (content : Text) : IO Unit := do
  stream.write (bytes content)
  stream.flush

/-- Reads a line with the line feed at its end; the last one may lack it. -/
partial def readLine (stream : IO.FS.Stream) (done : Array UInt8) : IO Text := do
  match (← stream.read 1).data.toList with
  | [] => return done.toList
  | next :: _ =>
      if next = Text.newline then return (done.push next).toList
      else readLine stream (done.push next)

/-- Reads the given number of bytes, or fewer at the end of the stream. -/
partial def readBytes (stream : IO.FS.Stream) (count : Nat) (done : ByteArray) : IO Text := do
  if count = 0 then return done.data.toList
  let piece ← stream.read (USize.ofNat (min count 65536))
  if piece.isEmpty then return done.data.toList
  readBytes stream (count - piece.size) (done ++ piece)

/-- Reads a frame as far as it goes. -/
partial def readFrame (stream : IO.FS.Stream) (done : Text) : IO Text := do
  let line ← readLine stream #[]
  let done := done ++ line
  if line.isEmpty then return done
  match Server.headers (-1) done with
  | .ended => readFrame stream done
  | .failed _ => return done
  | .body length _ => return done ++ (← readBytes stream length.toNat ByteArray.empty)

/-- Serves an editor frame by frame. -/
partial def serve (input output errors : IO.FS.Stream) (documents : Server.Documents) :
    IO UInt32 := do
  match Server.frame (← readFrame input []) with
  | .ended => return 0
  | .failed failure =>
      emit errors (failure.text ++ [Text.newline])
      return 1
  | .payload content _ =>
      let reply := Server.reply documents content
      emit output (reply.sent.flatMap Server.Outbound.bytes)
      if reply.isLast then return 0 else serve input output errors reply.documents

/-- Holds a session line by line. -/
partial def converse (input output errors : IO.FS.Stream) (session : LineSession) : IO Unit := do
  emit output session.prompt
  let exchange := session.answer (← readLine input #[])
  emit errors exchange.notes
  emit output (exchange.printed.drop session.prompt.length)
  if !exchange.isLast then converse input output errors session

/-- The name by which the system knows a path. -/
def systemName (path : Path) : String :=
  path.text.toString

/-- Adds what is at a path to a tree, and on demand what is below it. -/
partial def collect (below : Bool) (tree : FileTree) (path : Path) : IO FileTree := do
  let here := (← IO.currentDir) / systemName path
  if ← here.isDir then
    let mut tree := tree.addFolder path
    if below then
      for entry in ← here.readDir do
        tree ← collect below tree (path ++ [text entry.fileName])
    return tree
  else if ← here.pathExists then
    return tree.write path (← IO.FS.readBinFile here).data.toList
  else
    return tree

/-- Collects what a command looks at. -/
def gather (folder : Path) (settings : Text) (command : Command) : IO FileTree := do
  let mut tree : FileTree := { folders := [folder] }
  for written in command.paths settings do
    for way in FileTree.ways written do
      tree ← collect (command.looksBelow && way = written) tree (Path.absolute folder way)
  return tree

/-- Stores what changed between two trees. -/
def store (before after : FileTree) : IO Unit := do
  for path in after.folders do
    if !before.folders.contains path then
      IO.FS.createDirAll (systemName path)
  for (path, content) in after.files do
    if before.file? path ≠ some content then
      IO.FS.writeBinFile (systemName path) (bytes content)

end Scriptlet.Shell

open Scriptlet Scriptlet.Shell in
/-- Performs what the arguments ask for. -/
def main (arguments : List String) : IO UInt32 := do
  let input ← IO.getStdin
  let output ← IO.getStdout
  let errors ← IO.getStderr
  let arguments := arguments.map text
  let settings := text ((← IO.getEnv "LAX_CONFIG").getD "")
  let folder := Path.absolute [] (text (← IO.currentDir).toString)
  let conclude (before : FileTree) (outcome : Outcome) : IO UInt32 := do
    emit output outcome.printed
    emit errors outcome.notes
    store before outcome.tree
    return UInt32.ofNat outcome.status.code
  match Command.ofArguments arguments with
  | .error problem => conclude {} (.misused {} problem)
  | .ok command =>
      let tree ← gather folder settings command
      let environment : Environment := { tree, folder, settings }
      match command with
      | .serve => serve input output errors []
      | .run path logs [] =>
          match Command.loadSettings environment path logs with
          | .error _ => conclude tree (command.perform environment)
          | .ok settings =>
              converse input output errors (Command.session settings)
              return 0
      | _ => conclude tree (command.perform environment)
