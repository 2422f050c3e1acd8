import Scriptlet.Command.Formatting
import Scriptlet.LineSession
import Scriptlet.NodeGrammar.Generation
import Scriptlet.Server.Stream
import Scriptlet.Settings

/-!
# Performing commands

What each command does, as a function from what it finds to what it leaves behind.
-/

namespace Scriptlet.Command

/-- Runs a script. -/
def runScript (environment : Environment) (settings : Settings) (script : Text) : Outcome :=
  match environment.tree.read environment.folder script with
  | .error found => .stopped environment .noInput (text "read script: " ++ found.message)
  | .ok source =>
      let engine := settings.engine
      let (sink, failure) := engine.run source {}
      let records :=
        if settings.level = .debug then (engine.runTrace source).flatMap Record.render else []
      match failure with
      | none => { printed := sink.output, notes := records, tree := environment.tree }
      | some failure =>
          { status := .badData, printed := sink.output, tree := environment.tree
            notes := records ++ Report.ofFailure settings.colour.colour source failure }

/-- The session that settings describe. -/
def session (settings : Settings) : LineSession where
  engine := settings.engine
  prompt := settings.prompt
  colour := settings.colour.colour
  logs := settings.level = .debug

/-- Holds a session over the input. -/
def holdSession (environment : Environment) (settings : Settings) : Outcome :=
  let (printed, notes) := (session settings).run environment.input
  { printed, notes, tree := environment.tree }

/-- Loads the settings that a command line names, or else those that the environment names; a
command line that asks for logs overrides their level. -/
def loadSettings (environment : Environment) (path : Text) (logs : Bool) :
    Except Settings.Unloaded Settings :=
  let path := if path.isEmpty then environment.settings else path
  match Settings.load environment.tree environment.folder path with
  | .error found => .error found
  | .ok settings =>
      .ok (if logs then { settings with level := .debug, levelWord := text "debug" } else settings)

/-- Runs a script or holds a session. Settings are loaded before scripts are counted. -/
def performRun (environment : Environment) (path : Text) (logs : Bool) (scripts : List Text) :
    Outcome :=
  match loadSettings environment path logs with
  | .error found => .stopped environment .badSettings found.message
  | .ok settings =>
      match scripts with
      | [] => holdSession environment settings
      | [script] => runScript environment settings script
      | _ => .misused environment .tooManyScripts

/-- What is shown of an expression. -/
def shownExpression (showsForm : Bool) (source : Text) : Except Failure Text :=
  let engine : Engine := {}
  if showsForm then
    match engine.form source with
    | .ok form => .ok (form ++ [Text.newline])
    | .error failure => .error failure
  else
    let (sink, result) := engine.evaluate source {}
    match result with
    | .ok _ => .ok sink.output
    | .error failure => .error failure

/-- Evaluates an expression or shows its form. -/
def performEvaluate (environment : Environment) (showsForm : Bool) (source : Text) : Outcome :=
  match shownExpression showsForm source with
  | .ok shown => .done environment shown
  | .error failure =>
      { status := .badData, tree := environment.tree
        notes := Report.ofFailure .plain source failure }

/-- A fault in the list of a script's faults. -/
def faultLine (path : Text) (fault : Fault) : Text :=
  path ++ text ":" ++ Text.ofInt fault.line ++ text ": " ++ fault.message ++ [Text.newline]

/-- Lists the faults of a script, which is known by its full path. -/
def performCheck (environment : Environment) (depth : Int) (script : Text) : Outcome :=
  let path := (Path.absolute environment.folder script).text
  match environment.tree.read environment.folder path with
  | .error found => .stopped environment .noInput (text "read script: " ++ found.message)
  | .ok source =>
      match Engine.create depth false with
      | .error _ => .misused environment (.depth depth)
      | .ok engine =>
          match engine.faults source with
          | [] => .done environment (text "No issues found\n")
          | faults =>
              { status := .badData, tree := environment.tree
                printed := faults.flatMap (faultLine path)
                notes := text "check found " ++ Text.ofNat faults.length ++
                  text " issue(s)\n" }

/-- Generates the declarations of a grammar. -/
def generateFrom (environment : Environment) (out : Text) (grammar : NodeGrammar) : Outcome :=
  match grammar.generate environment.tree environment.folder out with
  | (tree, none) =>
      { tree, printed := NodeGrammar.families.flatMap fun family =>
          text "wrote " ++ NodeGrammar.filePath out family ++ [Text.newline] }
  | (tree, some found) =>
      { status := match found with
          | .problem _ | .unformatted .. => .badData
          | .folder .. | .file .. => .failure
        notes := found.message ++ [Text.newline], tree }

/-- Generates the declarations of the grammar at a written path, or of the standard one. -/
def performGenerate (environment : Environment) (out path : Text) : Outcome :=
  if path.isEmpty then generateFrom environment out .standard
  else match environment.tree.read environment.folder path with
    | .error found => .stopped environment .noInput (text "read grammar: " ++ found.message)
    | .ok source =>
        match NodeGrammar.ofSource source with
        | .error found =>
            .stopped environment .badData
              (text "parse grammar " ++ path ++ text ": " ++ found.message)
        | .ok grammar => generateFrom environment out grammar

/-- Serves an editor over the input. -/
def performServe (environment : Environment) : Outcome :=
  let (sent, failure) := Server.serve environment.input
  match failure with
  | none => .done environment sent
  | some failure =>
      { status := .failure, printed := sent, notes := failure.text ++ [Text.newline]
        tree := environment.tree }

/-- Performs a command. -/
def perform (environment : Environment) : Command → Outcome
  | .run settings logs scripts => performRun environment settings logs scripts
  | .evaluate showsForm source => performEvaluate environment showsForm source
  | .check depth script => performCheck environment depth script
  | .format inPlace onlyCheck targets =>
      Formatting.perform { inPlace, onlyCheck } environment targets
  | .generate out grammar => performGenerate environment out grammar
  | .serve => performServe environment
  | .help => { notes := usage, tree := environment.tree }

/-- Performs what arguments ask for. -/
def performArguments (environment : Environment) (arguments : List Text) : Outcome :=
  match ofArguments arguments with
  | .ok command => perform environment command
  | .error problem => .misused environment problem

end Scriptlet.Command
