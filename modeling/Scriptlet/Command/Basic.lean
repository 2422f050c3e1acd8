import Scriptlet.Command.Flags
import Scriptlet.FileTree
import Scriptlet.Program.Reading

/-!
# Commands

What a command line asks for. The first argument may name a command; without one a script is run, or
a session is held if there is no script. What cannot be understood is a usage problem.
-/

namespace Scriptlet

/-- What a command line asks for. -/
inductive Command where
  /-- Runs a script, or holds a session; scripts beyond the first are refused when it runs. -/
  | run (settings : Text) (logs : Bool) (scripts : List Text)
  /-- Evaluates an expression, or shows its form. -/
  | evaluate (showsForm : Bool) (source : Text)
  /-- Lists the faults of a script. -/
  | check (depth : Int) (script : Text)
  /-- Lays out scripts, in place or not, or tells which need it. -/
  | format (inPlace onlyCheck : Bool) (targets : List Text)
  /-- Generates the declarations of a node grammar; without a path the standard one. -/
  | generate (out : Text) (grammar : Text)
  /-- Serves an editor. -/
  | serve
  /-- Shows how commands are used. -/
  | help
  deriving DecidableEq

/-- Why a command line is not understood. -/
inductive UsageProblem where
  | flag (found : FlagProblem)
  | expressionMissing
  | scriptMissing
  | targetMissing
  | outMissing
  | tooManyScripts
  | depth (value : Int)
  deriving DecidableEq

/-- The wording of why a command line is not understood. -/
def UsageProblem.message : UsageProblem → Text
  | .flag found => found.message
  | .expressionMissing => text "lax expr: expression required"
  | .scriptMissing => text "lax check: script path required"
  | .targetMissing => text "lax fmt: path required"
  | .outMissing => text "lax ast: -out directory required"
  | .tooManyScripts => text "lax: at most one script path allowed"
  | .depth value => (Failure.invalidDepth value).text

namespace Command

/-- How commands are used. -/
def usage : Text :=
  [ "Usage: lax [flags] [script]",
    "       lax expr [-ast] <expression>",
    "       lax check <script>",
    "       lax fmt [-w] [-check] <path>...",
    "       lax ast -out <dir> [-grammar <file>]",
    "       lax lsp",
    "Flags:",
    "  -config string",
    "    YAML config file (default $LAX_CONFIG)",
    "  -debug",
    "    log the scan and parse pipeline to stderr",
    "  -plain",
    "    use the line REPL even on a terminal",
    "Without a script, an interactive prompt starts; an empty line exits."
  ].flatMap fun line => text line ++ [Text.newline]

/-- Reads flags, and turns them and what follows them into a command. -/
def withFlags (known : List (String × FlagKind)) (arguments : List Text)
    (command : Flags → Except UsageProblem Command) : Except UsageProblem Command :=
  match Flags.read known arguments with
  | .error found => .error (.flag found)
  | .ok flags => command flags

/-- The command of arguments that name none. -/
def ofRun (arguments : List Text) : Except UsageProblem Command :=
  withFlags [("config", .word), ("debug", .switch), ("plain", .switch)] arguments fun flags =>
    .ok (.run (flags.word "config") (flags.isOn "debug") flags.rest)

/-- The command that evaluates an expression; the arguments are its words. -/
def ofEvaluate (arguments : List Text) : Except UsageProblem Command :=
  withFlags [("ast", .switch)] arguments fun flags =>
    if flags.rest.isEmpty then .error .expressionMissing
    else .ok (.evaluate (flags.isOn "ast") (Text.joinWith (text " ") flags.rest))

/-- The command that checks a script; further arguments are left alone. -/
def ofCheck (arguments : List Text) : Except UsageProblem Command :=
  withFlags [("max-depth", .integer)] arguments fun flags =>
    match flags.rest with
    | [] => .error .scriptMissing
    | script :: _ => .ok (.check (flags.integer "max-depth" defaultDepth) script)

/-- The command that lays out scripts. -/
def ofFormat (arguments : List Text) : Except UsageProblem Command :=
  withFlags [("w", .switch), ("check", .switch)] arguments fun flags =>
    if flags.rest.isEmpty then .error .targetMissing
    else .ok (.format (flags.isOn "w") (flags.isOn "check") flags.rest)

/-- The command that generates declarations. -/
def ofGenerate (arguments : List Text) : Except UsageProblem Command :=
  withFlags [("out", .word), ("grammar", .word)] arguments fun flags =>
    if (flags.word "out").isEmpty then .error .outMissing
    else .ok (.generate (flags.word "out") (flags.word "grammar"))

/-- The command that arguments ask for. -/
def ofArguments (arguments : List Text) : Except UsageProblem Command :=
  match arguments with
  | [] => ofRun []
  | first :: rest =>
      if first = text "expr" then ofEvaluate rest
      else if first = text "check" then ofCheck rest
      else if first = text "fmt" then ofFormat rest
      else if first = text "ast" then ofGenerate rest
      else if first = text "lsp" then withFlags [] rest fun _ => .ok .serve
      else if first = text "help" || first = text "-h" || first = text "--help" then .ok .help
      else ofRun arguments

end Command

end Scriptlet
