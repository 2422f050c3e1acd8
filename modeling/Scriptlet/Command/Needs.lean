import Scriptlet.Command.Performing

/-!
# What commands need

Which files a command can look at, so that a caller can collect them before the command is
performed.
-/

namespace Scriptlet.Command

/-- The written paths that a command looks at, given the settings that the environment names. -/
def paths (settings : Text) : Command → List Text
  | .run path _ scripts => (if path.isEmpty then settings else path) :: scripts
  | .check _ script => [script]
  | .format _ _ targets => targets
  | .generate out grammar =>
      [grammar, out] ++ NodeGrammar.families.map (NodeGrammar.filePath out)
  | .evaluate .. | .serve | .help => []

/-- Whether a command looks at everything below its paths. -/
def looksBelow : Command → Bool
  | .format .. => true
  | _ => false

end Scriptlet.Command
