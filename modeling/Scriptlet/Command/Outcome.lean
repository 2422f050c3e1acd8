import Scriptlet.Command.Basic

/-!
# Outcomes

What a command finds when it starts, and what it leaves behind: a status, what it printed, its notes
to the user, and the files.
-/

namespace Scriptlet

/-- What a command finds when it starts. -/
structure Environment where
  tree : FileTree := {}
  folder : Path := []
  input : Text := []
  /-- The path of the settings that are used when the command line names none. -/
  settings : Text := []

/-- How a command ends. -/
inductive Status where
  | success
  | failure
  | usage
  | badData
  | noInput
  | badSettings
  deriving DecidableEq, Repr

/-- The number that a status is known by. -/
def Status.code : Status → Nat
  | .success => 0
  | .failure => 1
  | .usage => 64
  | .badData => 65
  | .noInput => 66
  | .badSettings => 78

/-- What a command leaves behind. -/
structure Outcome where
  status : Status := .success
  printed : Text := []
  notes : Text := []
  tree : FileTree

namespace Outcome

/-- Ends well after printing something. -/
def done (environment : Environment) (printed : Text) : Outcome :=
  { printed, tree := environment.tree }

/-- Ends badly, saying why, without having done anything. -/
def stopped (environment : Environment) (status : Status) (reason : Text) : Outcome :=
  { status, notes := reason ++ [Text.newline], tree := environment.tree }

/-- Ends because the command line is not understood. -/
def misused (environment : Environment) (problem : UsageProblem) : Outcome :=
  { status := .usage, notes := Command.usage ++ problem.message ++ [Text.newline]
    tree := environment.tree }

end Outcome

end Scriptlet
