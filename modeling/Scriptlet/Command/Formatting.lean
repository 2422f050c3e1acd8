import Scriptlet.Command.Outcome
import Scriptlet.Layout

/-!
# Laying out scripts

The command that brings scripts into canonical layout. Its targets are scripts and folders of
scripts; the scripts found are taken in the order of their paths, each once. A script with a fault
ends the command before it or any later one is touched.
-/

namespace Scriptlet.Formatting

/-- What the names of scripts end in. -/
def scriptEnding : Text :=
  text ".lax"

/-- Whether a path is that of a script. -/
def isScript (path : Path) : Bool :=
  match path.getLast? with
  | some name => scriptEnding.isSuffixOf name
  | none => false

/-- The scripts that a target stands for. -/
def targetScripts (environment : Environment) (target : Text) : Except Obstacle (List Path) :=
  match environment.tree.find environment.folder target with
  | .error obstacle => .error obstacle
  | .ok (.file path _) => .ok ([path].filter isScript)
  | .ok (.folder path) => .ok ((environment.tree.filesBelow path).filter isScript)

/-- The scripts of all targets; the first target that leads nowhere counts. -/
def allScripts (environment : Environment) : List Text → Except (Text × Obstacle) (List Path)
  | [] => .ok []
  | target :: rest =>
      match targetScripts environment target with
      | .error obstacle => .error (target, obstacle)
      | .ok found =>
          match allScripts environment rest with
          | .error problem => .error problem
          | .ok more => .ok (found ++ more)

/-- Whether a path comes before another one, by the bytes of their texts. -/
def comesBefore (first second : Path) : Bool :=
  first.text ≤ second.text

/-- Paths in order, each once. -/
def ordered (paths : List Path) : List Path :=
  (paths.eraseDups).mergeSort comesBefore

/-- What is to be done with scripts. -/
structure Task where
  inPlace : Bool
  onlyCheck : Bool

/-- How far the command has come: what it printed, the files, and how many scripts needed layout. -/
structure Progress where
  tree : FileTree
  printed : Text := []
  changed : Nat := 0

/-- Takes a script without faults. -/
def Progress.take (task : Task) (progress : Progress) (path : Path) (source : Text) : Progress :=
  let formatted := Layout.format source
  let changes := formatted ≠ source
  { tree := if task.inPlace && changes then progress.tree.write path formatted else progress.tree
    printed := if task.inPlace || task.onlyCheck then progress.printed
      else progress.printed ++ formatted
    changed := if changes then progress.changed + 1 else progress.changed }

/-- Takes scripts until one has a fault. -/
def takeAll (task : Task) (progress : Progress) : List Path → Progress × Option (Path × Failure)
  | [] => (progress, none)
  | path :: rest =>
      let source := (progress.tree.file? path).getD []
      match Layout.verify source with
      | some failure => (progress, some (path, failure))
      | none => takeAll task (progress.take task path source) rest

/-- Lays out the scripts of all targets. -/
def perform (task : Task) (environment : Environment) (targets : List Text) : Outcome :=
  match allScripts environment targets with
  | .error (target, obstacle) =>
      .stopped environment .noInput
        (text "stat " ++ target ++ text ": stat " ++ target ++ text ": " ++ obstacle.message)
  | .ok scripts =>
      match takeAll task { tree := environment.tree } (ordered scripts) with
      | (progress, some (path, failure)) =>
          { status := .badData, printed := progress.printed, tree := progress.tree
            notes := path.text ++ text ": " ++ failure.text ++ [Text.newline] }
      | (progress, none) =>
          if task.onlyCheck && progress.changed ≠ 0 then
            { status := .failure, printed := progress.printed, tree := progress.tree
              notes := text "lax fmt: " ++ Text.ofNat progress.changed ++
                text " file(s) need formatting\n" }
          else
            { printed := progress.printed, tree := progress.tree }

end Scriptlet.Formatting
