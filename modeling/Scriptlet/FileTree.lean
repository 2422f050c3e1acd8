import Scriptlet.Text.Basic

/-!
# File trees

The files and folders that commands work on, as one value. A path is the list of names from the
root. Files are kept with their paths; a folder exists if it is the root, if it is listed, or if
something lies below it. Paths as they are written on a command line are texts: they may be relative
and may hold points, and `FileTree.find` follows them name by name from the working folder.
-/

namespace Scriptlet

/-- The names that lead from the root to a file or folder. -/
abbrev Path := List Text

namespace Path

/-- The byte between two names. -/
def separator : UInt8 := 47

/-- The name of the folder itself. -/
def here : Text := [46]

/-- The name of the folder around a folder. -/
def parent : Text := [46, 46]

/-- The text of a path from the root. -/
def text (path : Path) : Text :=
  separator :: Text.joinWith [separator] path

/-- The names in a written path, empty ones included. -/
def names (written : Text) : List Text :=
  written.pieces separator

/-- Whether a written path starts at the root. -/
def isAbsolute (written : Text) : Bool :=
  written.head? = some separator

/-- Takes one name of a written path without looking at any tree; the root has no parent. -/
def enter (path : Path) (name : Text) : Path :=
  if name.isEmpty || name = here then path
  else if name = parent then path.dropLast
  else path ++ [name]

/-- The path that a written path spells, seen from a working folder. -/
def absolute (folder : Path) (written : Text) : Path :=
  (names written).foldl enter (if isAbsolute written then [] else folder)

/-- Takes one name of a relative written path: what cannot be undone stays. -/
def enterRelative (done : List Text) (name : Text) : List Text :=
  if name.isEmpty || name = here then done
  else if name = parent && !(done.isEmpty || done.getLast? = some parent) then done.dropLast
  else done ++ [name]

/-- The shortest way to write the same path. -/
def clean (written : Text) : Text :=
  if isAbsolute written then text (absolute [] written)
  else
    let names := (names written).foldl enterRelative []
    if names.isEmpty then here else Text.joinWith [separator] names

/-- Whether a path lies below another one. -/
def isBelow (folder path : Path) : Bool :=
  folder.isPrefixOf path && folder.length < path.length

end Path

/-- Why a path does not lead where it should. -/
inductive Obstacle where
  | missing
  | notFolder
  | isFolder
  | occupied
  deriving DecidableEq, Repr

/-- The wording of an obstacle. -/
def Obstacle.message : Obstacle → Text
  | .missing => text "no such file or directory"
  | .notFolder => text "not a directory"
  | .isFolder => text "is a directory"
  | .occupied => text "file exists"

/-- Files with their contents, and folders that may hold nothing. -/
structure FileTree where
  files : List (Path × Text) := []
  folders : List Path := []

namespace FileTree

/-- The content of a file. -/
def file? (tree : FileTree) (path : Path) : Option Text :=
  tree.files.lookup path

/-- Whether a path leads to a folder. -/
def hasFolder (tree : FileTree) (path : Path) : Bool :=
  path.isEmpty || tree.folders.contains path ||
    (tree.files.any fun entry => path.isBelow entry.1) || tree.folders.any path.isBelow

/-- Puts a file into a tree, in place of the one at its path. -/
def write (tree : FileTree) (path : Path) (content : Text) : FileTree :=
  if (tree.file? path).isSome then
    { tree with files := tree.files.map fun entry =>
        if entry.1 = path then (path, content) else entry }
  else
    { tree with files := tree.files ++ [(path, content)] }

/-- Puts a folder into a tree. -/
def addFolder (tree : FileTree) (path : Path) : FileTree :=
  { tree with folders := tree.folders ++ [path] }

/-- Takes one name of a written path: only a folder can be entered. -/
def enter (tree : FileTree) (path : Path) (name : Text) : Except Obstacle Path :=
  if (tree.file? path).isSome then .error .notFolder
  else if tree.hasFolder path then .ok (path.enter name)
  else .error .missing

/-- Follows the names of a written path from a folder. -/
def follow (tree : FileTree) (folder : Path) (names : List Text) : Except Obstacle Path :=
  names.foldlM tree.enter folder

/-- What a path leads to. -/
inductive Node where
  | file (path : Path) (content : Text)
  | folder (path : Path)

/-- What a written path leads to, seen from a working folder. -/
def find (tree : FileTree) (folder : Path) (written : Text) : Except Obstacle Node :=
  if written.isEmpty then .error .missing
  else do
    let path ← tree.follow (if Path.isAbsolute written then [] else folder) (Path.names written)
    match tree.file? path with
    | some content => .ok (.file path content)
    | none => if tree.hasFolder path then .ok (.folder path) else .error .missing

/-- Why a file cannot be read: its path as written, and whether opening or reading fails. -/
structure Unread where
  written : Text
  obstacle : Obstacle

/-- The wording of why a file cannot be read; a folder can be opened but not read. -/
def Unread.message (unread : Unread) : Text :=
  text (if unread.obstacle = .isFolder then "read " else "open ") ++ unread.written ++
    text ": " ++ unread.obstacle.message

/-- The content of the file at a written path. -/
def read (tree : FileTree) (folder : Path) (written : Text) : Except Unread Text :=
  match tree.find folder written with
  | .ok (.file _ content) => .ok content
  | .ok (.folder _) => .error ⟨written, .isFolder⟩
  | .error obstacle => .error ⟨written, obstacle⟩

/-- Writes the file at a written path, whose folder must exist. -/
def save (tree : FileTree) (folder : Path) (written content : Text) :
    Except Obstacle FileTree :=
  match tree.find folder written with
  | .ok (.file path _) => .ok (tree.write path content)
  | .ok (.folder _) => .error .isFolder
  | .error _ => do
      let names := Path.names written
      let around ← tree.follow (if Path.isAbsolute written then [] else folder) names.dropLast
      let path ← tree.enter around (names.getLastD [])
      .ok (tree.write path content)

/-- Makes the folder at a written path, whose own folder must exist. -/
def makeFolder (tree : FileTree) (folder : Path) (written : Text) : Except Obstacle FileTree := do
  let names := (Path.names written).reverse.dropWhile List.isEmpty |>.reverse
  let around ← tree.follow (if Path.isAbsolute written then [] else folder) names.dropLast
  let path ← tree.enter around (names.getLastD [])
  if (tree.file? path).isSome || tree.hasFolder path then .error .occupied
  else .ok (tree.addFolder path)

/-- The written path of a folder and those of the folders on the way to it, from the inside out. A
separator more than needed stays behind the name before it. -/
def ways (written : Text) : List Text :=
  outward written written.length
where
  /-- Leaves out the last name and goes on; every name takes at least one byte of the fuel. -/
  outward (written : Text) : Nat → List Text
    | 0 => []
    | fuel + 1 =>
        if written.isEmpty then []
        else
          let named := Text.trimEnd (· = Path.separator) written
          written :: outward (Text.trimEnd (· ≠ Path.separator) named).dropLast fuel

/-- The folders that have to be made, from the outside in: those further in than the first one that
is there. Where a file is in the way, nothing is to be made. -/
def missingFolders (tree : FileTree) (folder : Path) :
    List Text → Except (Text × Obstacle) (List Text)
  | [] => .ok []
  | written :: around =>
      match tree.find folder written with
      | .ok (.folder _) => .ok []
      | .ok (.file ..) => .error (written, .notFolder)
      | .error _ => (tree.missingFolders folder around).map (· ++ [written])

/-- Makes a folder, unless there is one by now. -/
def ensureFolder (tree : FileTree) (folder : Path) (written : Text) :
    Except (Text × Obstacle) FileTree :=
  match tree.makeFolder folder written with
  | .ok made => .ok made
  | .error obstacle =>
      match tree.find folder written with
      | .ok (.folder _) => .ok tree
      | _ => .error (written, obstacle)

/-- Makes folders one after the other. Those made before one fails stay. -/
def makeFolders (tree : FileTree) (folder : Path) :
    List Text → FileTree × Option (Text × Obstacle)
  | [] => (tree, none)
  | written :: rest =>
      match tree.ensureFolder folder written with
      | .ok next => makeFolders next folder rest
      | .error problem => (tree, some problem)

/-- Makes the folder at a written path together with all folders on the way. An empty path leads
nowhere. -/
def ensureFolders (tree : FileTree) (folder : Path) (written : Text) :
    FileTree × Option (Text × Obstacle) :=
  if written.isEmpty then (tree, some (written, .missing))
  else match tree.missingFolders folder (ways written) with
  | .ok missing => tree.makeFolders folder missing
  | .error problem => (tree, some problem)

/-- The paths of all files in a folder and below. -/
def filesBelow (tree : FileTree) (folder : Path) : List Path :=
  (tree.files.map Prod.fst).filter folder.isBelow

end FileTree

end Scriptlet
