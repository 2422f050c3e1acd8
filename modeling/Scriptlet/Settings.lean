import Scriptlet.Engine
import Scriptlet.FileTree
import Scriptlet.Report
import Scriptlet.Yaml.Decoding

/-!
# Settings

What a user can set in a file: the prompt, the colours of reports, how deeply expressions may nest,
whether reading recovers from faults, and how much is logged. A file that says nothing about a
setting keeps its default; a file that says something unknown or impossible is refused.
-/

namespace Scriptlet

/-- When reports are coloured. -/
inductive ColourChoice where
  | auto
  | always
  | never
  deriving DecidableEq, Repr

namespace ColourChoice

/-- The word for a choice of colours. -/
def word : ColourChoice → Text
  | .auto => text "auto"
  | .always => text "always"
  | .never => text "never"

/-- The choice that a word stands for. -/
def ofWord? (word : Text) : Option ColourChoice :=
  [auto, always, never].find? fun choice => choice.word = word

/-- The colours of reports that do not go to a terminal. -/
def colour : ColourChoice → Colour
  | .always => .always
  | _ => .plain

end ColourChoice

/-- How much is logged. -/
inductive LogLevel where
  | debug
  | info
  | warn
  | error
  | fatal
  deriving DecidableEq, Repr

namespace LogLevel

/-- The word for a level. -/
def word : LogLevel → String
  | .debug => "debug"
  | .info => "info"
  | .warn => "warn"
  | .error => "error"
  | .fatal => "fatal"

/-- The lower-case form of a character, as far as a level can be spelled with it: the dotted capital
I counts as an i. -/
def lowerCase (character : Char) : Char :=
  if character = '\u0130' then 'i' else character.toLower

/-- The level that a word stands for in any mixture of cases. -/
def ofWord? (word : Text) : Option LogLevel :=
  [debug, info, warn, error, fatal].find? fun level =>
    level.word.toList = word.scalars.map lowerCase

end LogLevel

/-- What a user can set. -/
structure Settings where
  prompt : Text := text "> "
  colour : ColourChoice := .auto
  depth : Nat := defaultDepth
  recovers : Bool := false
  level : LogLevel := .warn
  /-- The level as it was written. -/
  levelWord : Text := text "warn"

namespace Settings

/-- Settings as a file gives them, before they are checked. -/
structure Draft where
  prompt : Text := text "> "
  colour : Text := text "auto"
  depth : Int := defaultDepth
  recovers : Bool := false
  level : Text := text "warn"

/-- How settings are written in a file. -/
def format : Yaml.RecordFormat Draft where
  type := "main.cliConfig"
  strict := true
  fields := [
    .of "prompt" Yaml.toText fun prompt draft => { draft with prompt },
    .of "color" Yaml.toText fun colour draft => { draft with colour },
    .of "max_depth" Yaml.toInt fun depth draft => { draft with depth },
    .of "recover_parse_errors" Yaml.toBool fun recovers draft => { draft with recovers },
    .of "log_level" Yaml.toText fun level draft => { draft with level }]

/-- A setting with an impossible value. -/
inductive Invalid where
  | colour (word : Text)
  | depth (value : Int)
  | level (word : Text)
  deriving DecidableEq

/-- The wording of an impossible value. -/
def Invalid.message : Invalid → Text
  | .colour word => text "color must be auto, always or never, got " ++ Quoted.ofText word
  | .depth value => text "max_depth must not be negative, got " ++ Text.ofInt value
  | .level word => text "log_level: invalid level: " ++ Quoted.ofText word

/-- Checks settings: colours first, then the depth, then the level. -/
def Draft.check (draft : Draft) : Except Invalid Settings :=
  match ColourChoice.ofWord? draft.colour with
  | none => .error (.colour draft.colour)
  | some colour =>
      if draft.depth < 0 then .error (.depth draft.depth)
      else match LogLevel.ofWord? draft.level with
        | none => .error (.level draft.level)
        | some level =>
            .ok { prompt := draft.prompt, colour, depth := draft.depth.toNat
                  recovers := draft.recovers, level, levelWord := draft.level }

/-- Why settings cannot be loaded. -/
inductive Unloaded where
  | unread (found : FileTree.Unread)
  | unreadable (written : Text) (found : Yaml.Unreadable)
  | invalid (written : Text) (found : Invalid)

/-- The wording of why settings cannot be loaded. -/
def Unloaded.message : Unloaded → Text
  | .unread found => text "read config: " ++ found.message
  | .unreadable written found => text "parse config " ++ written ++ text ": " ++ found.message
  | .invalid written found => text "config " ++ written ++ text ": " ++ found.message

/-- Loads the settings at a written path; the empty path stands for the defaults. -/
def load (tree : FileTree) (folder : Path) (written : Text) : Except Unloaded Settings :=
  if written.isEmpty then .ok {}
  else match tree.read folder written with
    | .error found => .error (.unread found)
    | .ok source =>
        match Yaml.readRecord format {} source with
        | .error found => .error (.unreadable written found)
        | .ok draft =>
            match draft.check with
            | .error found => .error (.invalid written found)
            | .ok settings => .ok settings

/-- The engine that settings describe. -/
def engine (settings : Settings) : Engine where
  depth := depthLimit settings.depth
  recovers := settings.recovers

end Settings

end Scriptlet
