import Scriptlet.Text.Cluster

/-!
# Control sequences

A terminal does not show everything it is sent: some bytes begin sequences that set colours, move
the cursor or carry strings to the terminal itself. `Control.feed` follows such sequences byte by
byte, and `Control.columns` counts the columns of what is left to show. A byte that opens a
character outside a string ends any sequence; the cluster that begins there is shown.
-/

namespace Scriptlet

/-- Where a terminal is in a control sequence. -/
inductive Control where
  /-- Outside all sequences. -/
  | ground
  /-- Behind an escape. -/
  | escape
  /-- Behind an escape and a byte that announces one more. -/
  | escapeMore
  /-- In the parameters of a control sequence. -/
  | parameters
  /-- Behind the parameters of a control sequence, before its last byte. -/
  | parametersMore
  /-- At the start of a device control string. -/
  | device
  /-- In the parameters of a device control string. -/
  | deviceParameters
  /-- Behind the parameters of a device control string. -/
  | deviceMore
  /-- In the data of a device control string. -/
  | deviceData
  /-- In a command to the operating system. -/
  | command
  /-- In any other string. -/
  | string
  deriving DecidableEq, Repr

namespace Control

/-- What a byte does. -/
inductive Effect where
  /-- It belongs to a sequence, or ends one. -/
  | hidden (next : Control)
  /-- It is shown. -/
  | shown
  /-- It opens a character that is shown. -/
  | opens
  deriving DecidableEq, Repr

/-- What a byte does where no rule of the place itself applies. -/
def anywhere (byte : UInt8) : Effect :=
  if byte = 0x1b then .hidden .escape
  else if byte = 0x90 then .hidden .device
  else if byte = 0x98 || byte = 0x9e || byte = 0x9f then .hidden .string
  else if byte = 0x9b then .hidden .parameters
  else if byte = 0x9d then .hidden .command
  else if 0xc2 ≤ byte && byte ≤ 0xf4 then .opens
  else .hidden .ground

/-- The control characters that most places pass over: all but the ones that end a sequence. -/
def isPassed (byte : UInt8) : Bool :=
  byte < 0x20 && byte ≠ 0x18 && byte ≠ 0x1a && byte ≠ 0x1b

/-- Whether a byte lies between two others. -/
def within (first last byte : UInt8) : Bool :=
  first ≤ byte && byte ≤ last

/-- What a byte does behind an escape. -/
def feedEscape (byte : UInt8) : Effect :=
  if isPassed byte || byte = 0x7f then .hidden .escape
  else if within 0x20 0x2f byte then .hidden .escapeMore
  else if byte = 0x58 || byte = 0x5e || byte = 0x5f then .hidden .string
  else if byte = 0x50 then .hidden .device
  else if byte = 0x5b then .hidden .parameters
  else if byte = 0x5d then .hidden .command
  else anywhere byte

/-- What a byte does in a device control string before its data. -/
def feedDevice (place : Control) (byte : UInt8) : Effect :=
  if byte = 0x7f then .hidden place
  else if within 0x20 0x2f byte then .hidden .deviceMore
  else if place = .device && (within 0x08 0x0d byte || byte = 0x1b) then .hidden .deviceData
  else if isPassed byte then .hidden place
  else if within 0x30 0x3f byte then
    .hidden (if place = .deviceMore then .deviceData else .deviceParameters)
  else if within 0x40 0x7e byte then .hidden .deviceData
  else anywhere byte

/-- What a byte does at a place. -/
def feed (place : Control) (byte : UInt8) : Effect :=
  match place with
  | .ground => if within 0x20 0x7e byte then .shown else anywhere byte
  | .escape => feedEscape byte
  | .escapeMore =>
      if isPassed byte || within 0x20 0x2f byte || byte = 0x7f then .hidden .escapeMore
      else anywhere byte
  | .parameters =>
      if isPassed byte || within 0x30 0x3f byte || byte = 0x7f then .hidden .parameters
      else if within 0x20 0x2f byte then .hidden .parametersMore
      else anywhere byte
  | .parametersMore =>
      if isPassed byte || within 0x20 0x2f byte || byte = 0x7f then .hidden .parametersMore
      else anywhere byte
  | .device => feedDevice .device byte
  | .deviceParameters => feedDevice .deviceParameters byte
  | .deviceMore => feedDevice .deviceMore byte
  | .deviceData =>
      if byte = 0x1b then .hidden .escape
      else if byte = 0x9c || byte = 0x18 || byte = 0x1a then .hidden .ground
      else .hidden .deviceData
  | .command =>
      if byte = 0x1b then .hidden .escape
      else if byte = 0x9c || byte = 0x18 || byte = 0x1a || byte = 0x07 then .hidden .ground
      else .hidden .command
  | .string => if isPassed byte || within 0x20 0x7f byte then .hidden .string else anywhere byte

/-- Where a terminal is while it shows a text: in a sequence, or in a cluster that may go on. -/
inductive Showing where
  | sequence (place : Control)
  | cluster (unfinished : Cluster)

/-- The columns of a cluster that is complete. -/
def Showing.width : Showing → Nat
  | .sequence _ => 0
  | .cluster unfinished => unfinished.width

/-- Sends the bytes of a glyph one at a time; only the first can open a character. -/
def sendBytes (place : Control) : Text → Control × Nat
  | [] => (place, 0)
  | byte :: rest =>
      match place.feed byte with
      | .hidden next => sendBytes next rest
      | .opens => sendBytes .ground rest
      | .shown =>
          let (last, columns) := sendBytes .ground rest
          (last, columns + 1)

/-- Sends a glyph to a terminal that is in a sequence. -/
def send (place : Control) (glyph : Glyph) : Showing × Nat :=
  match (glyph.bytes.head?).map place.feed with
  | some .opens => (.cluster (Cluster.start glyph.scalar), 0)
  | _ =>
      let (last, columns) := place.sendBytes glyph.bytes
      (.sequence last, columns)

/-- The columns of glyphs that are sent to a terminal. -/
def columnsFrom (showing : Showing) : List Glyph → Nat
  | [] => showing.width
  | glyph :: rest =>
      match showing with
      | .sequence place =>
          let (next, columns) := place.send glyph
          columns + columnsFrom next rest
      | .cluster unfinished =>
          match unfinished.extend? glyph.scalar with
          | some longer => columnsFrom (.cluster longer) rest
          | none =>
              let (next, columns) := Control.ground.send glyph
              unfinished.width + columns + columnsFrom next rest

/-- The columns that a text takes on a terminal. -/
def columns (source : Text) : Nat :=
  columnsFrom (.sequence .ground) source.glyphs

end Control

end Scriptlet
