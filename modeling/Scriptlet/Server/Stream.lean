import Scriptlet.Number.Integer
import Scriptlet.Server.Handling

/-!
# The server's byte stream

Messages travel in frames: header lines, an empty line, and as many bytes as the headers declare. A
stream that ends between frames or inside headers ends the conversation; one that ends inside a
payload is a failure. Payloads that are no message are skipped.
-/

namespace Scriptlet

namespace Server

/-- What is wrong with a declared length. -/
def lengthReason : Integer.Misread → Text
  | .malformed => text "invalid syntax"
  | .outOfRange => text "value out of range"

/-- Why a declared length cannot be read. -/
def lengthFailure (value : Text) (misread : Integer.Misread) : Failure :=
  .within (text "invalid Content-Length")
    (.plain (text "strconv.Atoi: parsing " ++ Quoted.ofText value ++ text ": " ++
      lengthReason misread))

/-- Reads a decimal integer with an optional sign. -/
def length? (value : Text) : Except Failure Int :=
  match Integer.readDecimal value with
  | .ok number => .ok number
  | .error misread => .error (lengthFailure value misread)

/-- The length that a header line declares, if it is the header that does. -/
def declared? (line : Text) : Option (Except Failure Int) :=
  match line.cut? (· = byte ':') with
  | none => none
  | some (name, value) =>
      if name.trim.map Numeral.lower = text "content-length" then some (length? value.trim)
      else none

/-- What stands before a payload. -/
inductive Headers where
  | ended
  | failed (failure : Failure)
  | body (length : Int) (rest : Text)

/-- Reads header lines up to the empty one; the last declaration counts. -/
def headers (length : Int) (input : Text) : Headers :=
  match _found : input.cut? (· = Text.newline) with
  | none => .ended
  | some (line, rest) =>
      let line := Text.trimEnd (· = Text.carriageReturn) line
      if line.isEmpty then .body length rest
      else match declared? line with
        | none => headers length rest
        | some (.ok declared) => headers declared rest
        | some (.error failure) => .failed failure
termination_by input.length
decreasing_by
  · exact Text.length_lt_of_cut? _found
  · exact Text.length_lt_of_cut? _found

theorem length_lt_of_headers {length declared : Int} {input rest : Text}
    (found : headers length input = .body declared rest) : rest.length < input.length := by
  fun_induction headers length input with
  | case1 => simp at found
  | case2 length input line after cut trimmed =>
    simp only [Headers.body.injEq] at found
    rw [← found.2]
    exact Text.length_lt_of_cut? cut
  | case3 length input line after cut trimmed nonempty none ih =>
    exact Nat.lt_trans (ih found) (Text.length_lt_of_cut? cut)
  | case4 length input line after cut trimmed nonempty next found' ih =>
    exact Nat.lt_trans (ih found) (Text.length_lt_of_cut? cut)
  | case5 => simp at found

/-- The next frame of a stream. -/
inductive Frame where
  | ended
  | failed (failure : Failure)
  | payload (content rest : Text)

/-- Reads a frame. A declared length beyond the end of the stream is reported as such, also one that
no memory could hold; reserving the room for that one would abort the program. -/
def frame (input : Text) : Frame :=
  match headers (-1) input with
  | .ended => .ended
  | .failed failure => .failed failure
  | .body length rest =>
      if length < 0 then .failed (.plain (text "missing Content-Length header"))
      else if length.toNat ≤ rest.length then
        .payload (rest.take length.toNat) (rest.drop length.toNat)
      else if rest.isEmpty then .ended
      else .failed (.plain (text "unexpected EOF"))

theorem length_lt_of_frame {input content rest : Text}
    (found : frame input = .payload content rest) : rest.length < input.length := by
  unfold frame at found
  split at found
  · simp at found
  · simp at found
  · rename_i length after read
    have shorter := length_lt_of_headers read
    split at found
    · simp at found
    · split at found
      · simp only [Frame.payload.injEq] at found
        rw [← found.2, List.length_drop]
        omega
      · split at found <;> simp at found

/-- The message that a payload holds. -/
def message? (payload : Text) : Option Inbound :=
  (Json.ofSource? payload).bind Inbound.ofJson?

/-- What a payload causes: the documents after it, what is sent, and whether it is the last one. -/
structure Reply where
  documents : Documents
  sent : List Outbound := []
  isLast : Bool := false

/-- Replies to a payload; one that is no message is skipped. -/
def reply (documents : Documents) (payload : Text) : Reply :=
  match message? payload with
  | none => { documents }
  | some message =>
      let (next, sent) := handle documents message
      { documents := next, sent, isLast := message.method = text "exit" }

/-- Converses with a client until it says goodbye or its stream ends: what is sent, and why the
conversation failed if it did. -/
def converse (documents : Documents) (input : Text) : List Outbound × Option Failure :=
  match _found : frame input with
  | .ended => ([], none)
  | .failed failure => ([], some failure)
  | .payload content rest =>
      let answer := reply documents content
      if answer.isLast then (answer.sent, none)
      else
        let (more, failure) := converse answer.documents rest
        (answer.sent ++ more, failure)
termination_by input.length
decreasing_by exact length_lt_of_frame _found

/-- A payload in its frame. -/
def framed (payload : Text) : Text :=
  text "Content-Length: " ++ Text.ofNat payload.length ++ text "\r\n\r\n" ++ payload

/-- The bytes that carry a message. -/
def Outbound.bytes (message : Outbound) : Text :=
  framed message.toJson.render

/-- Serves a stream: the bytes sent, and why serving failed if it did. -/
def serve (input : Text) : Text × Option Failure :=
  let (sent, failure) := converse [] input
  (sent.flatMap Outbound.bytes, failure)

end Server

end Scriptlet
