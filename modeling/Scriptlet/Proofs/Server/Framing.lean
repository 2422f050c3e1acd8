import Mathlib.Data.List.DropRight
import Scriptlet.Proofs.Number.Grammar
import Scriptlet.Proofs.Server.Documents
import Scriptlet.Proofs.Text.Lines

/-!
# Framing round-trips

A payload in its frame is read back whatever it holds and whatever follows it, because the header
says how many bytes to take and the reader looks at none of them. So a stream of frames is read
frame by frame, and serving it is handling the messages in it one after the other. What is sent is
framed in the same way and can be read back in the same way.
-/

namespace Scriptlet

namespace Text

theorem trimEnd_append {item : UInt8} {front : Text} (fresh : item ∉ front) :
    trimEnd (· = item) (front ++ [item]) = front := by
  have kept : List.rdropWhile (· = item) front = front := by
    rw [List.rdropWhile_eq_self_iff]
    intro nonempty
    simpa using ne_of_mem_of_not_mem (List.getLast_mem nonempty) fresh
  exact (List.rdropWhile_concat_pos _ _ _ (by simp)).trans kept

theorem trim_space (rest : Text) : trim (32 :: rest) = trim rest := by
  have starts : glyphs (32 :: rest) = .char ' ' :: glyphs rest :=
    glyphsFrom_cons_of_ascii (by decide) [] rest
  have isSpace : Glyph.isSpace (.char ' ') := by decide
  simp only [trim, starts, List.dropWhile_cons_of_pos isSpace]

theorem trim_eq_self {source : Text} (noSpace : ∀ glyph ∈ source.glyphs, ¬glyph.isSpace) :
    trim source = source := by
  have front : source.glyphs.dropWhile Glyph.isSpace = source.glyphs :=
    List.dropWhile_eq_self_iff.mpr fun _ => noSpace _ (List.getElem_mem _)
  have back : source.glyphs.reverse.dropWhile Glyph.isSpace = source.glyphs.reverse :=
    List.dropWhile_eq_self_iff.mpr fun _ => noSpace _ (List.mem_reverse.mp (List.getElem_mem _))
  rw [trim, front, back, List.reverse_reverse, join_glyphs]

theorem not_isSpace_of_digits {digits : Text}
    (areDigits : ∀ digit ∈ digits, Numeral.isDigit digit) :
    ∀ glyph ∈ digits.glyphs, ¬glyph.isSpace := by
  induction digits with
  | nil => simp [glyphs_eq_glyphsFrom]
  | cons digit rest ih =>
      rw [List.forall_mem_cons] at areDigits
      have bounds := Numeral.isDigit_iff.mp areDigits.1
      have ascii : digit < 0x80 := by
        rw [UInt8.lt_iff_toNat_lt]
        exact Nat.lt_of_le_of_lt bounds.2 (by decide)
      have starts : glyphs (digit :: rest) = .char (Char.ofNat digit.toNat) :: glyphs rest :=
        glyphsFrom_cons_of_ascii ascii [] rest
      rw [starts, List.forall_mem_cons]
      refine ⟨?_, ih areDigits.2⟩
      have noSpace : ∀ code < 58, 48 ≤ code → ¬Glyph.isSpace (.char (Char.ofNat code)) := by
        decide
      exact noSpace digit.toNat (Nat.lt_succ_of_le bounds.2) bounds.1

end Text

namespace Integer

theorem digit?_of_isDigit {digit : UInt8} (isDigit : Numeral.isDigit digit) :
    digit? 10 digit = some (Numeral.digitValue digit) := by
  have bounds := Numeral.isDigit_iff.mp isDigit
  have small : Numeral.digitValue digit < 10 := by
    simp only [Numeral.digitValue, isDigit, if_true]
    omega
  simp [digit?, Numeral.isHexDigit, isDigit, small]

theorem readDigits_eq_ok {digits : Text} (areDigits : ∀ digit ∈ digits, Numeral.isDigit digit)
    {value : Nat}
    (fits : value * Nat.pow 10 digits.length + Numeral.ofDigits 10 digits < Nat.pow 2 64) :
    readDigits false 10 value digits =
      .ok (value * Nat.pow 10 digits.length + Numeral.ofDigits 10 digits) := by
  rw [← Numeral.foldl_ofDigits] at fits ⊢
  induction digits generalizing value with
  | nil => rfl
  | cons digit rest ih =>
      rw [List.forall_mem_cons] at areDigits
      rw [List.foldl_cons] at fits ⊢
      -- The value so far only grows, so it fits because the whole number does.
      have prefixFits : value * 10 + Numeral.digitValue digit < Nat.pow 2 64 := by
        rw [Numeral.foldl_ofDigits] at fits
        refine Nat.lt_of_le_of_lt ?_ (Nat.lt_of_le_of_lt (Nat.le_add_right _ _) fits)
        exact Nat.le_mul_of_pos_right _ (Nat.pow_pos (by decide))
      simp only [readDigits, Bool.false_and, digit?_of_isDigit areDigits.1, prefixFits, if_true]
      exact ih areDigits.2 fits

theorem readDecimal_ofNat {number : Nat} (fits : number < Nat.pow 2 63) :
    readDecimal (Text.ofNat number) = .ok number := by
  have areDigits := @Text.isDigit_of_mem_ofNat number
  have noSign : Numeral.splitSign (Text.ofNat number) = (false, Text.ofNat number) :=
    Numeral.Sign.none.splitSign_append (Numeral.unsigned_of_isDigit areDigits)
  have read : readDigits false 10 0 (Text.ofNat number) = .ok number := by
    have read := @readDigits_eq_ok (Text.ofNat number) areDigits 0
    rw [Text.ofDigits_ofNat, Nat.zero_mul, Nat.zero_add] at read
    exact read (Nat.lt_trans fits (by decide))
  have nonempty : (Text.ofNat number).isEmpty = false := by
    simp [Text.ofNat_ne_nil]
  simp [readDecimal, noSign, nonempty, read, signed, fits]

end Integer

/-- A text whose length is an integer of 64 bits, as lengths of texts are. -/
def Text.Fits (content : Text) : Prop :=
  content.length < Nat.pow 2 63

namespace Server

theorem declared?_framed {payload : Text} (fits : payload.Fits) :
    declared? (text "Content-Length: " ++ Text.ofNat payload.length) =
      some (.ok payload.length) := by
  have cut : Text.cut? (· = byte ':') (text "Content-Length: " ++ Text.ofNat payload.length) =
      some (text "Content-Length", 32 :: Text.ofNat payload.length) := by
    have spelled : text "Content-Length: " = text "Content-Length" ++ [byte ':', 32] := by decide
    rw [spelled, List.append_assoc]
    exact Text.cut?_append (by decide) _
  have name : (text "Content-Length").trim.map Numeral.lower = text "content-length" := by decide
  have value : Text.trim (32 :: Text.ofNat payload.length) = Text.ofNat payload.length := by
    rw [Text.trim_space]
    exact Text.trim_eq_self (Text.not_isSpace_of_digits Text.isDigit_of_mem_ofNat)
  simp only [declared?, cut, name, if_true, value, length?, Integer.readDecimal_ofNat fits]

theorem headers_line {line : Text} (noNewline : Text.newline ∉ line)
    (noReturn : Text.carriageReturn ∉ line) (length : Int) (rest : Text) :
    headers length (line ++ Text.carriageReturn :: Text.newline :: rest) =
      if line.isEmpty then .body length rest
      else match declared? line with
        | none => headers length rest
        | some (.ok declared) => headers declared rest
        | some (.error failure) => .failed failure := by
  have cut : Text.cut? (· = Text.newline) (line ++ Text.carriageReturn :: Text.newline :: rest) =
      some (line ++ [Text.carriageReturn], rest) := by
    rw [List.append_cons]
    refine Text.cut?_append ?_ rest
    rw [List.mem_append, not_or]
    exact ⟨noNewline, by decide⟩
  have trimmed : Text.trimEnd (· = Text.carriageReturn) (line ++ [Text.carriageReturn]) = line :=
    Text.trimEnd_append noReturn
  rw [headers]
  split
  · rename_i none
    rw [cut] at none
    cases none
  · rename_i found
    rw [cut] at found
    cases found
    generalize Text.trimEnd (· = Text.carriageReturn) (line ++ [Text.carriageReturn]) = kept
      at trimmed ⊢
    subst trimmed
    rfl

theorem not_mem_header {item : UInt8} (noDigit : ¬Numeral.isDigit item)
    (unnamed : item ∉ text "Content-Length: ") (payload : Text) :
    item ∉ text "Content-Length: " ++ Text.ofNat payload.length := by
  rw [List.mem_append, not_or]
  refine ⟨unnamed, ?_⟩
  intro member
  exact noDigit (Text.isDigit_of_mem_ofNat item member)

/-- A payload in its frame is read back, whatever it holds and whatever follows. -/
theorem frame_framed {payload : Text} (fits : payload.Fits) (rest : Text) :
    frame (framed payload ++ rest) = .payload payload rest := by
  have lines : framed payload ++ rest =
      (text "Content-Length: " ++ Text.ofNat payload.length) ++
        Text.carriageReturn :: Text.newline ::
          ([] ++ Text.carriageReturn :: Text.newline :: (payload ++ rest)) := by
    have breaks : text "\r\n\r\n" =
        [Text.carriageReturn, Text.newline, Text.carriageReturn, Text.newline] := by decide
    simp [framed, breaks]
  have named : (text "Content-Length: " ++ Text.ofNat payload.length).isEmpty = false := by
    have starts : text "Content-Length: " ≠ [] := by decide
    simp [starts]
  have found : headers (-1) (framed payload ++ rest) = .body payload.length (payload ++ rest) := by
    have noNewline := @not_mem_header Text.newline (by decide) (by decide) payload
    have noReturn := @not_mem_header Text.carriageReturn (by decide) (by decide) payload
    rw [lines, headers_line noNewline noReturn, named, declared?_framed fits]
    exact headers_line List.not_mem_nil List.not_mem_nil _ _
  simp [frame, found]

theorem frame_nil : frame [] = .ended := by
  simp [frame, headers, Text.cut?]

/-- The messages up to the first one that says goodbye, which is the last one handled. -/
def untilExit : List Inbound → List Inbound
  | [] => []
  | message :: rest =>
      if message.method = text "exit" then [message] else message :: untilExit rest

theorem converse_of_payload {input content rest : Text}
    (found : frame input = .payload content rest) (documents : Documents) :
    converse documents input =
      if (reply documents content).isLast then ((reply documents content).sent, none)
      else ((reply documents content).sent ++
          (converse (reply documents content).documents rest).1,
        (converse (reply documents content).documents rest).2) := by
  rw [converse]
  split
  · rename_i ended
    rw [found] at ended
    cases ended
  · rename_i failed
    rw [found] at failed
    cases failed
  · rename_i read
    rw [found] at read
    cases read
    rfl

theorem converse_nil (documents : Documents) : converse documents [] = ([], none) := by
  rw [converse]
  split
  · rfl
  · rename_i failed
    rw [frame_nil] at failed
    cases failed
  · rename_i read
    rw [frame_nil] at read
    cases read

theorem converse_framed (documents : Documents) {payloads : List Text}
    (fit : ∀ payload ∈ payloads, payload.Fits) :
    converse documents (payloads.flatMap framed) =
      ((run documents (untilExit (payloads.filterMap message?))).2, none) := by
  induction payloads generalizing documents with
  | nil => exact converse_nil documents
  | cons payload rest ih =>
      rw [List.forall_mem_cons] at fit
      rw [List.flatMap_cons, converse_of_payload (frame_framed fit.1 _)]
      cases read : message? payload with
      | none => simp [reply, read, ih _ fit.2]
      | some message =>
          by_cases isExit : message.method = text "exit"
          · simp [reply, read, isExit, untilExit, run]
          · simp [reply, read, isExit, untilExit, run, ih _ fit.2]

/-- A stream whose frames have the given payloads: reading it frame by frame yields them, and then
the stream ends. -/
inductive Carries : Text → List Text → Prop where
  | ended {input : Text} (found : frame input = .ended) : Carries input []
  | payload {input content rest : Text} {contents : List Text}
      (found : frame input = .payload content rest) (more : Carries rest contents) :
      Carries input (content :: contents)

theorem carries_framed {payloads : List Text}
    (fit : ∀ payload ∈ payloads, payload.Fits) :
    Carries (payloads.flatMap framed) payloads := by
  induction payloads with
  | nil => exact .ended frame_nil
  | cons payload rest ih =>
      rw [List.forall_mem_cons] at fit
      rw [List.flatMap_cons]
      exact .payload (frame_framed fit.1 _) (ih fit.2)

/-- Framing round-trips, and serving is a fold. A stream of frames with any payloads makes the
server handle the messages among them in order, up to and including the first one that says goodbye;
payloads that are no message are passed over, and serving does not fail. Reading frame by frame what
was sent yields the encodings of the messages sent, in order, and then the stream ends. -/
theorem serve_folds_frames (payloads : List Text) (fit : ∀ payload ∈ payloads, payload.Fits) :
    serve (payloads.flatMap framed) =
        ((run [] (untilExit (payloads.filterMap message?))).2.flatMap Outbound.bytes, none) ∧
      ((∀ sent ∈ (run [] (untilExit (payloads.filterMap message?))).2, sent.toJson.render.Fits) →
        Carries (serve (payloads.flatMap framed)).1
          ((run [] (untilExit (payloads.filterMap message?))).2.map fun sent =>
            sent.toJson.render)) := by
  have served : serve (payloads.flatMap framed) =
      ((run [] (untilExit (payloads.filterMap message?))).2.flatMap Outbound.bytes, none) := by
    rw [serve, converse_framed [] fit]
  refine ⟨served, ?_⟩
  intro sentFit
  rw [served]
  generalize (run [] (untilExit (payloads.filterMap message?))).2 = sent at sentFit
  have carried := carries_framed (List.forall_mem_map.mpr sentFit)
  rwa [List.flatMap_map] at carried

/-- A payload that looks like a frame, a request with an unknown method, a goodbye, and a request
that comes too late. -/
def farewell : List Text :=
  [text "Content-Length: 2\r\n\r\n\x7b\x7d", text "\x7b\"id\":1\x7d",
    text "\x7b\"method\":\"exit\"\x7d", text "\x7b\"id\":2\x7d"]

/-- The answer to the one request that is handled. -/
def farewellAnswer : Text :=
  text "\x7b\"jsonrpc\":\"2.0\",\"id\":1," ++
    text "\"error\":\x7b\"code\":-32601,\"message\":\"method not found\"\x7d\x7d"

theorem serve_folds_farewell :
    (∀ payload ∈ farewell, payload.Fits) ∧
      (serve (farewell.flatMap framed)).2 = none ∧
      Carries (serve (farewell.flatMap framed)).1 [farewellAnswer] := by
  have fit : ∀ payload ∈ farewell, payload.Fits := by
    unfold Text.Fits
    decide
  rcases serve_folds_frames farewell fit with ⟨served, carried⟩
  have encodings : (run [] (untilExit (farewell.filterMap message?))).2.map
      (fun sent => sent.toJson.render) = [farewellAnswer] := by
    decide +kernel
  refine ⟨fit, by rw [served], ?_⟩
  rw [← encodings]
  apply carried
  unfold Text.Fits
  decide +kernel

end Server

end Scriptlet
