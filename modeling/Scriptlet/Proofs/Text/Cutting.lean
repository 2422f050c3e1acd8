import Scriptlet.Text.Basic

/-!
# Cutting texts into glyphs

A text is cut into glyphs in one pass that remembers the bytes of an unfinished character. This file
says what the cut is without the pass: `Text.CutInto` takes the encoding of a character off the
front where there is one, and a stray byte where no character starts. In particular no byte is lost,
gained or moved.

The pass is described by `Text.glyphsFrom`, which starts with bytes already pending. Its equations
say what the next byte does, and later proofs use them instead of the fold. ASCII bytes are easy:
whatever is pending before one is abandoned, and the text is cut right before and right after it.
-/

namespace Scriptlet

namespace Glyph

/-- The byte sequences that encode a character. -/
inductive Encoded : Text → Prop where
  | one {byte : UInt8} (ascii : byte < 0x80) : Encoded [byte]
  | two {lead second : UInt8} (opens : isLead lead) (short : lead < 0xe0)
      (follows : isSecond lead second) : Encoded [lead, second]
  | three {lead second third : UInt8} (opens : isLead lead) (long : 0xe0 ≤ lead)
      (short : lead < 0xf0) (follows : isSecond lead second) (ends : isContinuation third) :
      Encoded [lead, second, third]
  | four {lead second third fourth : UInt8} (opens : isLead lead) (long : 0xf0 ≤ lead)
      (follows : isSecond lead second) (continues : isContinuation third)
      (ends : isContinuation fourth) : Encoded [lead, second, third, fourth]

/-- The byte sequences that encode the beginning of a character. -/
inductive Unfinished : Text → Prop where
  | one {lead : UInt8} (opens : isLead lead) : Unfinished [lead]
  | two {lead second : UInt8} (opens : isLead lead) (long : 0xe0 ≤ lead)
      (follows : isSecond lead second) : Unfinished [lead, second]
  | three {lead second third : UInt8} (opens : isLead lead) (long : 0xf0 ≤ lead)
      (follows : isSecond lead second) (continues : isContinuation third) :
      Unfinished [lead, second, third]

theorem isContinuation_iff {byte : UInt8} :
    isContinuation byte ↔ 0x80 ≤ byte.toNat ∧ byte.toNat ≤ 0xbf := by
  simp [isContinuation, UInt8.le_iff_toNat_le]

theorem isLead_iff {byte : UInt8} : isLead byte ↔ 0xc2 ≤ byte.toNat ∧ byte.toNat ≤ 0xf4 := by
  simp [isLead, UInt8.le_iff_toNat_le]

theorem isSecond_iff {lead second : UInt8} :
    isSecond lead second ↔ 0x80 ≤ second.toNat ∧ second.toNat ≤ 0xbf ∧
      (lead.toNat = 0xe0 → 0xa0 ≤ second.toNat) ∧ (lead.toNat = 0xed → second.toNat ≤ 0x9f) ∧
      (lead.toNat = 0xf0 → 0x90 ≤ second.toNat) ∧ (lead.toNat = 0xf4 → second.toNat ≤ 0x8f) := by
  simp only [isSecond, ← UInt8.toNat_inj, UInt8.toNat_ofNat, Nat.reducePow, Nat.reduceMod]
  split
  · simp only [UInt8.le_iff_toNat_le, UInt8.toNat_ofNat, Bool.and_eq_true, decide_eq_true_eq]
    omega
  split
  · simp only [UInt8.le_iff_toNat_le, UInt8.toNat_ofNat, Bool.and_eq_true, decide_eq_true_eq]
    omega
  split
  · simp only [UInt8.le_iff_toNat_le, UInt8.toNat_ofNat, Bool.and_eq_true, decide_eq_true_eq]
    omega
  split
  · simp only [UInt8.le_iff_toNat_le, UInt8.toNat_ofNat, Bool.and_eq_true, decide_eq_true_eq]
    omega
  · rw [isContinuation_iff]
    omega

theorem isContinuation_of_isSecond {lead second : UInt8} (follows : isSecond lead second) :
    isContinuation second := by
  rw [isSecond_iff] at follows
  rw [isContinuation_iff]
  omega

/-- Whatever is pending, only a continuation byte goes on with it. -/
theorem extend_of_not_isContinuation {next : UInt8} (noContinuation : isContinuation next = false)
    (pending : Text) : extend pending next = .broken := by
  have noSecond (lead : UInt8) : isSecond lead next = false := by
    rw [Bool.eq_false_iff]
    intro follows
    rw [isContinuation_of_isSecond follows] at noContinuation
    cases noContinuation
  unfold extend
  split <;> simp [noContinuation, noSecond]

theorem encoded_utf8EncodeChar (character : Char) :
    Encoded (String.utf8EncodeChar character) := by
  have valid := character.valid
  simp only [UInt32.isValidChar, Nat.isValidChar] at valid
  fun_cases String.utf8EncodeChar character with
  | case1 code =>
      apply Encoded.one
      simp [UInt8.lt_iff_toNat_lt]
      omega
  | case2 code =>
      apply Encoded.two
      · simp [isLead_iff]
        omega
      · simp [UInt8.lt_iff_toNat_lt]
        omega
      · simp [isSecond_iff]
        omega
  | case3 code =>
      apply Encoded.three
      · simp [isLead_iff]
        omega
      · simp [UInt8.le_iff_toNat_le]
        omega
      · simp [UInt8.lt_iff_toNat_lt]
        omega
      · simp [isSecond_iff]
        omega
      · simp [isContinuation_iff]
        omega
  | case4 code =>
      apply Encoded.four
      · simp [isLead_iff]
        omega
      · simp [UInt8.le_iff_toNat_le]
        omega
      · simp [isSecond_iff]
        omega
      · simp [isContinuation_iff]
        omega
      · simp [isContinuation_iff]
        omega

theorem val_ofNat {code : Nat} (valid : code.isValidChar) :
    (Char.ofNat code).val.toNat = code := by
  rw [Char.ofNat, dif_pos valid]
  rfl

/-- A byte that completes an unfinished character leaves exactly the encoding of that character. -/
theorem utf8EncodeChar_of_extend {pending : Text} {next : UInt8} {character : Char}
    (unfinished : Unfinished pending) (extended : extend pending next = .complete character) :
    String.utf8EncodeChar character = pending ++ [next] := by
  have nextBound := next.toNat_lt
  cases unfinished with
  | @one lead opens =>
      simp only [extend] at extended
      split at extended
      · rename_i follows
        split at extended
        · rename_i short
          cases extended
          rw [isLead_iff] at opens
          rw [isSecond_iff] at follows
          simp only [UInt8.lt_iff_toNat_lt, UInt8.toNat_ofNat] at short
          have code := @val_ofNat (lead.toNat % 32 * 64 + next.toNat % 64)
            (by simp only [Nat.isValidChar]; omega)
          simp only [String.utf8EncodeChar, code]
          rw [if_neg (by omega), if_pos (by omega)]
          simp [← UInt8.toNat_inj]
          omega
        · cases extended
      · cases extended
  | @two lead second opens long follows =>
      simp only [extend] at extended
      split at extended
      · rename_i ends
        split at extended
        · rename_i short
          cases extended
          rw [isLead_iff] at opens
          rw [isSecond_iff] at follows
          rw [isContinuation_iff] at ends
          simp only [UInt8.lt_iff_toNat_lt, UInt8.toNat_ofNat] at short
          simp only [UInt8.le_iff_toNat_le, UInt8.toNat_ofNat] at long
          have code := @val_ofNat
            (lead.toNat % 16 * 4096 + second.toNat % 64 * 64 + next.toNat % 64)
            (by simp only [Nat.isValidChar]; omega)
          simp only [String.utf8EncodeChar, code]
          rw [if_neg (by omega), if_neg (by omega), if_pos (by omega)]
          simp [← UInt8.toNat_inj]
          omega
        · cases extended
      · cases extended
  | @three lead second third opens long follows continues =>
      simp only [extend] at extended
      split at extended
      · rename_i ends
        cases extended
        rw [isLead_iff] at opens
        rw [isSecond_iff] at follows
        rw [isContinuation_iff] at continues ends
        simp only [UInt8.le_iff_toNat_le, UInt8.toNat_ofNat] at long
        have code := @val_ofNat (lead.toNat % 8 * 262144 + second.toNat % 64 * 4096 +
          third.toNat % 64 * 64 + next.toNat % 64) (by simp only [Nat.isValidChar]; omega)
        simp only [String.utf8EncodeChar, code]
        rw [if_neg (by omega), if_neg (by omega), if_neg (by omega)]
        simp [← UInt8.toNat_inj]
        omega
      · cases extended

theorem unfinished_of_extend {pending : Text} {next : UInt8} (unfinished : Unfinished pending)
    (extended : extend pending next = .unfinished) : Unfinished (pending ++ [next]) := by
  cases unfinished with
  | one opens =>
      simp only [extend] at extended
      split at extended
      · rename_i follows
        split at extended
        · cases extended
        · rename_i long
          exact .two opens (UInt8.not_lt.mp long) follows
      · cases extended
  | two opens long follows =>
      simp only [extend] at extended
      split at extended
      · rename_i continues
        split at extended
        · cases extended
        · rename_i longer
          exact .three opens (UInt8.not_lt.mp longer) follows continues
      · cases extended
  | three opens long follows continues =>
      simp only [extend] at extended
      split at extended <;> cases extended

/-- Whether a text starts with the encoding of a character. -/
def StartsCharacter (source : Text) : Prop :=
  ∃ character, String.utf8EncodeChar character <+: source

theorem not_startsCharacter_of_not_isLead {byte : UInt8} {rest : Text} (high : 0x80 ≤ byte)
    (noLead : ¬isLead byte) : ¬StartsCharacter (byte :: rest) := by
  rintro ⟨character, starts⟩
  have encoded := encoded_utf8EncodeChar character
  generalize String.utf8EncodeChar character = bytes at encoded starts
  cases encoded with
  | one ascii =>
      rcases List.cons_prefix_cons.mp starts with ⟨rfl, -⟩
      exact absurd high (UInt8.not_le.mpr ascii)
  | two opens short follows =>
      rcases List.cons_prefix_cons.mp starts with ⟨rfl, -⟩
      exact noLead opens
  | three opens long short follows ends =>
      rcases List.cons_prefix_cons.mp starts with ⟨rfl, -⟩
      exact noLead opens
  | four opens long follows continues ends =>
      rcases List.cons_prefix_cons.mp starts with ⟨rfl, -⟩
      exact noLead opens

theorem not_startsCharacter_of_isContinuation {byte : UInt8} {rest : Text}
    (continues : isContinuation byte) : ¬StartsCharacter (byte :: rest) := by
  rw [isContinuation_iff] at continues
  apply not_startsCharacter_of_not_isLead
  · simp only [UInt8.le_iff_toNat_le, UInt8.toNat_ofNat]
    omega
  · rw [isLead_iff]
    omega

theorem Encoded.not_prefix_of_unfinished {bytes pending : Text} (encoded : Encoded bytes)
    (unfinished : Unfinished pending) : ¬bytes <+: pending := by
  intro starts
  have length := starts.length_le
  cases encoded with
  | @one byte ascii =>
      have isFirst : pending.head? = some byte := by
        rcases starts with ⟨rest, rfl⟩
        rfl
      have opens : isLead byte := by cases unfinished <;> simp_all
      rw [isLead_iff] at opens
      simp only [UInt8.lt_iff_toNat_lt, UInt8.toNat_ofNat] at ascii
      omega
  | @two lead second opens short follows =>
      cases unfinished with
      | one opens => simp at length
      | two opens long follows =>
          rcases List.cons_prefix_cons.mp starts with ⟨rfl, -⟩
          exact absurd long (UInt8.not_le.mpr short)
      | three opens long follows continues =>
          rcases List.cons_prefix_cons.mp starts with ⟨rfl, -⟩
          exact absurd (UInt8.le_trans (by decide) long) (UInt8.not_le.mpr short)
  | @three lead second third opens long short follows ends =>
      cases unfinished with
      | one opens => simp at length
      | two opens long follows => simp at length
      | three opens long follows continues =>
          rcases List.cons_prefix_cons.mp starts with ⟨rfl, -⟩
          exact absurd long (UInt8.not_le.mpr short)
  | four opens long follows continues ends =>
      cases unfinished <;> simp at length

theorem Encoded.extend_ne_broken {pending more : Text} {next : UInt8}
    (encoded : Encoded (pending ++ next :: more)) (unfinished : Unfinished pending) :
    extend pending next ≠ .broken := by
  cases unfinished with
  | @one lead opens =>
      have follows : isSecond lead next := by cases encoded <;> assumption
      simp only [extend, follows, if_true]
      split <;> simp
  | @two lead second opens long follows =>
      have continues : isContinuation next := by cases encoded <;> assumption
      simp only [extend, continues, if_true]
      split <;> simp
  | @three lead second third opens long follows continues =>
      have ends : isContinuation next := by cases encoded <;> assumption
      simp [extend, ends]

/-- No character starts with unfinished bytes that what follows breaks. -/
theorem not_startsCharacter_of_unfinished {pending rest : Text} (unfinished : Unfinished pending)
    (broken : ∀ next more, rest = next :: more → extend pending next = .broken) :
    ¬StartsCharacter (pending ++ rest) := by
  rintro ⟨character, starts⟩
  have encoded := encoded_utf8EncodeChar character
  generalize String.utf8EncodeChar character = bytes at encoded starts
  rcases List.prefix_or_prefix_of_prefix starts (List.prefix_append pending rest) with
    within | beyond
  · exact encoded.not_prefix_of_unfinished unfinished within
  · rcases beyond with ⟨tail, rfl⟩
    rw [List.prefix_append_right_inj] at starts
    cases tail with
    | nil => exact encoded.not_prefix_of_unfinished unfinished (by simp)
    | cons next more =>
        rcases starts with ⟨others, rfl⟩
        exact encoded.extend_ne_broken unfinished (broken next (more ++ others) rfl)

theorem utf8EncodeChar_of_ascii {byte : UInt8} (ascii : byte < 0x80) :
    String.utf8EncodeChar (Char.ofNat byte.toNat) = [byte] := by
  simp only [UInt8.lt_iff_toNat_lt, UInt8.toNat_ofNat] at ascii
  have code := @val_ofNat byte.toNat (by simp only [Nat.isValidChar]; omega)
  simp only [String.utf8EncodeChar, code]
  rw [if_pos (by omega)]
  simp

namespace Cut

theorem abandon_mk (finished : List Glyph) (pending : Text) :
    abandon ⟨finished, pending⟩ = (pending.map Glyph.stray).reverse ++ finished := by
  unfold abandon
  induction pending generalizing finished with
  | nil => rfl
  | cons byte rest ih =>
      rw [List.foldl_cons, ih]
      simp

theorem feed_mk (finished : List Glyph) (pending : Text) (byte : UInt8) :
    feed ⟨finished, pending⟩ byte =
      ⟨(feed ⟨[], pending⟩ byte).finished ++ finished, (feed ⟨[], pending⟩ byte).pending⟩ := by
  unfold feed
  dsimp only
  split
  · rfl
  · rfl
  · simp only [start, abandon_mk]
    split
    · simp
    split
    · simp
    · simp

theorem abandon_foldl (finished : List Glyph) (pending source : Text) :
    (source.foldl feed ⟨finished, pending⟩).abandon =
      (source.foldl feed ⟨[], pending⟩).abandon ++ finished := by
  induction source generalizing finished pending with
  | nil => simp [abandon_mk]
  | cons byte rest ih =>
      rw [List.foldl_cons, List.foldl_cons, feed_mk, ih]
      rcases feed ⟨[], pending⟩ byte with ⟨found, stillPending⟩
      rw [ih found]
      simp

end Cut

end Glyph

namespace Text

open Glyph

/-- The glyphs that a text gives when some bytes before it are still pending. -/
def glyphsFrom (pending source : Text) : List Glyph :=
  (source.foldl Cut.feed ⟨[], pending⟩).abandon.reverse

theorem glyphs_eq_glyphsFrom (source : Text) : source.glyphs = glyphsFrom [] source :=
  rfl

theorem reverse_abandon_foldl (finished : List Glyph) (pending source : Text) :
    (source.foldl Cut.feed ⟨finished, pending⟩).abandon.reverse =
      finished.reverse ++ glyphsFrom pending source := by
  rw [Cut.abandon_foldl]
  simp [glyphsFrom]

@[simp]
theorem glyphsFrom_nil (pending : Text) : glyphsFrom pending [] = pending.map Glyph.stray := by
  simp [glyphsFrom, Cut.abandon_mk]

theorem glyphsFrom_cons_of_complete {pending rest : Text} {byte : UInt8} {character : Char}
    (extended : extend pending byte = .complete character) :
    glyphsFrom pending (byte :: rest) = .char character :: glyphsFrom [] rest := by
  simp only [glyphsFrom, List.foldl_cons, Cut.feed, extended]
  rw [reverse_abandon_foldl]
  rfl

theorem glyphsFrom_cons_of_unfinished {pending rest : Text} {byte : UInt8}
    (extended : extend pending byte = .unfinished) :
    glyphsFrom pending (byte :: rest) = glyphsFrom (pending ++ [byte]) rest := by
  simp only [glyphsFrom, List.foldl_cons, Cut.feed, extended]

theorem glyphsFrom_cons_of_broken {pending rest : Text} {byte : UInt8}
    (extended : extend pending byte = .broken) :
    glyphsFrom pending (byte :: rest) =
      pending.map Glyph.stray ++ glyphsFrom [] (byte :: rest) := by
  have nothing : extend [] byte = .broken := rfl
  simp only [glyphsFrom, List.foldl_cons, Cut.feed, extended, nothing, Cut.start, Cut.abandon_mk]
  split
  · simp only [reverse_abandon_foldl]
    simp
  split
  · simp only [reverse_abandon_foldl]
    simp
  · simp only [reverse_abandon_foldl]
    simp

theorem glyphsFrom_nil_cons (byte : UInt8) (rest : Text) :
    glyphsFrom [] (byte :: rest) =
      if byte < 0x80 then .char (Char.ofNat byte.toNat) :: glyphsFrom [] rest
      else if isLead byte then glyphsFrom [byte] rest
      else .stray byte :: glyphsFrom [] rest := by
  have nothing : extend [] byte = .broken := rfl
  simp only [glyphsFrom, List.foldl_cons, Cut.feed, nothing, Cut.start, Cut.abandon_mk]
  split
  · rw [reverse_abandon_foldl]
    rfl
  split
  · rfl
  · rw [reverse_abandon_foldl]
    rfl

theorem glyphsFrom_cons_of_ascii {byte : UInt8} (ascii : byte < 0x80) (pending rest : Text) :
    glyphsFrom pending (byte :: rest) =
      pending.map Glyph.stray ++ .char (Char.ofNat byte.toNat) :: glyphsFrom [] rest := by
  have noContinuation : isContinuation byte = false := by
    simp only [UInt8.lt_iff_toNat_lt, UInt8.toNat_ofNat] at ascii
    rw [Bool.eq_false_iff, ne_eq, isContinuation_iff]
    omega
  rw [glyphsFrom_cons_of_broken (extend_of_not_isContinuation noContinuation pending),
    glyphsFrom_nil_cons, if_pos ascii]

/-- What is pending before an ASCII character is abandoned, as it is at the end of a text. -/
theorem glyphsFrom_append_of_ascii {byte : UInt8} (ascii : byte < 0x80)
    (pending front back : Text) :
    glyphsFrom pending (front ++ byte :: back) =
      glyphsFrom pending front ++ .char (Char.ofNat byte.toNat) :: glyphsFrom [] back := by
  simp only [glyphsFrom, List.foldl_append]
  rcases front.foldl Cut.feed ⟨[], pending⟩ with ⟨finished, stillPending⟩
  rw [reverse_abandon_foldl, glyphsFrom_cons_of_ascii ascii, Cut.abandon_mk]
  simp [glyphsFrom]

/-- The glyphs of a text: a character where the text starts with its encoding, and a stray byte
where no character starts. -/
inductive CutInto : Text → List Glyph → Prop where
  | nil : CutInto [] []
  | char (character : Char) {rest : Text} {glyphs : List Glyph} (tail : CutInto rest glyphs) :
      CutInto (String.utf8EncodeChar character ++ rest) (.char character :: glyphs)
  | stray (byte : UInt8) {rest : Text} {glyphs : List Glyph}
      (alone : ¬StartsCharacter (byte :: rest)) (tail : CutInto rest glyphs) :
      CutInto (byte :: rest) (.stray byte :: glyphs)

theorem CutInto.join_eq {source : Text} {glyphs : List Glyph} (cut : CutInto source glyphs) :
    Glyph.join glyphs = source := by
  induction cut with
  | nil => rfl
  | char character tail ih =>
      rw [← ih]
      rfl
  | stray byte alone tail ih =>
      rw [← ih]
      rfl

/-- Unfinished bytes that what follows breaks are stray, each by itself. -/
theorem CutInto.abandon {pending rest : Text} {glyphs : List Glyph}
    (unfinished : Unfinished pending)
    (broken : ∀ next more, rest = next :: more → extend pending next = .broken)
    (tail : CutInto rest glyphs) :
    CutInto (pending ++ rest) (pending.map Glyph.stray ++ glyphs) := by
  have alone := not_startsCharacter_of_unfinished unfinished broken
  cases unfinished with
  | one opens => exact .stray _ alone tail
  | two opens long follows =>
      refine .stray _ alone (.stray _ ?_ tail)
      exact not_startsCharacter_of_isContinuation (isContinuation_of_isSecond follows)
  | three opens long follows continues =>
      refine .stray _ alone (.stray _ ?_ (.stray _ ?_ tail))
      · exact not_startsCharacter_of_isContinuation (isContinuation_of_isSecond follows)
      · exact not_startsCharacter_of_isContinuation continues

theorem cutInto_glyphsFrom {pending : Text} (source : Text)
    (ready : pending = [] ∨ Unfinished pending) :
    CutInto (pending ++ source) (glyphsFrom pending source) := by
  induction source generalizing pending with
  | nil =>
      rcases ready with rfl | unfinished
      · exact .nil
      · simpa using CutInto.abandon unfinished (by simp) .nil
  | cons byte rest ih =>
      have fresh : CutInto (byte :: rest) (glyphsFrom [] (byte :: rest)) := by
        rw [glyphsFrom_nil_cons]
        split
        · rename_i ascii
          rw [show byte :: rest = String.utf8EncodeChar (Char.ofNat byte.toNat) ++ rest by
            simp [utf8EncodeChar_of_ascii ascii]]
          exact .char _ (ih (.inl rfl))
        split
        · rename_i opens
          exact ih (.inr (.one opens))
        · rename_i high noLead
          refine .stray _ ?_ (ih (.inl rfl))
          exact not_startsCharacter_of_not_isLead (UInt8.not_lt.mp high) noLead
      rcases ready with rfl | unfinished
      · exact fresh
      · cases extended : extend pending byte with
        | complete character =>
            rw [glyphsFrom_cons_of_complete extended, List.append_cons,
              ← utf8EncodeChar_of_extend unfinished extended]
            exact .char _ (ih (.inl rfl))
        | unfinished =>
            rw [glyphsFrom_cons_of_unfinished extended, List.append_cons]
            exact ih (.inr (unfinished_of_extend unfinished extended))
        | broken =>
            rw [glyphsFrom_cons_of_broken extended]
            refine CutInto.abandon unfinished ?_ fresh
            rintro next more ⟨⟩
            exact extended

theorem cutInto_glyphs (source : Text) : CutInto source source.glyphs :=
  cutInto_glyphsFrom source (.inl rfl)

@[simp]
theorem join_glyphs (source : Text) : Glyph.join source.glyphs = source :=
  (cutInto_glyphs source).join_eq

end Text

end Scriptlet
