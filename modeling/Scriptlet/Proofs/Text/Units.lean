import Scriptlet.Proofs.Scanning.Lines
import Scriptlet.Text.Words

/-!
# Code units of parts of a text

Editors count in UTF-16 code units. A text that is cut in two at some byte need not fall into the
same glyphs, because the cut may split a character. It does if a character starts right behind the
cut or ends right before it, whatever else surrounds the cut, and then the code units of the whole
are those of the parts.
-/

namespace Scriptlet

open Glyph

namespace Text

theorem glyphsFrom_cons_of_utf8EncodeChar {pending : Text} {last : UInt8} {found character : Char}
    (unfinished : Unfinished pending) (completes : extend pending last = .complete found)
    (spelled : String.utf8EncodeChar character = pending ++ [last]) (rest : Text) :
    glyphsFrom pending (last :: rest) = .char character :: glyphsFrom [] rest := by
  have same : found = character := by
    apply utf8EncodeChar_injective
    rw [utf8EncodeChar_of_extend unfinished completes, spelled]
  rw [glyphsFrom_cons_of_complete completes, same]

/-- The first byte of a character of several bytes abandons what is pending and opens the
character. -/
theorem glyphsFrom_cons_of_isLead {lead : UInt8} (opens : isLead lead) (pending rest : Text) :
    glyphsFrom pending (lead :: rest) = pending.map Glyph.stray ++ glyphsFrom [lead] rest := by
  have bounds := isLead_iff.mp opens
  have noContinuation : isContinuation lead = false := by
    rw [Bool.eq_false_iff, ne_eq, isContinuation_iff]
    omega
  have high : ¬lead < 0x80 := by
    simp only [UInt8.lt_iff_toNat_lt, UInt8.toNat_ofNat]
    omega
  rw [glyphsFrom_cons_of_broken (extend_of_not_isContinuation noContinuation pending),
    glyphsFrom_nil_cons, if_neg high, if_pos opens]

/-- A character is cut out whole, whatever is pending before it. -/
theorem glyphsFrom_utf8EncodeChar_append (pending : Text) (character : Char) (rest : Text) :
    glyphsFrom pending (String.utf8EncodeChar character ++ rest) =
      pending.map Glyph.stray ++ .char character :: glyphsFrom [] rest := by
  have encoded := encoded_utf8EncodeChar character
  generalize spelled : String.utf8EncodeChar character = bytes at encoded
  cases encoded with
  | @one byte ascii =>
      have same : Char.ofNat byte.toNat = character := by
        apply utf8EncodeChar_injective
        rw [utf8EncodeChar_of_ascii ascii, spelled]
      rw [List.singleton_append, glyphsFrom_cons_of_ascii ascii, same]
  | @two lead second opens short follows =>
      have completes : ∃ found, extend [lead] second = .complete found := by
        simp [extend, follows, short]
      rcases completes with ⟨found, completes⟩
      rw [List.cons_append, List.singleton_append, glyphsFrom_cons_of_isLead opens,
        glyphsFrom_cons_of_utf8EncodeChar (.one opens) completes spelled]
  | @three lead second third opens long short follows ends =>
      have goesOn : extend [lead] second = .unfinished := by
        simp [extend, follows, UInt8.not_lt.mpr long]
      have completes : ∃ found, extend [lead, second] third = .complete found := by
        simp [extend, ends, short]
      rcases completes with ⟨found, completes⟩
      simp only [List.cons_append, List.nil_append]
      rw [glyphsFrom_cons_of_isLead opens, glyphsFrom_cons_of_unfinished goesOn,
        List.singleton_append,
        glyphsFrom_cons_of_utf8EncodeChar (.two opens long follows) completes spelled]
  | @four lead second third fourth opens long follows continues ends =>
      have longer : 0xe0 ≤ lead := UInt8.le_trans (by decide) long
      have goesOn : extend [lead] second = .unfinished := by
        simp [extend, follows, UInt8.not_lt.mpr longer]
      have goesOnStill : extend [lead, second] third = .unfinished := by
        simp [extend, continues, UInt8.not_lt.mpr long]
      have completes : ∃ found, extend [lead, second, third] fourth = .complete found := by
        simp [extend, ends]
      rcases completes with ⟨found, completes⟩
      simp only [List.cons_append, List.nil_append]
      rw [glyphsFrom_cons_of_isLead opens, glyphsFrom_cons_of_unfinished goesOn,
        List.singleton_append, glyphsFrom_cons_of_unfinished goesOnStill, List.cons_append,
        List.singleton_append,
        glyphsFrom_cons_of_utf8EncodeChar (.three opens long follows continues) completes spelled]

theorem glyphs_append_utf8EncodeChar (front : Text) (character : Char) (back : Text) :
    glyphs (front ++ String.utf8EncodeChar character ++ back) =
      front.glyphs ++ .char character :: back.glyphs := by
  simp only [glyphs_eq_glyphsFrom, List.append_assoc]
  have parts : glyphsFrom [] (front ++ (String.utf8EncodeChar character ++ back)) =
      glyphsFrom [] front ++ .char character :: glyphsFrom [] back := by
    rw [glyphsFrom, List.foldl_append, glyphsFrom]
    rcases front.foldl Cut.feed ⟨[], []⟩ with ⟨finished, pending⟩
    rw [reverse_abandon_foldl, glyphsFrom_utf8EncodeChar_append, Cut.abandon_mk]
    simp
  exact parts

theorem glyphs_ofChars (characters : List Char) :
    (ofChars characters).glyphs = characters.map Glyph.char := by
  induction characters with
  | nil => rfl
  | cons character rest ih =>
      have starts := glyphs_append_utf8EncodeChar [] character (ofChars rest)
      rw [ih] at starts
      exact starts

theorem scalars_ofChars (characters : List Char) : (ofChars characters).scalars = characters := by
  rw [scalars, glyphs_ofChars, List.map_map]
  exact List.map_id characters

theorem glyphs_append_of_startsCharacter (front : Text) {back : Text}
    (starts : StartsCharacter back) : glyphs (front ++ back) = front.glyphs ++ back.glyphs := by
  rcases starts with ⟨character, rest, rfl⟩
  have alone := glyphs_append_utf8EncodeChar [] character rest
  rw [List.nil_append] at alone
  rw [← List.append_assoc, glyphs_append_utf8EncodeChar, alone]
  rfl

/-- The UTF-16 code units of a character: the character itself up to U+FFFF, and beyond it a high
and a low surrogate. -/
def utf16OfChar (character : Char) : List UInt16 :=
  let code := character.toNat
  if code < 0x10000 then [UInt16.ofNat code]
  else
    [UInt16.ofNat (0xd800 + (code - 0x10000) / 0x400),
      UInt16.ofNat (0xdc00 + (code - 0x10000) % 0x400)]

/-- The UTF-16 code units of a text; a stray byte reads as U+FFFD. -/
def utf16 (source : Text) : List UInt16 :=
  source.scalars.flatMap utf16OfChar

end Text

end Scriptlet
