import Scriptlet.Layout
import Scriptlet.Proofs.Text.Cutting
import Scriptlet.Proofs.Text.Lines

/-!
# What layout does to a text

Layout works on the bytes of whole lines. `Respaced` is what it comes down to at each place: bytes
are kept, spaces and tabs before the end of a line go, carriage returns become line feeds, and the
blanks at the end of the text may be any others. The relation is stated for lists of anything that
characters can be embedded in, so that it applies to the bytes of a text and to its glyphs.

Only ASCII bytes are touched, and a text is always cut into glyphs before and behind an ASCII byte.
Hence the glyphs of a text are respaced like its bytes (`Respaced.glyphs`).
-/

namespace Scriptlet

section Relation

variable {α : Type} (of : Char → α)

/-- The blank characters as items of a list. -/
def Blank (item : α) : Prop :=
  ∃ character ∈ [' ', '\t', '\r', '\n'], item = of character

/-- Nothing but spaces and tabs up to the end of the line. -/
inductive AtLineEnd : List α → Prop where
  | nil : AtLineEnd []
  | lineFeed (rest : List α) : AtLineEnd (of '\n' :: rest)
  | carriageReturn (rest : List α) : AtLineEnd (of '\r' :: rest)
  | gap {character : Char} {rest : List α} (isGap : character ∈ [' ', '\t'])
      (tail : AtLineEnd rest) : AtLineEnd (of character :: rest)

/-- What layout makes of a list. -/
inductive Respaced : List α → List α → Prop where
  | keep {item : α} {rest other : List α} (noReturn : item ≠ of '\r')
      (tail : Respaced rest other) : Respaced (item :: rest) (item :: other)
  | trim {character : Char} {rest other : List α} (isGap : character ∈ [' ', '\t'])
      (lineEnds : AtLineEnd of rest) (tail : Respaced rest other) :
      Respaced (of character :: rest) other
  | joined {rest other : List α} (tail : Respaced rest other) :
      Respaced (of '\r' :: of '\n' :: rest) (of '\n' :: other)
  | turned {rest other : List α} (tail : Respaced rest other) :
      Respaced (of '\r' :: rest) (of '\n' :: other)
  | ending {rest other : List α} (blank : ∀ item ∈ rest, Blank of item)
      (otherBlank : ∀ item ∈ other, Blank of item) : Respaced rest other

variable {of}

theorem mem_blanks_of_gap {character : Char} (isGap : character ∈ [' ', '\t']) :
    character ∈ [' ', '\t', '\r', '\n'] := by
  simp only [List.mem_cons, List.not_mem_nil, or_false] at isGap ⊢
  rcases isGap with rfl | rfl <;> simp

theorem blank_of_gap {character : Char} (isGap : character ∈ [' ', '\t']) :
    Blank of (of character) :=
  ⟨character, mem_blanks_of_gap isGap, rfl⟩

theorem blank_lineFeed : Blank of (of '\n') :=
  ⟨'\n', by simp, rfl⟩

theorem blank_carriageReturn : Blank of (of '\r') :=
  ⟨'\r', by simp, rfl⟩

namespace Respaced

theorem keepAll {front rest other : List α} (noReturn : of '\r' ∉ front)
    (tail : Respaced of rest other) : Respaced of (front ++ rest) (front ++ other) := by
  induction front with
  | nil => exact tail
  | cons item front ih =>
      rw [List.mem_cons, not_or] at noReturn
      exact .keep (Ne.symm noReturn.1) (ih noReturn.2)

theorem same {list : List α} (noReturn : of '\r' ∉ list) : Respaced of list list := by
  have nothing : Respaced of [] [] := .ending (by simp) (by simp)
  simpa using keepAll noReturn nothing

theorem blank_of_blank {source other : List α} (respaced : Respaced of source other)
    (otherBlank : ∀ item ∈ other, Blank of item) : ∀ item ∈ source, Blank of item := by
  induction respaced with
  | keep noReturn tail ih =>
      intro some member
      rcases List.mem_cons.mp member with rfl | later
      · exact otherBlank some (.head _)
      · exact ih (fun item member => otherBlank item (.tail _ member)) some later
  | trim isGap lineEnds tail ih =>
      intro some member
      rcases List.mem_cons.mp member with rfl | later
      · exact blank_of_gap isGap
      · exact ih otherBlank some later
  | joined tail ih =>
      intro some member
      rcases List.mem_cons.mp member with rfl | later
      · exact blank_carriageReturn
      · rcases List.mem_cons.mp later with rfl | later
        · exact blank_lineFeed
        · exact ih (fun item member => otherBlank item (.tail _ member)) some later
  | turned tail ih =>
      intro some member
      rcases List.mem_cons.mp member with rfl | later
      · exact blank_carriageReturn
      · exact ih (fun item member => otherBlank item (.tail _ member)) some later
  | ending blank _ => exact blank

theorem replace_end {source front back back' : List α}
    (respaced : Respaced of source (front ++ back)) (blank : ∀ item ∈ back, Blank of item)
    (otherBlank : ∀ item ∈ back', Blank of item) : Respaced of source (front ++ back') := by
  generalize whole : front ++ back = other at respaced
  induction respaced generalizing front with
  | keep noReturn tail ih =>
      cases front with
      | nil =>
          refine .ending ?_ otherBlank
          apply (Respaced.keep noReturn tail).blank_of_blank
          rw [← whole]
          exact blank
      | cons head front =>
          rw [List.cons_append] at whole
          cases whole
          exact .keep noReturn (ih rfl)
  | trim isGap lineEnds tail ih => exact .trim isGap lineEnds (ih whole)
  | joined tail ih =>
      cases front with
      | nil =>
          refine .ending ?_ otherBlank
          apply (Respaced.joined tail).blank_of_blank
          rw [← whole]
          exact blank
      | cons head front =>
          rw [List.cons_append] at whole
          cases whole
          exact .joined (ih rfl)
  | turned tail ih =>
      cases front with
      | nil =>
          refine .ending ?_ otherBlank
          apply (Respaced.turned tail).blank_of_blank
          rw [← whole]
          exact blank
      | cons head front =>
          rw [List.cons_append] at whole
          cases whole
          exact .turned (ih rfl)
  | ending sourceBlank wholeBlank =>
      refine .ending sourceBlank ?_
      intro item member
      rcases List.mem_append.mp member with inFront | inBack
      · apply wholeBlank
        rw [← whole]
        exact List.mem_append_left _ inFront
      · exact otherBlank item inBack

/-- What becomes of the rest of a line that holds only blanks starts with a blank. -/
theorem starts_blank {source other : List α} (respaced : Respaced of source other)
    (lineEnds : AtLineEnd of source) :
    other = [] ∨ ∃ item rest, other = item :: rest ∧ Blank of item := by
  induction respaced with
  | keep noReturn tail ih =>
      refine .inr ⟨_, _, rfl, ?_⟩
      cases lineEnds with
      | lineFeed rest => exact blank_lineFeed
      | carriageReturn rest => exact blank_carriageReturn
      | gap isGap tail => exact blank_of_gap isGap
  | trim isGap restEnds tail ih => exact ih restEnds
  | joined tail ih => exact .inr ⟨_, _, rfl, blank_lineFeed⟩
  | turned tail ih => exact .inr ⟨_, _, rfl, blank_lineFeed⟩
  | ending blank otherBlank =>
      rename_i rest other
      cases other with
      | nil => exact .inl rfl
      | cons item rest => exact .inr ⟨item, rest, rfl, otherBlank item (.head _)⟩

end Respaced

end Relation

namespace Layout

/-- A text with the spaces and tabs at the ends of its lines dropped. -/
def trimLines (source : Text) : Text :=
  Text.joinWith [Text.newline] (source.lines.map trimLine)

/-- Whether a byte is a space or a tab. -/
def isGap (byte : UInt8) : Bool :=
  byte = 32 || byte = 9

theorem eq_byte_of_isGap {item : UInt8} (gap : isGap item) :
    ∃ character ∈ [' ', '\t'], item = byte character := by
  simp only [isGap, Bool.or_eq_true, decide_eq_true_eq] at gap
  rcases gap with rfl | rfl
  · exact ⟨' ', by simp, rfl⟩
  · exact ⟨'\t', by simp, rfl⟩

theorem trimLine_cons (byte : UInt8) (rest : Text) :
    trimLine (byte :: rest) =
      if (byte :: rest).all isGap then trimLine rest else byte :: trimLine rest := by
  have emptied : trimLine rest = [] ↔ rest.all isGap :=
    Text.trimEnd_eq_nil_iff.trans List.all_eq_true.symm
  have step : trimLine (byte :: rest) =
      if isGap byte ∧ trimLine rest = [] then [] else byte :: trimLine rest :=
    Text.trimEnd_cons isGap byte rest
  simp only [step, List.all_cons, Bool.and_eq_true, ← emptied]
  split
  · rename_i gaps
    exact gaps.2.symm
  · rfl

theorem trimLines_newline (rest : Text) :
    trimLines (Text.newline :: rest) = Text.newline :: trimLines rest := by
  rcases Text.lines_eq_cons rest with ⟨more, found⟩
  simp [trimLines, Text.lines_cons, found, trimLine, Text.trimEnd, Text.joinWith, List.intercalate]

theorem trimLines_cons {byte : UInt8} {rest : Text} (noNewline : byte ≠ Text.newline) :
    trimLines (byte :: rest) =
      if (byte :: rest.takeWhile (· ≠ Text.newline)).all isGap
      then trimLines rest else byte :: trimLines rest := by
  rcases Text.lines_eq_cons rest with ⟨more, found⟩
  simp only [trimLines, Text.lines_cons, found, noNewline, if_false, List.map_cons]
  rw [trimLine_cons]
  split
  · rfl
  · exact Text.joinWith_cons_cons _ _ _ _

/-- A line that holds only spaces and tabs once its end is a line feed is at its end already. -/
theorem atLineEnd_of_unixLines {source : Text}
    (gaps : ((unixLines source).takeWhile (· ≠ Text.newline)).all isGap) :
    AtLineEnd byte source := by
  fun_induction unixLines source with
  | case1 rest ih => exact .carriageReturn _
  | case2 rest _ ih => exact .carriageReturn _
  | case3 byte rest _ _ ih =>
      by_cases isNewline : byte = Text.newline
      · subst isNewline
        exact .lineFeed rest
      · simp only [ne_eq, isNewline, not_false_eq_true, decide_true, List.takeWhile_cons_of_pos,
          List.all_cons, Bool.and_eq_true] at gaps
        rcases eq_byte_of_isGap gaps.1 with ⟨character, gap, rfl⟩
        exact .gap gap (ih gaps.2)
  | case4 => exact .nil

theorem respaced_trimLines (source : Text) :
    Respaced byte source (trimLines (unixLines source)) := by
  fun_induction unixLines source with
  | case1 rest ih =>
      rw [trimLines_newline]
      exact .joined ih
  | case2 rest _ ih =>
      rw [trimLines_newline]
      exact .turned ih
  | case3 byte rest _ noReturn ih =>
      by_cases isNewline : byte = Text.newline
      · subst isNewline
        rw [trimLines_newline]
        exact .keep (by decide) ih
      · rw [trimLines_cons isNewline]
        split
        · rename_i trimmed
          rw [List.all_cons, Bool.and_eq_true] at trimmed
          rcases eq_byte_of_isGap trimmed.1 with ⟨character, gap, rfl⟩
          exact .trim gap (atLineEnd_of_unixLines trimmed.2) ih
        · exact .keep noReturn ih
  | case4 =>
      have empty : trimLines [] = [] := rfl
      rw [empty]
      exact .ending (by simp) (by simp)

/-- Layout respaces the bytes of a source. -/
theorem respaced_format (source : Text) : Respaced byte source (format source) := by
  have respaced := respaced_trimLines source
  have parts : Text.trimEnd (· = Text.newline) (trimLines (unixLines source)) ++
      (trimLines (unixLines source)).rtakeWhile (· = Text.newline) =
      trimLines (unixLines source) := List.rdropWhile_append_rtakeWhile
  rw [← parts] at respaced
  have isNewline : ∀ item ∈ (trimLines (unixLines source)).rtakeWhile (· = Text.newline),
      Blank byte item := by
    intro item member
    have passes := List.mem_rtakeWhile_imp member
    rw [of_decide_eq_true passes]
    exact blank_lineFeed
  simp only [format]
  split
  · rename_i empty
    have nothing : Text.trimEnd (· = Text.newline) (trimLines (unixLines source)) = [] :=
      List.isEmpty_iff.mp empty
    rw [nothing] at respaced
    exact @Respaced.replace_end _ _ _ [] _ [] respaced isNewline (by simp)
  · refine respaced.replace_end isNewline ?_
    intro item member
    rw [List.mem_singleton.mp member]
    exact blank_lineFeed

end Layout

theorem Text.glyphsFrom_cons_of_blank {character : Char}
    (blank : character ∈ [' ', '\t', '\r', '\n']) (pending rest : Text) :
    glyphsFrom pending (byte character :: rest) =
      pending.map Glyph.stray ++ Glyph.char character :: glyphsFrom [] rest := by
  have facts : byte character < 0x80 ∧ Char.ofNat (byte character).toNat = character := by
    simp only [List.mem_cons, List.not_mem_nil, or_false] at blank
    rcases blank with rfl | rfl | rfl | rfl <;> decide
  rw [glyphsFrom_cons_of_ascii facts.1, facts.2]

theorem AtLineEnd.glyphs {source : Text} (lineEnds : AtLineEnd byte source) :
    AtLineEnd Glyph.char (Text.glyphsFrom [] source) := by
  induction lineEnds with
  | nil => exact .nil
  | lineFeed rest =>
      rw [Text.glyphsFrom_cons_of_blank (by simp)]
      exact .lineFeed _
  | carriageReturn rest =>
      rw [Text.glyphsFrom_cons_of_blank (by simp)]
      exact .carriageReturn _
  | gap isGap tail ih =>
      rw [Text.glyphsFrom_cons_of_blank (mem_blanks_of_gap isGap)]
      exact .gap isGap ih

theorem Text.glyphsFrom_of_blank {source : Text} (blank : ∀ item ∈ source, Blank byte item)
    (pending : Text) :
    ∃ blanks, glyphsFrom pending source = pending.map Glyph.stray ++ blanks ∧
      ∀ glyph ∈ blanks, Blank Glyph.char glyph := by
  induction source generalizing pending with
  | nil => exact ⟨[], by simp [glyphsFrom_nil], by simp⟩
  | cons head rest ih =>
      rcases blank head (.head _) with ⟨character, isBlank, rfl⟩
      rcases ih (fun item member => blank item (.tail _ member)) [] with ⟨blanks, found, areBlank⟩
      refine ⟨Glyph.char character :: blanks, ?_, ?_⟩
      · rw [glyphsFrom_cons_of_blank isBlank, found]
        rfl
      · intro glyph member
        rcases List.mem_cons.mp member with rfl | later
        · exact ⟨character, isBlank, rfl⟩
        · exact areBlank glyph later

theorem Text.glyphsFrom_of_starts_blank {source : Text}
    (starts : source = [] ∨ ∃ item rest, source = item :: rest ∧ Blank byte item)
    (pending : Text) :
    glyphsFrom pending source = pending.map Glyph.stray ++ glyphsFrom [] source := by
  rcases starts with rfl | ⟨item, rest, rfl, character, isBlank, rfl⟩
  · simp [glyphsFrom_nil]
  · rw [glyphsFrom_cons_of_blank isBlank, glyphsFrom_cons_of_blank isBlank]
    rfl

theorem Glyph.not_mem_map_stray (bytes : Text) (character : Char) :
    Glyph.char character ∉ bytes.map Glyph.stray := by
  simp

theorem Glyph.ne_carriageReturn_of_extend {pending : Text} {next : UInt8} {character : Char}
    (valid : pending = [] ∨ Unfinished pending)
    (extended : extend pending next = .complete character) :
    Glyph.char character ≠ Glyph.char '\r' := by
  intro same
  cases same
  rcases valid with rfl | unfinished
  · cases extended
  · have encoded := congrArg List.length (utf8EncodeChar_of_extend unfinished extended)
    cases unfinished <;> simp [String.utf8EncodeChar] at encoded

theorem Respaced.glyphsFrom {source other : Text} (respaced : Respaced byte source other)
    {pending : Text} (valid : pending = [] ∨ Glyph.Unfinished pending) :
    Respaced Glyph.char (Text.glyphsFrom pending source) (Text.glyphsFrom pending other) := by
  induction respaced generalizing pending with
  | keep noReturn tail ih =>
      rename_i item rest other
      cases extended : Glyph.extend pending item with
      | complete character =>
          rw [Text.glyphsFrom_cons_of_complete extended, Text.glyphsFrom_cons_of_complete extended]
          exact .keep (Glyph.ne_carriageReturn_of_extend valid extended) (ih (.inl rfl))
      | unfinished =>
          rw [Text.glyphsFrom_cons_of_unfinished extended,
            Text.glyphsFrom_cons_of_unfinished extended]
          rcases valid with rfl | unfinished
          · cases extended
          · exact ih (.inr (Glyph.unfinished_of_extend unfinished extended))
      | broken =>
          rw [Text.glyphsFrom_cons_of_broken extended, Text.glyphsFrom_cons_of_broken extended]
          apply Respaced.keepAll (Glyph.not_mem_map_stray pending _)
          rw [Text.glyphsFrom_nil_cons, Text.glyphsFrom_nil_cons]
          split
          · rename_i ascii
            refine .keep ?_ (ih (.inl rfl))
            intro same
            have encoded := Glyph.utf8EncodeChar_of_ascii ascii
            rw [Glyph.char.inj same] at encoded
            exact noReturn (List.cons.inj encoded).1.symm
          split
          · rename_i opens
            exact ih (.inr (.one opens))
          · exact .keep (by simp) (ih (.inl rfl))
  | trim isGap lineEnds tail ih =>
      rw [Text.glyphsFrom_cons_of_blank (mem_blanks_of_gap isGap),
        Text.glyphsFrom_of_starts_blank (tail.starts_blank lineEnds)]
      exact Respaced.keepAll (Glyph.not_mem_map_stray pending _)
        (.trim isGap lineEnds.glyphs (ih (.inl rfl)))
  | joined tail ih =>
      rw [Text.glyphsFrom_cons_of_blank (by simp), Text.glyphsFrom_cons_of_blank (by simp),
        Text.glyphsFrom_cons_of_blank (by simp)]
      exact Respaced.keepAll (Glyph.not_mem_map_stray pending _) (.joined (ih (.inl rfl)))
  | turned tail ih =>
      rw [Text.glyphsFrom_cons_of_blank (by simp), Text.glyphsFrom_cons_of_blank (by simp)]
      exact Respaced.keepAll (Glyph.not_mem_map_stray pending _) (.turned (ih (.inl rfl)))
  | ending blank otherBlank =>
      rcases Text.glyphsFrom_of_blank blank pending with ⟨blanks, found, areBlank⟩
      rcases Text.glyphsFrom_of_blank otherBlank pending with ⟨others, otherFound, areOthers⟩
      rw [found, otherFound]
      exact Respaced.keepAll (Glyph.not_mem_map_stray pending _) (.ending areBlank areOthers)

/-- Layout respaces the glyphs of a source. -/
theorem Layout.respaced_glyphs_format (source : Text) :
    Respaced Glyph.char source.glyphs (format source).glyphs := by
  rw [Text.glyphs_eq_glyphsFrom, Text.glyphs_eq_glyphsFrom]
  exact (respaced_format source).glyphsFrom (.inl rfl)

end Scriptlet
