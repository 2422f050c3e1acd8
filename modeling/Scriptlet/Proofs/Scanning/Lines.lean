import Scriptlet.Proofs.Likeness.Basic
import Scriptlet.Proofs.Scanning.Partition

/-!
# Lines of a scan

A line feed is one glyph and one byte, and no other glyph has a byte in common with it. So the line
feeds of a source can be counted in its bytes, in its glyphs or in its segments. What stands behind
some segments is scanned as if it stood alone, as many lines further down as these segments hold
line feeds.
-/

namespace Scriptlet

open Glyph

theorem Glyph.utf8EncodeChar_injective {one other : Char}
    (same : String.utf8EncodeChar one = String.utf8EncodeChar other) : one = other := by
  have joined : Glyph.join ([one].map char) = Glyph.join ([other].map char) := by
    simpa [Glyph.join, Glyph.bytes] using same
  rw [join_map_char, join_map_char] at joined
  have lists := congrArg String.toList (text_injective joined)
  simpa using lists

/-- The bytes of other characters are no ASCII bytes. -/
theorem Glyph.not_mem_utf8EncodeChar {item : UInt8} (ascii : item < 0x80) {character : Char}
    (other : String.utf8EncodeChar character ≠ [item]) :
    item ∉ String.utf8EncodeChar character := by
  intro member
  have small : item.toNat < 0x80 := UInt8.lt_iff_toNat_lt.mp ascii
  have noLead : isLead item = false := by
    rw [← Bool.not_eq_true, isLead_iff]
    omega
  have noContinuation : isContinuation item = false := by
    rw [← Bool.not_eq_true, isContinuation_iff]
    omega
  have encoded := encoded_utf8EncodeChar character
  generalize String.utf8EncodeChar character = bytes at encoded member other
  cases encoded with
  | one single =>
      rw [List.mem_singleton] at member
      exact other (congrArg (fun item => [item]) member.symm)
  | two opens short follows =>
      have continues := isContinuation_of_isSecond follows
      simp only [List.mem_cons, List.not_mem_nil, or_false] at member
      rcases member with rfl | rfl <;> simp_all
  | three opens long short follows ends =>
      have continues := isContinuation_of_isSecond follows
      simp only [List.mem_cons, List.not_mem_nil, or_false] at member
      rcases member with rfl | rfl | rfl <;> simp_all
  | four opens long follows continuesLater ends =>
      have continues := isContinuation_of_isSecond follows
      simp only [List.mem_cons, List.not_mem_nil, or_false] at member
      rcases member with rfl | rfl | rfl | rfl <;> simp_all

theorem Glyph.newline_not_mem_utf8EncodeChar {character : Char} (other : character ≠ '\n') :
    Text.newline ∉ String.utf8EncodeChar character := by
  apply not_mem_utf8EncodeChar (by decide)
  intro same
  exact other (utf8EncodeChar_injective same)

theorem Text.CutInto.newlines_eq {source : Text} {glyphs : List Glyph}
    (cut : CutInto source glyphs) : source.newlines = glyphs.countP (Glyph.is '\n') := by
  unfold newlines
  induction cut with
  | nil => rfl
  | char character tail ih =>
      rw [List.count_append, ih, List.countP_cons, Nat.add_comm]
      congr 1
      by_cases same : character = '\n'
      · subst same
        rfl
      · rw [List.count_eq_zero.mpr (newline_not_mem_utf8EncodeChar same)]
        simp [Glyph.is, scalar, same]
  | stray byte alone tail ih =>
      have other : byte ≠ newline := by
        rintro rfl
        exact alone ⟨'\n', List.prefix_append [newline] _⟩
      rw [List.count_cons_of_ne other, ih, List.countP_cons_of_neg]
      simp [Glyph.is, scalar]

namespace Segment

theorem total_newlines_split (glyphs : List Glyph) :
    total newlines (split glyphs) = glyphs.countP (Glyph.is '\n') := by
  fun_induction split glyphs with
  | case1 => rfl
  | case2 first rest role length reaches ih =>
      rw [total_cons, ih, newlines, ← List.countP_append, List.cons_append,
        List.take_append_drop]

theorem numbered_append (line : Nat) (front back : List Segment) :
    numbered line (front ++ back) =
      numbered line front ++ numbered (line + total newlines front) back := by
  induction front generalizing line with
  | nil => rfl
  | cons segment rest ih =>
      simp only [List.cons_append, numbered, ih, total_cons, Nat.add_assoc]

theorem numbered_add (line lines : Nat) (segments : List Segment) :
    numbered (line + lines) segments =
      (numbered line segments).map fun (own, segment) => (own + lines, segment) := by
  induction segments generalizing line with
  | nil => rfl
  | cons segment rest ih =>
      simp only [numbered, List.map_cons, ← ih, Nat.add_right_comm]

theorem token?_add (line lines : Nat) (segment : Segment) :
    segment.token? (line + lines) = (segment.token? line).map (Token.shifted lines) := by
  rcases segment with ⟨role, glyphs⟩
  cases role <;> simp [token?, Token.shifted]

theorem fault?_add (line lines : Nat) (segment : Segment) :
    segment.fault? (line + lines) = (segment.fault? line).map (Fault.shifted lines) := by
  rcases segment with ⟨role, glyphs⟩
  cases role <;> simp [fault?, Fault.shifted]

theorem filterMap_numbered_add {α : Type} {read : Nat → Segment → Option α} {shift : α → α}
    {lines : Nat}
    (reads : ∀ line segment, read (line + lines) segment = (read line segment).map shift)
    (line : Nat) (segments : List Segment) :
    (numbered (line + lines) segments).filterMap (fun (own, segment) => read own segment) =
      ((numbered line segments).filterMap fun (own, segment) => read own segment).map shift := by
  rw [numbered_add, List.filterMap_map, List.map_filterMap]
  apply List.filterMap_congr
  rintro ⟨own, segment⟩ _
  exact reads own segment

end Segment

namespace Scan

/-- The tokens of a scan before its end. -/
def words (segments : List Segment) : List Token :=
  (Segment.numbered 1 segments).filterMap fun (line, segment) => segment.token? line

theorem tokens_ofSegments (segments : List Segment) :
    (ofSegments segments).tokens =
      words segments ++ [ending (1 + total Segment.newlines segments)] :=
  rfl

theorem words_append (front back : List Segment) :
    words (front ++ back) =
      words front ++ (words back).map (Token.shifted (total Segment.newlines front)) := by
  simp only [words, Segment.numbered_append, List.filterMap_append,
    Segment.filterMap_numbered_add (Segment.token?_add · _ ·)]

theorem tokens_append (front back : List Segment) :
    (ofSegments (front ++ back)).tokens =
      words front ++
        (ofSegments back).tokens.map (Token.shifted (total Segment.newlines front)) := by
  have endings : ending (1 + total Segment.newlines (front ++ back)) =
      (ending (1 + total Segment.newlines back)).shifted (total Segment.newlines front) := by
    simp [ending, Token.shifted]
    omega
  simp only [tokens_ofSegments, words_append, endings, List.map_append, List.append_assoc,
    List.map_cons, List.map_nil]

theorem faults_append (front back : List Segment) :
    (ofSegments (front ++ back)).faults =
      (ofSegments front).faults ++
        (ofSegments back).faults.map (Fault.shifted (total Segment.newlines front)) := by
  simp only [ofSegments, Segment.numbered_append, List.filterMap_append,
    Segment.filterMap_numbered_add (Segment.fault?_add · _ ·)]

/-- The end of a source is not one of its words. -/
theorem kind_ne_eof_of_mem_words {glyphs : List Glyph} :
    ∀ token ∈ words (Segment.split glyphs), token.kind ≠ .eof := by
  intro token member
  have lexemes := @Segment.map_filterMap_numbered _ _ _ _ _ (Segment.split glyphs) 1
    fun segment _ line => segment.lexeme_token? line
  have isLexeme := List.mem_map_of_mem member (f := fun token => (token.kind, token.lexeme))
  rw [words, lexemes] at isLexeme
  rcases List.mem_filterMap.mp isLexeme with ⟨segment, inSource, found⟩
  rcases (Segment.partition_split glyphs).exists_stands segment inSource with ⟨following, stands⟩
  exact stands.kind_ne_eof (Segment.role_of_lexeme? found)

end Scan

end Scriptlet
