import Scriptlet.Proofs.Layout.Respacing
import Scriptlet.Proofs.Scanning.Extents

/-!
# Layout keeps words

A word is a stretch of glyphs without blanks. Layout keeps words as they are, and what the scanner
makes of a word does not depend on what follows behind a blank. Only strings and comments may hold
blanks; whatever closes them is not a blank, so that the parts before and behind it are respaced by
themselves.
-/

namespace Scriptlet

open Glyph

theorem blank_iff {glyph : Glyph} : Blank Glyph.char glyph ↔ Segment.isBlank glyph.scalar := by
  constructor
  · rintro ⟨character, isBlank, rfl⟩
    exact Segment.isBlank_iff.mpr isBlank
  · intro isBlank
    refine ⟨glyph.scalar, Segment.isBlank_iff.mp isBlank, Segment.eq_char_of_scalar_ne ?_⟩
    intro replaced
    rw [replaced] at isBlank
    cases isBlank

theorem not_blank_char {character : Char} (visible : character ∉ [' ', '\t', '\r', '\n']) :
    ¬Blank Glyph.char (char character) := by
  rintro ⟨other, isBlank, same⟩
  cases same
  exact visible isBlank

/-- The end of a list, or a blank. -/
def StartsBlank (glyphs : List Glyph) : Prop :=
  glyphs = [] ∨ ∃ glyph rest, glyphs = glyph :: rest ∧ Blank Glyph.char glyph

theorem startsBlank_of_blank {glyphs : List Glyph}
    (blank : ∀ glyph ∈ glyphs, Blank Glyph.char glyph) : StartsBlank glyphs := by
  cases glyphs with
  | nil => exact .inl rfl
  | cons glyph rest => exact .inr ⟨glyph, rest, rfl, blank glyph (.head _)⟩

namespace Respaced

theorem cons_of_not_blank {first : Glyph} {rest other : List Glyph}
    (respaced : Respaced Glyph.char (first :: rest) other) (visible : ¬Blank Glyph.char first) :
    ∃ otherRest, other = first :: otherRest ∧ Respaced Glyph.char rest otherRest := by
  cases respaced with
  | keep noReturn tail => exact ⟨_, rfl, tail⟩
  | trim isGap lineEnds tail => exact absurd (blank_of_gap isGap) visible
  | joined tail => exact absurd blank_carriageReturn visible
  | turned tail => exact absurd blank_carriageReturn visible
  | ending blank otherBlank => exact absurd (blank first (.head _)) visible

theorem head_eq {first other : Glyph} {rest otherRest : List Glyph}
    (respaced : Respaced Glyph.char (first :: rest) (other :: otherRest))
    (visible : ¬Blank Glyph.char other) : first = other := by
  cases respaced with
  | keep noReturn tail => rfl
  | trim isGap lineEnds tail =>
      rcases tail.starts_blank lineEnds with ended | ⟨item, more, same, blank⟩
      · cases ended
      · cases same
        exact absurd blank visible
  | joined tail => exact absurd blank_lineFeed visible
  | turned tail => exact absurd blank_lineFeed visible
  | ending blank otherBlank => exact absurd (otherBlank other (.head _)) visible

theorem nil_left {other : List Glyph} (respaced : Respaced Glyph.char [] other) :
    ∀ glyph ∈ other, Blank Glyph.char glyph := by
  cases respaced with
  | ending blank otherBlank => exact otherBlank

/-- Up to the first blank, glyphs are kept. -/
theorem word {source other : List Glyph} (respaced : Respaced Glyph.char source other) :
    ∃ word gap otherGap, source = word ++ gap ∧ other = word ++ otherGap ∧
      char '\r' ∉ word ∧ StartsBlank gap ∧ StartsBlank otherGap ∧
      Respaced Glyph.char gap otherGap := by
  induction respaced with
  | keep noReturn tail ih =>
      rename_i item rest other
      by_cases blank : Blank Glyph.char item
      · exact ⟨[], _, _, rfl, rfl, by simp, .inr ⟨_, _, rfl, blank⟩, .inr ⟨_, _, rfl, blank⟩,
          .keep noReturn tail⟩
      · rcases ih with ⟨word, gap, otherGap, rfl, rfl, returns, starts, otherStarts, gaps⟩
        refine ⟨item :: word, gap, otherGap, rfl, rfl, ?_, starts, otherStarts, gaps⟩
        rw [List.mem_cons, not_or]
        exact ⟨Ne.symm noReturn, returns⟩
  | trim isGap lineEnds tail ih =>
      exact ⟨[], _, _, rfl, rfl, by simp, .inr ⟨_, _, rfl, blank_of_gap isGap⟩,
        tail.starts_blank lineEnds, .trim isGap lineEnds tail⟩
  | joined tail ih =>
      exact ⟨[], _, _, rfl, rfl, by simp, .inr ⟨_, _, rfl, blank_carriageReturn⟩,
        .inr ⟨_, _, rfl, blank_lineFeed⟩, .joined tail⟩
  | turned tail ih =>
      exact ⟨[], _, _, rfl, rfl, by simp, .inr ⟨_, _, rfl, blank_carriageReturn⟩,
        .inr ⟨_, _, rfl, blank_lineFeed⟩, .turned tail⟩
  | ending blank otherBlank =>
      exact ⟨[], _, _, rfl, rfl, by simp, startsBlank_of_blank blank,
        startsBlank_of_blank otherBlank, .ending blank otherBlank⟩

end Respaced

theorem AtLineEnd.of_append {pivot : Glyph} (visible : ¬Blank Glyph.char pivot)
    {front back back' : List Glyph} (lineEnds : AtLineEnd Glyph.char (front ++ pivot :: back)) :
    AtLineEnd Glyph.char (front ++ pivot :: back') := by
  generalize whole : front ++ pivot :: back = source at lineEnds
  induction lineEnds generalizing front with
  | nil => simp at whole
  | lineFeed rest =>
      cases front with
      | nil =>
          cases whole
          exact absurd blank_lineFeed visible
      | cons head front =>
          cases whole
          exact .lineFeed _
  | carriageReturn rest =>
      cases front with
      | nil =>
          cases whole
          exact absurd blank_carriageReturn visible
      | cons head front =>
          cases whole
          exact .carriageReturn _
  | gap isGap tail ih =>
      cases front with
      | nil =>
          cases whole
          exact absurd (blank_of_gap isGap) visible
      | cons head front =>
          cases whole
          exact .gap isGap (ih rfl)

/-- What stands before and behind a glyph that is not blank is respaced by itself. -/
theorem Respaced.split_at {pivot : Glyph} (visible : ¬Blank Glyph.char pivot)
    {front back other : List Glyph}
    (respaced : Respaced Glyph.char (front ++ pivot :: back) other) :
    ∃ otherFront otherBack, other = otherFront ++ pivot :: otherBack ∧
      Respaced Glyph.char back otherBack ∧
      Respaced Glyph.char (front ++ [pivot]) (otherFront ++ [pivot]) ∧
      ∀ glyph ∈ otherFront, glyph ∈ front ∨ Blank Glyph.char glyph := by
  generalize whole : front ++ pivot :: back = source at respaced
  induction respaced generalizing front with
  | keep noReturn tail ih =>
      cases front with
      | nil =>
          cases whole
          exact ⟨[], _, rfl, tail, .keep noReturn (.ending (by simp) (by simp)), by simp⟩
      | cons head front =>
          cases whole
          rcases ih rfl with ⟨otherFront, otherBack, rfl, backs, fronts, members⟩
          refine ⟨_ :: otherFront, otherBack, rfl, backs, .keep noReturn fronts, ?_⟩
          intro glyph member
          rcases List.mem_cons.mp member with rfl | later
          · exact .inl (.head _)
          · exact (members glyph later).imp_left (.tail _)
  | trim isGap lineEnds tail ih =>
      cases front with
      | nil =>
          cases whole
          exact absurd (blank_of_gap isGap) visible
      | cons head front =>
          cases whole
          rcases ih rfl with ⟨otherFront, otherBack, rfl, backs, fronts, members⟩
          refine ⟨otherFront, otherBack, rfl, backs,
            .trim isGap (lineEnds.of_append visible) fronts, ?_⟩
          intro glyph member
          exact (members glyph member).imp_left (.tail _)
  | joined tail ih =>
      match front with
      | [] =>
          cases whole
          exact absurd blank_carriageReturn visible
      | [head] =>
          cases whole
          exact absurd blank_lineFeed visible
      | head :: second :: front =>
          cases whole
          rcases ih rfl with ⟨otherFront, otherBack, rfl, backs, fronts, members⟩
          refine ⟨char '\n' :: otherFront, otherBack, rfl, backs, .joined fronts, ?_⟩
          intro glyph member
          rcases List.mem_cons.mp member with rfl | later
          · exact .inr blank_lineFeed
          · exact (members glyph later).imp_left fun inFront => .tail _ (.tail _ inFront)
  | turned tail ih =>
      cases front with
      | nil =>
          cases whole
          exact absurd blank_carriageReturn visible
      | cons head front =>
          cases whole
          rcases ih rfl with ⟨otherFront, otherBack, rfl, backs, fronts, members⟩
          refine ⟨char '\n' :: otherFront, otherBack, rfl, backs, .turned fronts, ?_⟩
          intro glyph member
          rcases List.mem_cons.mp member with rfl | later
          · exact .inr blank_lineFeed
          · exact (members glyph later).imp_left (.tail _)
  | ending blank otherBlank =>
      refine absurd (blank pivot ?_) visible
      rw [← whole]
      simp

namespace Segment

theorem not_isDigit_of_blank (glyph : Glyph) (blank : Blank Glyph.char glyph) :
    glyph.isDigit = false := by
  rcases blank with ⟨character, isBlank, rfl⟩
  fin_cases isBlank <;> decide

theorem not_continuesName_of_blank (glyph : Glyph) (blank : Blank Glyph.char glyph) :
    glyph.continuesName = false := by
  rcases blank with ⟨character, isBlank, rfl⟩
  fin_cases isBlank <;> decide +kernel

theorem is_of_blank {visible : Char} (noBlank : visible ∉ [' ', '\t', '\r', '\n'])
    (glyph : Glyph) (blank : Blank Glyph.char glyph) : glyph.is visible = false := by
  rcases blank with ⟨character, isBlank, rfl⟩
  apply decide_eq_false
  intro same
  subst same
  exact noBlank isBlank

theorem run_append_of_stops {test : Glyph → Bool} (word : List Glyph) {gap : List Glyph}
    (stops : gap = [] ∨ ∃ glyph rest, gap = glyph :: rest ∧ test glyph = false) :
    run test (word ++ gap) = run test word := by
  induction word with
  | nil =>
      rcases stops with rfl | ⟨glyph, rest, rfl, fails⟩
      · rfl
      · simp [run, fails]
  | cons first word ih =>
      simp only [run, List.cons_append, List.takeWhile_cons] at ih ⊢
      split
      · simp [ih]
      · rfl

theorem run_append_of_startsBlank {test : Glyph → Bool}
    (fails : ∀ glyph, Blank Glyph.char glyph → test glyph = false) (word : List Glyph)
    {gap : List Glyph} (starts : StartsBlank gap) : run test (word ++ gap) = run test word := by
  apply run_append_of_stops
  rcases starts with nothing | ⟨glyph, rest, goesOn, blank⟩
  · exact .inl nothing
  · exact .inr ⟨glyph, rest, goesOn, fails glyph blank⟩

theorem run_le (test : Glyph → Bool) (glyphs : List Glyph) : run test glyphs ≤ glyphs.length :=
  (List.takeWhile_prefix test).length_le

theorem afterBang_append (word : List Glyph) {gap : List Glyph} (starts : StartsBlank gap) :
    afterBang (word ++ gap) = afterBang word := by
  have noEqual := @is_of_blank '=' (by decide)
  have noLetter := @is_of_blank 'n' (by decide)
  have noFirst := @is_of_blank 'i' (by decide)
  match word with
  | [] =>
      rcases starts with rfl | ⟨glyph, rest, rfl, blank⟩
      · rfl
      · cases rest <;> simp [afterBang, noEqual glyph blank, noFirst glyph blank]
  | [first] =>
      rcases starts with rfl | ⟨glyph, rest, rfl, blank⟩
      · rfl
      · simp [afterBang, noLetter glyph blank]
  | first :: second :: after =>
      cases after with
      | cons third after => simp [afterBang]
      | nil =>
          rcases starts with rfl | ⟨glyph, rest, rfl, blank⟩
          · rfl
          · simp [afterBang, not_continuesName_of_blank glyph blank]

theorem afterBang_le (word : List Glyph) : (afterBang word).2 ≤ word.length := by
  fun_cases afterBang word <;> simp

theorem numberLength_append (word : List Glyph) {gap : List Glyph} (starts : StartsBlank gap) :
    numberLength (word ++ gap) = numberLength word := by
  have whole := run_append_of_startsBlank not_isDigit_of_blank word starts
  have dropped : (word ++ gap).drop (run Glyph.isDigit word) =
      word.drop (run Glyph.isDigit word) ++ gap :=
    List.drop_append_of_le_length (run_le _ word)
  simp only [numberLength, whole, dropped]
  cases word.drop (run Glyph.isDigit word) with
  | nil =>
      rcases starts with rfl | ⟨glyph, rest, rfl, blank⟩
      · rfl
      · cases rest <;> simp [@is_of_blank '.' (by decide) glyph blank]
  | cons point after =>
      cases after with
      | nil =>
          rcases starts with rfl | ⟨glyph, rest, rfl, blank⟩
          · rfl
          · simp [not_isDigit_of_blank glyph blank]
      | cons place more =>
          simp only [List.cons_append, run_append_of_startsBlank not_isDigit_of_blank more starts]

theorem numberLength_le (word : List Glyph) : numberLength word ≤ word.length := by
  have whole := run_le Glyph.isDigit word
  simp only [numberLength]
  split
  · rename_i point place more dropped
    have lengths := congrArg List.length dropped
    have places := run_le Glyph.isDigit more
    simp only [List.length_drop, List.length_cons] at lengths
    split
    · omega
    · exact whole
  · exact whole

theorem afterSlash_of_plain {glyphs : List Glyph}
    (plain : ∀ next more, glyphs = next :: more → next ≠ char '/' ∧ next ≠ char '*') :
    afterSlash glyphs = (.token .slash, 0) := by
  cases glyphs with
  | nil => rfl
  | cons next more =>
      rcases plain next more rfl with ⟨noSlash, noStar⟩
      rw [ne_eq, ← is_iff (by decide)] at noSlash noStar
      simp [afterSlash, noSlash, noStar]

theorem afterSlash_append_of_plain {word gap : List Glyph}
    (plain : ∀ next more, word = next :: more → next ≠ char '/' ∧ next ≠ char '*')
    (starts : StartsBlank gap) : afterSlash (word ++ gap) = (.token .slash, 0) := by
  apply afterSlash_of_plain
  intro next more same
  cases word with
  | cons head rest =>
      cases same
      exact plain _ rest rfl
  | nil =>
      rcases starts with rfl | ⟨glyph, rest, rfl, blank⟩
      · cases same
      · cases same
        constructor
        · rintro rfl
          exact not_blank_char (by decide) blank
        · rintro rfl
          exact not_blank_char (by decide) blank

/-- What the scanner makes of a word does not depend on what follows behind a blank, and it stays
inside the word. Only strings and comments may hold blanks. -/
theorem extent_append {first : Glyph} {word gap : List Glyph} (noQuote : first ≠ char '"')
    (noComment : first = char '/' →
      ∀ next more, word = next :: more → next ≠ char '/' ∧ next ≠ char '*')
    (starts : StartsBlank gap) :
    extent first (word ++ gap) = extent first word ∧ (extent first word).2 ≤ word.length := by
  simp only [extent]
  split
  · exact ⟨rfl, Nat.zero_le _⟩
  split
  · rw [afterBang_append word starts]
    exact ⟨rfl, afterBang_le word⟩
  split
  · rename_i slash
    rw [is_iff (by decide)] at slash
    rw [afterSlash_of_plain (noComment slash), afterSlash_append_of_plain (noComment slash) starts]
    exact ⟨rfl, Nat.zero_le _⟩
  split
  · rename_i quote
    rw [is_iff (by decide)] at quote
    exact absurd quote noQuote
  split
  · rw [numberLength_append word starts]
    exact ⟨rfl, numberLength_le word⟩
  split
  · have within := run_le Glyph.continuesName word
    rw [run_append_of_startsBlank not_continuesName_of_blank word starts,
      List.take_append_of_le_length within]
    exact ⟨rfl, within⟩
  split
  · exact ⟨rfl, Nat.zero_le _⟩
  · cases word with
    | cons next more =>
        rw [List.cons_append, List.head?_cons, List.head?_cons]
        split
        · exact ⟨rfl, by simp⟩
        · exact ⟨rfl, Nat.zero_le _⟩
    | nil =>
        rcases starts with rfl | ⟨glyph, rest, rfl, blank⟩
        · exact ⟨rfl, Nat.zero_le _⟩
        · simp [@is_of_blank '=' (by decide) glyph blank]
  · exact ⟨rfl, Nat.zero_le _⟩

end Segment

end Scriptlet
