import Mathlib.Data.List.Chain
import Scriptlet.Proofs.Layout.Respacing

/-!
# What layout does to a part of a text

A part of a source that ends in something visible is changed in one way only, if there are no
carriage returns: the spaces and tabs right before its line feeds go. `Text.tidied` is that change.
It follows from two facts. Layout respaces the part, which allows no other change; and in a laid out
text no space or tab stands before a line feed, so that none of them is kept.
-/

namespace Scriptlet

open Layout (isGap)

namespace Text

/-- Whether nothing but spaces and tabs stands before the next line feed. -/
def endsLine : Text → Bool
  | [] => false
  | item :: rest => item = newline || isGap item && endsLine rest

/-- A text without the spaces and tabs that stand right before a line feed. -/
def tidied : Text → Text
  | [] => []
  | item :: rest => if isGap item && endsLine rest then tidied rest else item :: tidied rest

theorem tidied_cons_of_not_gap {item : UInt8} (noGap : isGap item = false) (rest : Text) :
    tidied (item :: rest) = item :: tidied rest := by
  simp [tidied, noGap]

theorem exists_of_endsLine {rest : Text} (ends : endsLine rest) :
    ∃ more, tidied rest = newline :: more := by
  induction rest with
  | nil => cases ends
  | cons item rest ih =>
      simp only [endsLine, Bool.or_eq_true, decide_eq_true_eq, Bool.and_eq_true] at ends
      rcases ends with rfl | ⟨gap, later⟩
      · exact ⟨_, tidied_cons_of_not_gap rfl rest⟩
      · simpa [tidied, gap, later] using ih later

theorem endsLine_append {pivot : UInt8} (noGap : isGap pivot = false) (noNewline : pivot ≠ newline)
    (front back : Text) : endsLine (front ++ pivot :: back) = endsLine front := by
  induction front with
  | nil => simp [endsLine, noGap, noNewline]
  | cons item front ih => simp [endsLine, ih]

/-- Something visible parts a text in two. -/
theorem tidied_append {pivot : UInt8} (noGap : isGap pivot = false) (noNewline : pivot ≠ newline)
    (front back : Text) :
    tidied (front ++ pivot :: back) = tidied front ++ pivot :: tidied back := by
  induction front with
  | nil => exact tidied_cons_of_not_gap noGap back
  | cons item front ih =>
      rw [List.cons_append, tidied, endsLine_append noGap noNewline, tidied, ih]
      split <;> rfl

end Text

namespace Layout

theorem isGap_byte {character : Char} (gap : character ∈ [' ', '\t']) : isGap (byte character) := by
  simp only [List.mem_cons, List.not_mem_nil, or_false] at gap
  rcases gap with rfl | rfl <;> rfl

theorem not_isGap_of_not_blank {item : UInt8} (visible : ¬Blank byte item) :
    isGap item = false := by
  rw [← Bool.not_eq_true]
  intro gap
  rcases eq_byte_of_isGap gap with ⟨character, isGap, rfl⟩
  exact visible (blank_of_gap isGap)

/-- No space or tab stands right before a line feed. -/
def Neat (source : Text) : Prop :=
  source.IsChain fun item next => isGap item → next ≠ Text.newline

/-- A gap that is kept although a line feed comes next is not neat. -/
theorem tidied_cons_of_neat {item : UInt8} {rest : Text} (neat : Neat (item :: rest.tidied)) :
    Text.tidied (item :: rest) = item :: rest.tidied := by
  have kept : (isGap item && rest.endsLine) = false := by
    rw [← Bool.not_eq_true, Bool.and_eq_true]
    rintro ⟨gap, ends⟩
    rcases Text.exists_of_endsLine ends with ⟨more, starts⟩
    rw [starts] at neat
    exact neat.rel gap rfl
  rw [Text.tidied, kept]
  rfl

theorem isGap_line_of_trimLines {source : Text}
    (ends : (trimLines source ++ [Text.newline]).head? = some Text.newline) :
    (source.takeWhile (· ≠ Text.newline)).all isGap := by
  cases source with
  | nil => rfl
  | cons item rest =>
      by_cases isNewline : item = Text.newline
      · simp [isNewline]
      · rw [trimLines_cons isNewline] at ends
        split at ends
        · rename_i gaps
          simpa [isNewline] using gaps
        · exact absurd (Option.some.inj ends) isNewline

theorem neat_trimLines (source : Text) : Neat (trimLines source ++ [Text.newline]) := by
  induction source with
  | nil => exact .singleton _
  | cons item rest ih =>
      by_cases isNewline : item = Text.newline
      · subst isNewline
        rw [trimLines_newline]
        refine ih.cons ?_
        intro next _ gap
        cases gap
      · rw [trimLines_cons isNewline]
        split
        · exact ih
        · rename_i kept
          refine ih.cons ?_
          rintro next starts gap rfl
          apply kept
          rw [List.all_cons, Bool.and_eq_true]
          exact ⟨gap, isGap_line_of_trimLines starts⟩

/-- In a laid out text no space or tab stands right before a line feed. -/
theorem neat_format (source : Text) : Neat (format source) := by
  have neat := neat_trimLines (unixLines source)
  have parts : Text.trimEnd (· = Text.newline) (trimLines (unixLines source)) ++
      (trimLines (unixLines source)).rtakeWhile (· = Text.newline) =
      trimLines (unixLines source) := List.rdropWhile_append_rtakeWhile
  have goesOn : ∃ more, (trimLines (unixLines source)).rtakeWhile (· = Text.newline) ++
      [Text.newline] = Text.newline :: more := by
    cases taken : (trimLines (unixLines source)).rtakeWhile (· = Text.newline) with
    | nil => exact ⟨[], rfl⟩
    | cons first more =>
        have isNewline : first = Text.newline := by
          have member : first ∈ (trimLines (unixLines source)).rtakeWhile (· = Text.newline) := by
            rw [taken]
            exact .head more
          have passes := List.mem_rtakeWhile_imp member
          exact of_decide_eq_true passes
        exact ⟨_, by rw [isNewline]; rfl⟩
  rcases goesOn with ⟨more, goesOn⟩
  rw [← parts, List.append_assoc, goesOn, List.append_cons] at neat
  simp only [format]
  split
  · exact .nil
  · exact List.IsChain.left_of_append neat

end Layout

theorem AtLineEnd.endsLine {rest : Text} (lineEnds : AtLineEnd byte rest)
    (noReturn : byte '\r' ∉ rest) (visible : ∃ item ∈ rest, ¬Blank byte item) : rest.endsLine := by
  induction lineEnds with
  | nil => simp at visible
  | lineFeed rest => rfl
  | carriageReturn rest => simp at noReturn
  | @gap character rest gap tail ih =>
      have later : ∃ item ∈ rest, ¬Blank byte item := by
        rcases visible with ⟨item, member, visible⟩
        rcases List.mem_cons.mp member with rfl | later
        · exact absurd (blank_of_gap gap) visible
        · exact ⟨item, later, visible⟩
      rw [List.mem_cons, not_or] at noReturn
      simp [Text.endsLine, Layout.isGap_byte gap, ih noReturn.2 later]

/-- A part that is respaced up to something visible, and neatly so, is tidied. -/
theorem Respaced.eq_tidied {pivot : UInt8} (visible : ¬Blank byte pivot) {front otherFront : Text}
    (respaced : Respaced byte (front ++ [pivot]) (otherFront ++ [pivot]))
    (noReturn : byte '\r' ∉ front ++ [pivot]) (neat : Layout.Neat (otherFront ++ [pivot])) :
    otherFront ++ [pivot] = Text.tidied (front ++ [pivot]) := by
  generalize whole : front ++ [pivot] = source at respaced noReturn
  generalize otherWhole : otherFront ++ [pivot] = other at respaced neat
  induction respaced generalizing front otherFront with
  | @keep item rest other isKept tail ih =>
      cases front with
      | nil =>
          cases whole
          cases otherFront with
          | nil =>
              cases otherWhole
              rw [Text.tidied_cons_of_not_gap (Layout.not_isGap_of_not_blank visible)]
              rfl
          | cons head otherFront =>
              cases otherWhole
              cases tail with
              | ending blank otherBlank => exact absurd (otherBlank pivot (by simp)) visible
      | cons head front =>
          rw [List.cons_append] at whole
          cases whole
          rw [List.mem_cons, not_or] at noReturn
          cases otherFront with
          | nil =>
              cases otherWhole
              exact absurd (tail.blank_of_blank (by simp) pivot (by simp)) visible
          | cons otherHead otherFront =>
              rw [List.cons_append] at otherWhole
              cases otherWhole
              have later := ih rfl noReturn.2 rfl neat.tail
              rw [later] at neat ⊢
              rw [Layout.tidied_cons_of_neat neat]
  | @trim character rest other gap lineEnds tail ih =>
      cases front with
      | nil =>
          cases whole
          exact absurd (blank_of_gap gap) visible
      | cons head front =>
          rw [List.cons_append] at whole
          cases whole
          rw [List.mem_cons, not_or] at noReturn
          have ends := lineEnds.endsLine noReturn.2 ⟨pivot, by simp, visible⟩
          rw [ih rfl noReturn.2 otherWhole neat, Text.tidied, Layout.isGap_byte gap, ends]
          rfl
  | joined tail ih => simp at noReturn
  | turned tail ih => simp at noReturn
  | ending blank otherBlank =>
      rw [← whole] at blank
      exact absurd (blank pivot (by simp)) visible

end Scriptlet
