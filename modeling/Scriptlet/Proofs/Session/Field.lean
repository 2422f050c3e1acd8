import Mathlib.Data.List.Basic
import Scriptlet.Session.Field

/-!
# The input field keeps its limits

The cursor of a field stands among its characters or right behind them, there are no more of these
than the field holds, and all of them are such that entering text leaves them in. Editing keeps
this: the window that follows the cursor touches neither, every cut is made where the cursor is or
was, and nothing but entered text gets in. So what was in a field once can be set again, and comes
back unchanged.
-/

namespace Scriptlet

namespace Field

/-- Whether entering text leaves a character as it is. -/
def IsEntered (character : Char) : Prop :=
  character ≠ '\uFFFD' ∧ Category.isControl character = false

theorem isEntered_of_mem_sanitize {characters : List Char} {character : Char}
    (member : character ∈ sanitize characters) : IsEntered character := by
  rcases List.mem_filterMap.mp member with ⟨entered, -, kept⟩
  split at kept
  · cases kept
    exact ⟨by decide, by decide⟩
  · split at kept
    · cases kept
    · rename_i passes
      cases kept
      simpa [IsEntered, not_or] using passes

theorem sanitize_eq_self {characters : List Char}
    (entered : ∀ character ∈ characters, IsEntered character) :
    sanitize characters = characters := by
  refine (List.filterMap_congr ?_).trans List.filterMap_some
  intro character member
  rcases entered character member with ⟨readable, noControl⟩
  -- Line ends and tabs are control characters themselves.
  have noEnd : ¬(character = '\r' ∨ character = '\n' ∨ character = '\t') := by
    rintro (rfl | rfl | rfl)
    all_goals exact absurd noControl (by decide)
  simp only [not_or] at noEnd
  simp [noEnd, readable, noControl]

/-- A field within its limits. -/
structure Fits (field : Field) : Prop where
  position_le : field.position ≤ field.value.length
  length_le : field.value.length ≤ capacity
  entered : ∀ character ∈ field.value, IsEntered character

/-- Scrolling moves the window and nothing else. -/
theorem exists_scroll_eq (field : Field) :
    ∃ first last, field.scroll = { field with first, last } := by
  unfold scroll
  split
  · exact ⟨_, _, rfl⟩
  · dsimp only
    split
    · exact ⟨_, _, rfl⟩
    · split
      · exact ⟨_, _, rfl⟩
      · exact ⟨field.first, _, rfl⟩

@[simp]
theorem value_scroll (field : Field) : field.scroll.value = field.value := by
  rcases exists_scroll_eq field with ⟨first, last, scrolled⟩
  rw [scrolled]

@[simp]
theorem position_scroll (field : Field) : field.scroll.position = field.position := by
  rcases exists_scroll_eq field with ⟨first, last, scrolled⟩
  rw [scrolled]

@[simp]
theorem value_moveTo (field : Field) (position : Nat) :
    (field.moveTo position).value = field.value :=
  value_scroll _

@[simp]
theorem position_moveTo (field : Field) (position : Nat) :
    (field.moveTo position).position = min position field.value.length :=
  position_scroll _

@[simp]
theorem value_replace (field : Field) (characters : List Char) :
    (field.replace characters).value = characters.take capacity := by
  unfold replace
  dsimp only
  split
  · rw [value_scroll, value_moveTo]
  · rw [value_scroll]

theorem position_replace_le (field : Field) (characters : List Char) :
    (field.replace characters).position ≤ (characters.take capacity).length := by
  unfold replace
  dsimp only
  split
  · rw [position_scroll, position_moveTo]
    exact Nat.min_le_left _ _
  · rename_i inside
    rw [position_scroll]
    simp only [Bool.or_eq_true, decide_eq_true_eq, not_or, Nat.not_lt] at inside
    exact inside.2

theorem skipSpaces_keeps (field : Field) (fuel : Nat) :
    (field.skipSpaces fuel).value = field.value ∧
      (field.skipSpaces fuel).position ≤ field.position := by
  induction fuel generalizing field with
  | zero => exact ⟨rfl, Nat.le_refl _⟩
  | succ fuel ih =>
      rw [skipSpaces]
      split
      · rcases ih (field.moveTo (field.position - 1)) with ⟨value, position⟩
        rw [value_moveTo] at value
        rw [position_moveTo] at position
        exact ⟨value, by omega⟩
      · exact ⟨rfl, Nat.le_refl _⟩

/-- The cursor ends right behind a blank, so it may move right by one, but not further. -/
theorem skipWord_keeps (field : Field) (fuel : Nat) :
    (field.skipWord fuel).value = field.value ∧
      (field.skipWord fuel).position ≤ field.position + 1 := by
  induction fuel generalizing field with
  | zero => exact ⟨rfl, Nat.le_succ _⟩
  | succ fuel ih =>
      rw [skipWord]
      split
      · exact ⟨rfl, Nat.le_succ _⟩
      · split
        · rw [value_moveTo, position_moveTo]
          exact ⟨rfl, Nat.min_le_left _ _⟩
        · rcases ih (field.moveTo (field.position - 1)) with ⟨value, position⟩
          rw [value_moveTo] at value
          rw [position_moveTo] at position
          exact ⟨value, by omega⟩

namespace Fits

variable {field changed : Field}

theorem of_sublist (fits : field.Fits) (kept : changed.value.Sublist field.value)
    (position_le : changed.position ≤ changed.value.length) : changed.Fits :=
  ⟨position_le, Nat.le_trans kept.length_le fits.length_le,
    fun character member => fits.entered character (kept.subset member)⟩

theorem scroll (fits : field.Fits) : field.scroll.Fits :=
  fits.of_sublist (by simp) (by simpa using fits.position_le)

theorem moveTo_of_sublist (fits : field.Fits) (kept : changed.value.Sublist field.value)
    (position : Nat) : (changed.moveTo position).Fits := by
  refine fits.of_sublist (by rwa [value_moveTo]) ?_
  rw [position_moveTo, value_moveTo]
  exact Nat.min_le_right _ _

theorem moveTo (fits : field.Fits) (position : Nat) : (field.moveTo position).Fits :=
  fits.moveTo_of_sublist (.refl _) position

theorem set (field : Field) (characters : List Char) : (field.set characters).Fits := by
  have value : (field.set characters).value = (sanitize characters).take capacity :=
    value_replace field _
  refine ⟨?_, ?_, ?_⟩
  · rw [value]
    exact position_replace_le field _
  · rw [value]
    exact List.length_take_le _ _
  · intro character member
    rw [value] at member
    exact isEntered_of_mem_sanitize (List.mem_of_mem_take member)

theorem setToEnd (field : Field) (characters : List Char) : (field.setToEnd characters).Fits :=
  (Fits.set field characters).moveTo _

theorem insert (fits : field.Fits) (characters : List Char) : (field.insert characters).Fits := by
  unfold Field.insert
  dsimp only
  split
  · exact fits
  · have inside := fits.position_le
    have room := fits.length_le
    apply scroll
    refine ⟨?_, ?_, ?_⟩
    · simp only [List.length_append, List.length_take, List.length_drop]
      omega
    · simp only [List.length_append, List.length_take, List.length_drop]
      omega
    · intro character member
      rw [List.mem_append, List.mem_append] at member
      rcases member with (before | new) | after
      · exact fits.entered character (List.mem_of_mem_take before)
      · exact isEntered_of_mem_sanitize (List.mem_of_mem_take new)
      · exact fits.entered character (List.mem_of_mem_drop after)

theorem type (fits : field.Fits) (characters : List Char) : (field.type characters).Fits :=
  (fits.insert characters).scroll

theorem cut_sublist {start stop : Nat} (ordered : start ≤ stop) (characters : List Char) :
    (characters.take start ++ characters.drop stop).Sublist characters := by
  have kept := (List.Sublist.refl (characters.take start)).append
    (List.drop_sublist_drop_left characters ordered)
  rwa [List.take_append_drop] at kept

theorem backspace (fits : field.Fits) : field.backspace.Fits := by
  unfold Field.backspace
  split
  · exact fits
  · exact fits.moveTo_of_sublist (cut_sublist (Nat.sub_le _ _) _) _

theorem delete (fits : field.Fits) : field.delete.Fits := by
  have inside := fits.position_le
  refine fits.of_sublist (cut_sublist (Nat.le_succ _) _) ?_
  simp only [Field.delete, List.length_append, List.length_take]
  omega

theorem clearBefore (fits : field.Fits) : field.clearBefore.Fits :=
  fits.moveTo_of_sublist (List.drop_sublist _ _) 0

theorem deleteWord (fits : field.Fits) : field.deleteWord.Fits := by
  unfold Field.deleteWord
  dsimp only
  split
  · exact fits
  · rename_i behind
    -- The search for the word starts one place before the cursor, so it does not end behind it.
    rcases skipSpaces_keeps (field.moveTo (field.position - 1)) field.position with
      ⟨spacedValue, spacedPosition⟩
    generalize (field.moveTo (field.position - 1)).skipSpaces field.position = spaced at *
    rcases skipWord_keeps spaced (spaced.position + 1) with ⟨movedValue, movedPosition⟩
    generalize spaced.skipWord (spaced.position + 1) = moved at *
    rw [value_moveTo] at spacedValue
    rw [position_moveTo] at spacedPosition
    rw [spacedValue] at movedValue
    have inside := fits.position_le
    have back : moved.position ≤ field.position := by omega
    rw [movedValue]
    refine fits.of_sublist (cut_sublist back _) ?_
    simp only [List.length_append, List.length_take]
    omega

/-- Every key keeps a field within its limits. -/
theorem press (fits : field.Fits) (key : Key) : (field.press key).Fits := by
  cases key with
  | left => exact (fits.moveTo _).scroll
  | right => exact (fits.moveTo _).scroll
  | home => exact (fits.moveTo _).scroll
  | finish => exact (fits.moveTo _).scroll
  | backspace => exact fits.backspace.scroll
  | delete => exact fits.delete.scroll
  | clearBefore => exact fits.clearBefore.scroll
  | deleteWord => exact fits.deleteWord.scroll

end Fits

/-- What was in a field comes back unchanged, with the cursor behind it. -/
theorem setToEnd_of_fits (field : Field) {characters : List Char}
    (length_le : characters.length ≤ capacity)
    (entered : ∀ character ∈ characters, IsEntered character) :
    (field.setToEnd characters).value = characters ∧
      (field.setToEnd characters).position = characters.length := by
  have value : (field.set characters).value = characters := by
    rw [Field.set, value_replace, sanitize_eq_self entered, List.take_of_length_le length_le]
  refine ⟨by rw [setToEnd, value_moveTo, value], ?_⟩
  rw [setToEnd, position_moveTo, value, Nat.min_self]

end Field

end Scriptlet
