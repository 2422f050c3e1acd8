import Mathlib.Data.List.DropRight
import Scriptlet.Text.Basic

/-!
# Lines and occurrences

A text has one line more than line feeds, and no line holds one. A part of a text without line feeds
therefore lies on one line, whose number is the number of line feeds before the part. Trimming the
end of that line leaves the part alone if the part ends with a byte that is kept.
-/

namespace Scriptlet.Text

theorem trimEnd_eq_nil_iff {test : UInt8 → Bool} {source : Text} :
    trimEnd test source = [] ↔ ∀ byte ∈ source, test byte :=
  List.rdropWhile_eq_nil_iff

theorem trimEnd_cons (test : UInt8 → Bool) (byte : UInt8) (rest : Text) :
    trimEnd test (byte :: rest) =
      if test byte ∧ trimEnd test rest = [] then [] else byte :: trimEnd test rest := by
  split
  · rename_i trimmed
    rw [trimEnd_eq_nil_iff] at trimmed ⊢
    simpa using trimmed
  · rename_i kept
    simp only [trimEnd, List.reverse_cons, List.dropWhile_append]
    split
    · rename_i emptied
      have nothing : trimEnd test rest = [] := by
        simp only [trimEnd, List.isEmpty_iff.mp emptied, List.reverse_nil]
      have fails : test byte = false := by simpa [nothing] using kept
      simp [fails, List.isEmpty_iff.mp emptied]
    · simp

/-- Trimming stops at a byte that fails the test. -/
theorem trimEnd_append_cons (test : UInt8 → Bool) {kept : UInt8} (fails : test kept = false)
    (front back : Text) :
    trimEnd test (front ++ kept :: back) = front ++ kept :: trimEnd test back := by
  induction front with
  | nil => simp [trimEnd_cons, fails]
  | cons byte rest ih => simp [trimEnd_cons, ih]

theorem not_of_getLast?_rdropWhile {α : Type} {test : α → Bool} {items : List α} {last : α}
    (ends : (items.rdropWhile test).getLast? = some last) : ¬test last := by
  rcases List.getLast?_eq_some_iff.mp ends with ⟨rest, parts⟩
  have stops := List.rdropWhile_last_not test items (by simp [parts])
  simpa [parts] using stops

theorem pieces_eq_splitOn (separator : UInt8) (source : Text) :
    pieces separator source = source.splitOn separator := by
  induction source with
  | nil => rfl
  | cons byte rest ih =>
      rw [List.splitOn_cons_eq_if_modifyHead, ← ih]
      simp only [pieces, List.foldr_cons, beq_iff_eq]
      congr 1
      split
      · rename_i nothing
        exact absurd (ih.symm.trans nothing) (List.splitOn_ne_nil _ _)
      · rename_i parts
        rw [parts]
        rfl

theorem lines_cons (byte : UInt8) (rest : Text) :
    lines (byte :: rest) =
      if byte = newline then [] :: lines rest
      else match lines rest with
        | [] => [[byte]]
        | line :: more => (byte :: line) :: more :=
  rfl

theorem lines_eq_cons (source : Text) :
    ∃ more, lines source = source.takeWhile (· ≠ newline) :: more := by
  induction source with
  | nil => exact ⟨[], rfl⟩
  | cons byte rest ih =>
      rcases ih with ⟨more, found⟩
      rw [lines_cons, found]
      split
      · rename_i isNewline
        rw [List.takeWhile_cons_of_neg (by simp [isNewline])]
        exact ⟨_, rfl⟩
      · rename_i noNewline
        exact ⟨more, by simp [noNewline]⟩

theorem joinWith_cons_cons (separator : Text) (byte : UInt8) (line : Text) (more : List Text) :
    joinWith separator ((byte :: line) :: more) = byte :: joinWith separator (line :: more) := by
  cases more <;> simp [joinWith, List.intercalate]

theorem newlines_cons (byte : UInt8) (rest : Text) :
    newlines (byte :: rest) = newlines rest + if byte = newline then 1 else 0 := by
  simp [newlines, List.count_cons]

theorem newlines_eq_zero_iff {source : Text} : source.newlines = 0 ↔ newline ∉ source :=
  List.count_eq_zero

theorem length_lines (source : Text) : source.lines.length = source.newlines + 1 := by
  induction source with
  | nil => rfl
  | cons byte rest ih =>
      rcases lines_eq_cons rest with ⟨more, found⟩
      rw [found, List.length_cons] at ih
      rw [lines_cons, found, newlines_cons]
      split
      · simpa using ih
      · simpa using ih

theorem newline_not_mem_of_mem_lines {source : Text} :
    ∀ line ∈ source.lines, newline ∉ line := by
  induction source with
  | nil => simp [lines, pieces]
  | cons byte rest ih =>
      rcases lines_eq_cons rest with ⟨more, found⟩
      rw [found, List.forall_mem_cons] at ih
      rw [lines_cons, found]
      split
      · exact List.forall_mem_cons.mpr ⟨List.not_mem_nil, List.forall_mem_cons.mpr ih⟩
      · rename_i noNewline
        refine List.forall_mem_cons.mpr ⟨?_, ih.2⟩
        exact List.not_mem_cons_of_ne_of_not_mem (Ne.symm noNewline) ih.1

theorem lines_append_newline (front back : Text) :
    lines (front ++ newline :: back) = lines front ++ lines back := by
  simp only [lines, pieces_eq_splitOn, List.splitOn_append_cons_self]

theorem lines_of_not_mem {source : Text} (fresh : newline ∉ source) : lines source = [source] := by
  rw [lines, pieces_eq_splitOn, List.splitOn_eq_singleton fresh]

theorem lines_joinWith_of_not_mem {parts : List Text} (single : ∀ part ∈ parts, newline ∉ part)
    (some : parts ≠ []) : lines (joinWith [newline] parts) = parts := by
  rw [lines, pieces_eq_splitOn, joinWith, List.splitOn_intercalate newline single some]

theorem newlines_joinWith {parts : List Text} (single : ∀ part ∈ parts, newline ∉ part)
    (some : parts ≠ []) : newlines (joinWith [newline] parts) + 1 = parts.length := by
  rw [← length_lines, lines_joinWith_of_not_mem single some]

/-- Lines that are joined are the lines of the parts. -/
theorem lines_joinWith {parts : List Text} (some : parts ≠ []) :
    lines (joinWith [newline] parts) = parts.flatMap lines := by
  induction parts with
  | nil => exact absurd rfl some
  | cons part rest ih =>
      by_cases last : rest = []
      · subst last
        rw [joinWith, List.intercalate_singleton, List.flatMap_singleton]
      · rw [List.flatMap_cons, ← ih last, ← lines_append_newline, joinWith,
          List.intercalate_cons_of_ne_nil last, List.append_assoc]
        rfl

/-- The line that a part without line feeds lies on. -/
theorem exists_line_of_part {part : Text} (inLine : newline ∉ part) (before after : Text) :
    ∃ front back,
      (lines (before ++ part ++ after))[before.newlines]? = some (front ++ part ++ back) := by
  induction before with
  | nil =>
      rcases lines_eq_cons (part ++ after) with ⟨more, found⟩
      have passes : ∀ byte ∈ part, decide (byte ≠ newline) = true := by
        intro byte member
        simpa using ne_of_mem_of_not_mem member inLine
      rw [List.takeWhile_append_of_pos passes] at found
      exact ⟨[], after.takeWhile (· ≠ newline), by simp [found, newlines]⟩
  | cons byte rest ih =>
      rcases ih with ⟨front, back, found⟩
      rw [List.cons_append, List.cons_append, lines_cons, newlines_cons]
      split
      · exact ⟨front, back, found⟩
      · rcases lines_eq_cons (rest ++ part ++ after) with ⟨more, parts⟩
        rw [parts] at found ⊢
        -- The byte goes before the part only if it stands on the same line.
        cases number : newlines rest with
        | zero =>
            rw [number, List.getElem?_cons_zero, Option.some.injEq] at found
            exact ⟨byte :: front, back, congrArg (fun line => some (byte :: line)) found⟩
        | succ earlier =>
            rw [number, List.getElem?_cons_succ] at found
            exact ⟨front, back, found⟩

theorem cut?_append {pivot : UInt8} {front : Text} (fresh : pivot ∉ front) (back : Text) :
    cut? (· = pivot) (front ++ pivot :: back) = some (front, back) := by
  have passes : ∀ item ∈ front, (!decide (item = pivot)) = true := by
    intro item member
    simpa using ne_of_mem_of_not_mem member fresh
  simp [cut?, List.dropWhile_append_of_pos passes, List.takeWhile_append_of_pos passes]

theorem cut?_of_not_mem {pivot : UInt8} {source : Text} (fresh : pivot ∉ source) :
    cut? (· = pivot) source = none := by
  have passes : source.dropWhile (fun item => !decide (item = pivot)) = [] := by
    rw [List.dropWhile_eq_nil_iff]
    intro item member
    simpa using ne_of_mem_of_not_mem member fresh
  simp [cut?, passes]

theorem isSome_indexFrom?_iff {needle source : Text} {offset : Nat} :
    (indexFrom? needle source offset).isSome ↔ needle <:+: source := by
  induction source generalizing offset with
  | nil => cases needle <;> simp [indexFrom?]
  | cons byte rest ih =>
      rw [indexFrom?, List.infix_cons_iff, ← @ih (offset + 1), ← List.isPrefixOf_iff_prefix]
      split <;> simp_all

theorem includes_iff {source needle : Text} : source.includes needle ↔ needle <:+: source :=
  isSome_indexFrom?_iff

end Scriptlet.Text
