import Scriptlet.Proofs.Scanning.Lexicon

/-!
# Block comments

The scanner finds the end of a block comment by counting how many comments are open. Here the count
is held to the grammar: it reaches the end exactly after glyphs whose delimiters close as many
comments as were open, and that means properly nested delimiters between the closing ones.
-/

namespace Scriptlet

open Glyph

/-- A glyph that is a character other than U+FFFD is that character itself, never a stray byte. -/
theorem Glyph.is_iff {character : Char} {glyph : Glyph} (known : character ≠ '\uFFFD') :
    glyph.is character ↔ glyph = .char character := by
  unfold Glyph.is
  rw [decide_eq_true_iff]
  cases glyph with
  | char own => simp [scalar]
  | stray byte => simpa [scalar] using fun same : '\uFFFD' = character => known same.symm

/-- Delimiters that close a number of open comments, the last of them with the last delimiter. -/
inductive Closes : Nat → List Delimiter → Prop where
  | done : Closes 0 []
  | one_more {depth : Nat} {inner rest : List Delimiter} (inside : Balanced inner)
      (tail : Closes depth rest) : Closes (depth + 1) (inner ++ .closing :: rest)

namespace Closes

@[simp]
theorem zero_iff {found : List Delimiter} : Closes 0 found ↔ found = [] := by
  constructor
  · intro closes
    cases closes
    rfl
  · rintro rfl
    exact .done

theorem not_nil {depth : Nat} : ¬Closes (depth + 1) [] := by
  intro closes
  generalize same : [] = found at closes
  cases closes with
  | one_more inside tail => simp at same

@[simp]
theorem plain_iff {depth : Nat} {glyph : Glyph} {rest : List Delimiter} :
    Closes (depth + 1) (.plain glyph :: rest) ↔ Closes (depth + 1) rest := by
  constructor
  · intro closes
    generalize same : .plain glyph :: rest = found at closes
    cases closes with
    | one_more inside tail =>
        cases inside with
        | nil => cases same
        | plain glyph inside =>
            cases same
            exact .one_more inside tail
        | nested inside outside => cases same
  · intro closes
    cases closes with
    | one_more inside tail => exact .one_more (.plain glyph inside) tail

@[simp]
theorem closing_iff {depth : Nat} {rest : List Delimiter} :
    Closes (depth + 1) (.closing :: rest) ↔ Closes depth rest := by
  constructor
  · intro closes
    generalize same : .closing :: rest = found at closes
    cases closes with
    | one_more inside tail =>
        cases inside with
        | nil =>
            cases same
            exact tail
        | plain glyph inside => cases same
        | nested inside outside => cases same
  · intro closes
    exact .one_more .nil closes

@[simp]
theorem opening_iff {depth : Nat} {rest : List Delimiter} :
    Closes (depth + 1) (.opening :: rest) ↔ Closes (depth + 2) rest := by
  constructor
  · intro closes
    generalize same : .opening :: rest = found at closes
    cases closes with
    | one_more inside tail =>
        cases inside with
        | nil => cases same
        | plain glyph inside => cases same
        | nested inside outside =>
            cases same
            simpa using Closes.one_more inside (.one_more outside tail)
  · intro closes
    cases closes with
    | one_more inside tail =>
        cases tail with
        | one_more outside tail => simpa using Closes.one_more (.nested inside outside) tail

end Closes

theorem blockComment_iff {content : List Glyph} :
    BlockComment (spell "/*" ++ content) ↔ Closes 1 (delimiters content) := by
  have reads : delimiters (spell "/*" ++ content) = .opening :: delimiters content := rfl
  constructor
  · rintro ⟨inner, balanced, found⟩
    rw [reads] at found
    rw [List.cons.inj found |>.2]
    exact .one_more balanced .done
  · intro closes
    generalize found : delimiters content = read at closes
    cases closes with
    | one_more inside tail =>
        cases tail with
        | done => exact ⟨_, inside, by rw [reads, found]⟩

theorem exists_of_delimiters_eq_opening {glyphs : List Glyph} {found : List Delimiter}
    (opens : delimiters glyphs = .opening :: found) :
    ∃ content, glyphs = spell "/*" ++ content := by
  match glyphs with
  | [] => cases opens
  | [glyph] => cases opens
  | first :: second :: rest =>
      unfold delimiters at opens
      split at opens
      · rename_i delimiter
        rcases delimiter with ⟨rfl, rfl⟩
        exact ⟨rest, rfl⟩
      split at opens
      · cases opens
      · cases opens

theorem delimiters_ne_nil (first : Glyph) (rest : List Glyph) :
    delimiters (first :: rest) ≠ [] := by
  cases rest with
  | nil => simp [delimiters]
  | cons second rest =>
      unfold delimiters
      split
      · simp
      split
      · simp
      · simp

namespace Segment

/-- Counting reaches the end of the open comments exactly where the delimiters have closed them. -/
theorem commentLength?_eq_some_iff {depth length : Nat} {glyphs : List Glyph} :
    commentLength? depth glyphs = some length ↔
      length ≤ glyphs.length ∧ Closes depth (delimiters (glyphs.take length)) := by
  fun_induction commentLength? depth glyphs generalizing length with
  | case1 glyphs =>
      match length, glyphs with
      | 0, glyphs => simp [delimiters]
      | length + 1, [] => simp
      | length + 1, first :: rest =>
          simp [delimiters_ne_nil]
  | case2 depth =>
      match length with
      | 0 => simp [delimiters, Closes.not_nil]
      | length + 1 => simp
  | case3 depth glyph =>
      match length with
      | 0 => simp [delimiters, Closes.not_nil]
      | 1 => simp [delimiters, Closes.not_nil]
      | length + 2 => simp
  | case4 depth first second rest opens ih =>
      simp only [Bool.and_eq_true, is_iff (show '/' ≠ '\uFFFD' by decide),
        is_iff (show '*' ≠ '\uFFFD' by decide)] at opens
      match length with
      | 0 => simp [delimiters, Closes.not_nil]
      | 1 => simp [delimiters, Closes.not_nil]
      | length + 2 => simp [ih, delimiters, opens]
  | case5 depth first second rest opens closes ih =>
      simp only [Bool.and_eq_true, is_iff (show '/' ≠ '\uFFFD' by decide),
        is_iff (show '*' ≠ '\uFFFD' by decide)] at opens closes
      match length with
      | 0 => simp [delimiters, Closes.not_nil]
      | 1 => simp [delimiters, Closes.not_nil]
      | length + 2 => simp [ih, delimiters, closes]
  | case6 depth first second rest opens closes ih =>
      simp only [Bool.and_eq_true, is_iff (show '/' ≠ '\uFFFD' by decide),
        is_iff (show '*' ≠ '\uFFFD' by decide)] at opens closes
      match length with
      | 0 => simp [delimiters, Closes.not_nil]
      | 1 => simp [delimiters, Closes.not_nil, ih]
      | length + 2 => simp [ih, delimiters, opens, closes]

end Segment

end Scriptlet
