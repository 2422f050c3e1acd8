import Mathlib.Tactic.FinCases
import Mathlib.Tactic.IntervalCases
import Scriptlet.Proofs.Scanning.Comments

/-!
# Lexemes by their first glyph

The first glyph of a lexeme decides what the lexeme can be: marks, numbers, strings and names start
with different glyphs. This file inverts the lexical grammar accordingly, and shows that what the
scanner takes for each class of first glyph is a lexeme of the right kind.
-/

namespace Scriptlet

open Glyph

theorem Glyph.not_continuesName_stray (byte : UInt8) : (stray byte).continuesName = false := by
  have replaced : (stray byte).continuesName = (char '\uFFFD').continuesName := rfl
  rw [replaced]
  decide +kernel

theorem Glyph.continuesName_of_startsName {glyph : Glyph} (starts : glyph.startsName) :
    glyph.continuesName := by
  simp only [startsName, continuesName, Bool.or_eq_true] at starts ⊢
  rcases starts with letter | underscore
  · exact .inl (.inl letter)
  · exact .inr underscore

theorem Glyph.exists_chars_of_continuesName {glyphs : List Glyph}
    (continues : ∀ glyph ∈ glyphs, glyph.continuesName) :
    ∃ characters : List Char, glyphs = characters.map Glyph.char := by
  induction glyphs with
  | nil => exact ⟨[], rfl⟩
  | cons glyph rest ih =>
      rcases ih fun other member => continues other (.tail _ member) with ⟨characters, rfl⟩
      cases glyph with
      | char character => exact ⟨character :: characters, rfl⟩
      | stray byte =>
          have := continues (stray byte) (.head _)
          rw [not_continuesName_stray] at this
          cases this

theorem Glyph.join_map_char (characters : List Char) :
    Glyph.join (characters.map Glyph.char) = text (String.ofList characters) := by
  simp only [Glyph.join, text, String.toByteArray_ofList, List.utf8Encode,
    List.data_toByteArray, List.flatMap_map]
  rfl

theorem Glyph.join_spell (spelling : String) : Glyph.join (spell spelling) = text spelling := by
  rw [spell, join_map_char, String.ofList_toList]

theorem text_injective {left right : String} (same : text left = text right) : left = right := by
  apply String.toByteArray_inj.mp
  apply ByteArray.ext
  apply Array.toList_inj.mp
  exact same

theorem Keyword.mem_all (word : Keyword) : word ∈ Keyword.all := by
  cases word <;> decide

theorem Keyword.spelling_injective {left right : Keyword}
    (same : left.spelling = right.spelling) : left = right := by
  have distinct : ∀ one ∈ all, ∀ other ∈ all, one.spelling = other.spelling → one = other := by
    decide
  exact distinct left (mem_all left) right (mem_all right) same

theorem Keyword.ofText?_eq_some_iff {word : Keyword} {name : Text} :
    Keyword.ofText? name = some word ↔ name = word.text := by
  constructor
  · intro found
    have matching := List.find?_some found
    exact (of_decide_eq_true matching).symm
  · rintro rfl
    unfold ofText?
    cases found : all.find? (fun keyword => keyword.text = word.text) with
    | none =>
        have differs := List.find?_eq_none.mp found word (mem_all word)
        simp at differs
    | some other =>
        have matching := List.find?_some found
        have sameText : other.text = word.text := of_decide_eq_true matching
        rw [spelling_injective (text_injective sameText)]

theorem lexeme_nameKind {first : Glyph} {rest : List Glyph} (starts : first.startsName)
    (continues : ∀ glyph ∈ rest, glyph.continuesName) :
    Lexeme (Segment.nameKind (Glyph.join (first :: rest))) (first :: rest) := by
  have allContinue : ∀ glyph ∈ first :: rest, glyph.continuesName := by
    intro glyph member
    rcases List.mem_cons.mp member with rfl | later
    · exact continuesName_of_startsName starts
    · exact continues glyph later
  rcases exists_chars_of_continuesName allContinue with ⟨characters, spelled⟩
  unfold Segment.nameKind
  split
  · rename_i word found
    have sameText := Keyword.ofText?_eq_some_iff.mp found
    rw [spelled, join_map_char] at sameText
    have sameSpelling : characters = word.spelling.toList := by
      rw [← text_injective sameText, String.toList_ofList]
    rw [spelled, sameSpelling]
    exact .keyword word
  · rename_i notFound
    refine .identifier starts continues ?_
    intro word same
    have found := Keyword.ofText?_eq_some_iff.mpr ((congrArg Glyph.join same).trans (join_spell _))
    rw [notFound] at found
    cases found

/-- A mark is one character, a comparison that may end in an equals sign, or one of the marks that
start with an exclamation mark. -/
theorem mark_cases {kind : TokenKind} {spelling : String} (known : (kind, spelling) ∈ marks) :
    ∃ head tail, spelling.toList = head :: tail ∧
      ((Segment.mark? head).isSome ∧ tail = [] ∨
        (Segment.comparison? head).isSome ∧ (tail = [] ∨ tail = ['=']) ∨
        head = '/' ∧ tail = [] ∨
        head = '!' ∧ (tail = [] ∨ tail = ['='] ∨ tail = ['i', 'n'])) := by
  fin_cases known <;> exact ⟨_, _, rfl, by decide⟩

theorem mark_head {kind : TokenKind} {spelling : String} (known : (kind, spelling) ∈ marks) :
    ∃ head tail, spelling.toList = head :: tail ∧ (char head).isDigit = false ∧
      (char head).startsName = false ∧ head ≠ '"' := by
  fin_cases known <;> exact ⟨_, _, rfl, by decide⟩

theorem Lexeme.mark_ofList {kind : TokenKind} {spelling : List Char}
    (known : (kind, String.ofList spelling) ∈ marks) : Lexeme kind (spelling.map Glyph.char) := by
  have isLexeme := Lexeme.mark known
  rw [spell, String.toList_ofList] at isLexeme
  exact isLexeme

theorem Segment.lexeme_of_mark? {character : Char} {kind : TokenKind}
    (found : mark? character = some kind) : Lexeme kind [char character] := by
  have known : (kind, String.ofList [character]) ∈ marks := by
    unfold mark? at found
    split at found
    all_goals cases found
    all_goals decide
  exact Lexeme.mark_ofList known

theorem Segment.lexeme_of_comparison? {character : Char} {alone withEqual : TokenKind}
    (found : comparison? character = some (alone, withEqual)) :
    Lexeme alone [char character] ∧ Lexeme withEqual [char character, char '='] := by
  have known : (alone, String.ofList [character]) ∈ marks ∧
      (withEqual, String.ofList [character, '=']) ∈ marks := by
    unfold comparison? at found
    split at found
    all_goals cases found
    all_goals decide
  exact ⟨Lexeme.mark_ofList known.1, Lexeme.mark_ofList known.2⟩

/-- What a lexeme is, by its first glyph. -/
theorem Lexeme.shape {kind : TokenKind} {first : Glyph} {tail : List Glyph}
    (isLexeme : Lexeme kind (first :: tail)) :
    (∃ spelling, (kind, spelling) ∈ marks ∧ first :: tail = spell spelling) ∨
      first.isDigit ∧ ((∀ glyph ∈ tail, glyph.isDigit) ∨
        ∃ digits place places, tail = digits ++ char '.' :: place :: places ∧
          (∀ glyph ∈ digits, glyph.isDigit) ∧ place.isDigit ∧ ∀ glyph ∈ places, glyph.isDigit) ∨
      first = char '"' ∧ (∃ content, tail = content ++ [char '"'] ∧
        ∀ glyph ∈ content, glyph ≠ char '"') ∨
      first.startsName ∧ ∀ glyph ∈ tail, glyph.continuesName := by
  generalize same : first :: tail = glyphs at isLexeme
  cases isLexeme with
  | mark known => exact .inl ⟨_, known, rfl⟩
  | whole starts continues =>
      cases same
      exact .inr (.inl ⟨starts, .inl continues⟩)
  | fraction starts continues placed ends =>
      cases same
      exact .inr (.inl ⟨starts, .inr ⟨_, _, _, rfl, continues, placed, ends⟩⟩)
  | string unquoted =>
      cases same
      exact .inr (.inr (.inl ⟨rfl, _, rfl, unquoted⟩))
  | keyword word =>
      have named : ∀ known : Keyword, ∃ head tail, known.spelling.toList = head :: tail ∧
          (char head).startsName ∧ tail.all fun character => (char character).continuesName := by
        intro known
        cases known <;> exact ⟨_, _, rfl, by decide⟩
      rcases named word with ⟨head, letters, spelled, starts, continues⟩
      rw [spell, spelled] at same
      cases same
      refine .inr (.inr (.inr ⟨starts, ?_⟩))
      intro glyph member
      rcases List.mem_map.mp member with ⟨character, letter, rfl⟩
      exact List.all_eq_true.mp continues character letter
  | identifier starts continues free =>
      cases same
      exact .inr (.inr (.inr ⟨starts, continues⟩))

theorem Lexeme.ne_nil {kind : TokenKind} {glyphs : List Glyph} (isLexeme : Lexeme kind glyphs) :
    glyphs ≠ [] := by
  cases isLexeme with
  | mark known =>
      rcases mark_cases known with ⟨head, tail, spelled, -⟩
      simp [spell, spelled]
  | whole starts continues => simp
  | fraction starts continues placed ends => simp
  | string unquoted => simp
  | keyword word => cases word <;> decide
  | identifier starts continues free => simp

theorem Glyph.not_startsName_of_isDigit {glyph : Glyph} (digit : glyph.isDigit) :
    glyph.startsName = false := by
  cases glyph with
  | stray byte => cases digit
  | char character =>
      have bounds : 48 ≤ character.toNat ∧ character.toNat ≤ 57 := by
        simpa [isDigit, scalar, Char.isDigit, UInt32.le_iff_toNat_le] using digit
      rcases bounds with ⟨lower, upper⟩
      rw [← Char.ofNat_toNat character]
      interval_cases character.toNat <;> decide

theorem Lexeme.tail_of_mark_head {kind : TokenKind} {first : Glyph} {tail : List Glyph}
    (isLexeme : Lexeme kind (first :: tail)) (noDigit : first.isDigit = false)
    (noQuote : first ≠ char '"') (noName : first.startsName = false) :
    (Segment.mark? first.scalar).isSome ∧ tail = [] ∨
      (Segment.comparison? first.scalar).isSome ∧ (tail = [] ∨ tail = [char '=']) ∨
      first = char '/' ∧ tail = [] ∨
      first = char '!' ∧ (tail = [] ∨ tail = [char '='] ∨ tail = [char 'i', char 'n']) := by
  rcases isLexeme.shape with ⟨spelling, known, same⟩ | ⟨digit, -⟩ | ⟨quote, -⟩ | ⟨starts, -⟩
  · rcases mark_cases known with ⟨head, others, spelled, possible⟩
    rw [spell, spelled] at same
    injection same with sameHead sameTail
    subst sameHead sameTail
    have spelledIn : others.map Glyph.char = [char 'i', char 'n'] ↔ others = ['i', 'n'] :=
      ⟨fun same => List.map_injective_iff.mpr (fun _ _ => Glyph.char.inj) same, congrArg _⟩
    simpa [spelledIn, scalar] using possible
  · rw [noDigit] at digit
    cases digit
  · exact absurd quote noQuote
  · rw [noName] at starts
    cases starts

theorem Lexeme.tail_of_digit {kind : TokenKind} {first : Glyph} {tail : List Glyph}
    (isLexeme : Lexeme kind (first :: tail)) (digit : first.isDigit) :
    (∀ glyph ∈ tail, glyph.isDigit) ∨
      ∃ digits place places, tail = digits ++ char '.' :: place :: places ∧
        (∀ glyph ∈ digits, glyph.isDigit) ∧ place.isDigit ∧ ∀ glyph ∈ places, glyph.isDigit := by
  rcases isLexeme.shape with ⟨spelling, known, same⟩ | ⟨-, number⟩ | ⟨quote, -⟩ | ⟨starts, -⟩
  · rcases mark_head known with ⟨head, others, spelled, noDigit, -⟩
    rw [spell, spelled] at same
    rw [(List.cons.inj same).1, noDigit] at digit
    cases digit
  · exact number
  · subst quote
    cases digit
  · rw [not_startsName_of_isDigit digit] at starts
    cases starts

theorem Lexeme.tail_of_quote {kind : TokenKind} {tail : List Glyph}
    (isLexeme : Lexeme kind (char '"' :: tail)) :
    ∃ content, tail = content ++ [char '"'] ∧ ∀ glyph ∈ content, glyph ≠ char '"' := by
  rcases isLexeme.shape with ⟨spelling, known, same⟩ | ⟨digit, -⟩ | ⟨-, string⟩ | ⟨starts, -⟩
  · rcases mark_head known with ⟨head, others, spelled, -, -, noQuote⟩
    rw [spell, spelled] at same
    injection same with sameHead
    injection sameHead with sameHead
    exact absurd sameHead.symm noQuote
  · cases digit
  · exact string
  · exact absurd starts (by decide)

theorem Lexeme.tail_of_startsName {kind : TokenKind} {first : Glyph} {tail : List Glyph}
    (isLexeme : Lexeme kind (first :: tail)) (starts : first.startsName) :
    ∀ glyph ∈ tail, glyph.continuesName := by
  rcases isLexeme.shape with ⟨spelling, known, same⟩ | ⟨digit, -⟩ | ⟨quote, -⟩ | ⟨-, name⟩
  · rcases mark_head known with ⟨head, others, spelled, -, noName, -⟩
    rw [spell, spelled] at same
    rw [(List.cons.inj same).1, noName] at starts
    cases starts
  · rw [not_startsName_of_isDigit digit] at starts
    cases starts
  · subst quote
    exact absurd starts (by decide)
  · exact name

end Scriptlet
