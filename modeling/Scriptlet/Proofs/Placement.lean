import Scriptlet.Proofs.Scanning.Places
import Scriptlet.Proofs.Stages
import Scriptlet.Proofs.Text.Lines
import Scriptlet.Proofs.Text.Units

/-!
# Faults lie on lines of their source

A token of a source stands in the source, and its line counts the line feeds up to its end. So a
lexeme without a line feed occurs on that line. It also occurs there after carriage returns were
trimmed off the end of the line, since it ends with a character that no trimming takes off.

Scanning finds faults without a token, on lines of the source, and reading blames tokens of the
source. Either way the line of the fault is there, and the lexeme at fault occurs on it.
-/

namespace Scriptlet

open Glyph

/-- A character that stays at the end of a trimmed line. -/
def Glyph.IsSolid (glyph : Glyph) : Prop :=
  ∃ character, glyph = .char character ∧ character ≠ '\r'

theorem Glyph.isSolid_of_isDigit {glyph : Glyph} (digit : glyph.isDigit) : glyph.IsSolid := by
  cases glyph with
  | stray byte => cases digit
  | char character =>
      refine ⟨character, rfl, ?_⟩
      rintro rfl
      cases digit

theorem Glyph.isSolid_of_continuesName {glyph : Glyph} (continues : glyph.continuesName) :
    glyph.IsSolid := by
  cases glyph with
  | stray byte =>
      rw [not_continuesName_stray] at continues
      cases continues
  | char character =>
      refine ⟨character, rfl, ?_⟩
      rintro rfl
      exact absurd continues (by decide +kernel)

theorem isSolid_of_mem_spell {spelling : String} (noReturn : '\r' ∉ spelling.toList) :
    ∀ glyph ∈ spell spelling, glyph.IsSolid := by
  intro glyph member
  rcases List.mem_map.mp member with ⟨character, inSpelling, rfl⟩
  exact ⟨character, rfl, ne_of_mem_of_not_mem inSpelling noReturn⟩

/-- Glyphs that start and end with characters that no trimming takes off. -/
structure Glyph.SolidEnds (glyphs : List Glyph) : Prop where
  first : ∃ first rest, glyphs = first :: rest ∧ first.IsSolid
  last : ∃ rest last, glyphs = rest ++ [last] ∧ last.IsSolid

theorem Glyph.SolidEnds.of_forall {glyphs : List Glyph} (filled : glyphs ≠ [])
    (solid : ∀ glyph ∈ glyphs, glyph.IsSolid) : SolidEnds glyphs where
  first := ⟨glyphs.head filled, glyphs.tail, (List.cons_head_tail filled).symm,
    solid _ (List.head_mem filled)⟩
  last := ⟨glyphs.dropLast, glyphs.getLast filled, (List.dropLast_append_getLast filled).symm,
    solid _ (List.getLast_mem filled)⟩

theorem Glyph.isSolid_of_number {first : Glyph} {digits : List Glyph} (starts : first.isDigit)
    (continues : ∀ glyph ∈ digits, glyph.isDigit) : ∀ glyph ∈ first :: digits, glyph.IsSolid := by
  intro glyph member
  rcases List.mem_cons.mp member with rfl | later
  · exact isSolid_of_isDigit starts
  · exact isSolid_of_isDigit (continues glyph later)

theorem Glyph.isSolid_of_name {first : Glyph} {rest : List Glyph} (starts : first.startsName)
    (continues : ∀ glyph ∈ rest, glyph.continuesName) :
    ∀ glyph ∈ first :: rest, glyph.IsSolid := by
  intro glyph member
  rcases List.mem_cons.mp member with rfl | later
  · exact isSolid_of_continuesName (continuesName_of_startsName starts)
  · exact isSolid_of_continuesName (continues glyph later)

theorem Lexeme.solidEnds {kind : TokenKind} {glyphs : List Glyph} (isLexeme : Lexeme kind glyphs) :
    SolidEnds glyphs := by
  have filled := isLexeme.ne_nil
  cases isLexeme with
  | mark known =>
      have noReturn : ∀ entry ∈ marks, '\r' ∉ entry.2.toList := by decide
      exact .of_forall filled (isSolid_of_mem_spell (noReturn _ known))
  | whole starts continues => exact .of_forall filled (isSolid_of_number starts continues)
  | @fraction first place digits places starts continues placed ends =>
      -- The dot between the digits needs no look: the ends are digits.
      have decimals : SolidEnds (place :: places) :=
        .of_forall (List.cons_ne_nil place places) (isSolid_of_number placed ends)
      rcases decimals.last with ⟨rest, last, parts, solid⟩
      refine ⟨⟨first, _, rfl, isSolid_of_isDigit starts⟩,
        ⟨first :: (digits ++ char '.' :: rest), last, ?_, solid⟩⟩
      simp [parts]
  | @string content unquoted =>
      have quote : IsSolid (char '"') := ⟨'"', rfl, by decide⟩
      exact ⟨⟨_, _, rfl, quote⟩, ⟨char '"' :: content, _, rfl, quote⟩⟩
  | keyword word =>
      have noReturn : ∀ known ∈ Keyword.all, '\r' ∉ known.spelling.toList := by decide
      exact .of_forall filled (isSolid_of_mem_spell (noReturn word word.mem_all))
  | identifier starts continues free => exact .of_forall filled (isSolid_of_name starts continues)

namespace Text

/-- A text whose code units are the same wherever it stands, and which stays at the end of a trimmed
line. -/
structure IsSolid (source : Text) : Prop where
  starts : StartsCharacter source
  ends : ∃ front character, source = front ++ String.utf8EncodeChar character ∧ character ≠ '\r'

theorem IsSolid.trimEnd_append {middle : Text} (solid : middle.IsSolid) (front back : Text) :
    trimEnd (· = carriageReturn) (front ++ middle ++ back) =
      front ++ middle ++ trimEnd (· = carriageReturn) back := by
  rcases solid.ends with ⟨rest, character, rfl, noReturn⟩
  have fresh : carriageReturn ∉ String.utf8EncodeChar character := by
    apply not_mem_utf8EncodeChar (by decide)
    intro same
    exact noReturn (utf8EncodeChar_injective same)
  have filled : String.utf8EncodeChar character ≠ [] := by simp
  rw [← List.dropLast_append_getLast filled] at fresh ⊢
  generalize (String.utf8EncodeChar character).getLast filled = last at fresh ⊢
  have kept : decide (last = carriageReturn) = false := by
    simp only [List.mem_append, List.mem_singleton, not_or] at fresh
    simpa using Ne.symm fresh.2
  have trimmed := trimEnd_append_cons (· = carriageReturn) kept
    (front ++ (rest ++ (String.utf8EncodeChar character).dropLast)) back
  simpa using trimmed

end Text

theorem Lexeme.isSolid_join {kind : TokenKind} {glyphs : List Glyph}
    (isLexeme : Lexeme kind glyphs) : Text.IsSolid (Glyph.join glyphs) := by
  rcases isLexeme.solidEnds with
    ⟨⟨_, tail, starts, first, rfl, -⟩, front, _, ends, last, rfl, noReturn⟩
  refine ⟨⟨first, ?_⟩, ⟨Glyph.join front, last, ?_, noReturn⟩⟩
  · rw [starts, Glyph.join, List.flatMap_cons]
    exact List.prefix_append _ _
  · rw [ends, join_append]
    simp [Glyph.join, Glyph.bytes]

/-- Where a token of a source lies. -/
inductive Token.Placed (source : Text) (token : Token) : Prop where
  | ending (unwritten : token.lexeme = []) (line : token.line = 1 + source.newlines)
  | inside {before after : Text} (parts : source = before ++ token.lexeme ++ after)
      (solid : token.lexeme.IsSolid)
      (line : token.line = 1 + Text.newlines (before ++ token.lexeme))

theorem Scan.placed_of_mem_tokens {source : Text} {token : Token}
    (member : token ∈ (ofSource source).tokens) : token.Placed source := by
  by_cases isEnd : token.kind = .eof
  · have line := line_of_eof member isEnd
    rw [ofSource, tokens_ofSegments] at member
    rcases List.mem_append.mp member with inside | last
    · exact absurd isEnd (kind_ne_eof_of_mem_words token inside)
    · refine .ending ?_ line
      rw [List.mem_singleton.mp last]
      rfl
  · rcases List.mem_iff_getElem?.mp member with ⟨place, found⟩
    rcases exists_isAt_of_token found isEnd with ⟨front, segment, back, isAt, line⟩
    have spelled := Segment.bytes_of_lexeme? isAt.found
    have parts := isAt.source_eq
    rw [spelled] at parts
    refine .inside parts ?_ line
    rw [← spelled]
    have role := Segment.role_of_lexeme? isAt.found
    rcases isAt.stands with ⟨following, standing, -⟩
    cases standing with
    | token isLexeme => exact isLexeme.isSolid_join
    | _ => cases role

theorem Token.Placed.le_newlines {source : Text} {token : Token} (placed : token.Placed source) :
    ∃ above, token.line = 1 + (above : Nat) ∧ above ≤ source.newlines := by
  cases placed with
  | ending unwritten line => exact ⟨_, line, Nat.le_refl _⟩
  | inside parts solid line =>
      refine ⟨_, line, ?_⟩
      rw [parts, Text.newlines_append (_ ++ _)]
      exact Nat.le_add_right _ _

/-- The line of a token that fits on a line holds its lexeme, also when the line is trimmed. -/
theorem Token.Placed.exists_line {source : Text} {token : Token} (placed : token.Placed source)
    (filled : token.lexeme ≠ []) (inLine : Text.newline ∉ token.lexeme) {above : Nat}
    (isLine : token.line = 1 + above) :
    token.lexeme.IsSolid ∧ ∃ line, source.lines[above]? = some line ∧
      token.lexeme <:+: Text.trimEnd (· = Text.carriageReturn) line := by
  cases placed with
  | ending unwritten _ => exact absurd unwritten filled
  | @inside before after parts solid line =>
      have noNewlines : token.lexeme.newlines = 0 := List.count_eq_zero.mpr inLine
      have same : above = before.newlines := by
        rw [Text.newlines_append] at line
        omega
      rcases Text.exists_line_of_part inLine before after with ⟨front, back, found⟩
      rw [← parts, ← same] at found
      refine ⟨solid, _, found, ?_⟩
      rw [solid.trimEnd_append]
      exact ⟨front, _, rfl⟩

/-- Where a fault of a source lies. -/
inductive Fault.Placed (source : Text) (fault : Fault) : Prop where
  | plain {above : Nat} (noToken : fault.token = none) (line : fault.line = 1 + above)
      (inside : above ≤ source.newlines)
  | atToken {token : Token} (isAt : fault.token = some token) (line : fault.line = token.line)
      (placed : token.Placed source)

theorem Segment.token_of_fault? {line : Nat} {segment : Segment} {fault : Fault}
    (faulty : segment.fault? line = some fault) : fault.token = none := by
  rcases segment with ⟨role, glyphs⟩
  cases role <;> cases faulty <;> rfl

theorem Scan.placed_of_mem_faults {source : Text} {fault : Fault}
    (member : fault ∈ (ofSource source).faults) : fault.Placed source := by
  have noToken : fault.token = none := by
    rcases List.mem_filterMap.mp member with ⟨⟨line, segment⟩, -, faulty⟩
    exact Segment.token_of_fault? faulty
  rcases List.mem_iff_getElem?.mp member with ⟨place, found⟩
  rcases exists_isAt_of_fault found with ⟨front, segment, back, isAt, ⟨-, line⟩ | ⟨-, line⟩⟩
  · refine .plain noToken line ?_
    rw [isAt.source_eq, List.append_assoc, Text.newlines_append]
    exact Nat.le_add_right _ _
  · exact .plain noToken line (Nat.le_refl _)

theorem Scan.ending_mem_tokens (source : Text) :
    (Input.ofTokens (ofSource source).tokens).ending ∈ (ofSource source).tokens := by
  unfold Input.ofTokens
  dsimp only
  cases found : (ofSource source).tokens.find? fun token => token.kind = .eof with
  | some token => exact List.mem_of_find?_eq_some found
  | none =>
      have noEnd := List.find?_eq_none.mp found
      rw [ofSource, tokens_ofSegments, List.forall_mem_append, List.forall_mem_singleton] at noEnd
      exact absurd (decide_eq_true rfl) noEnd.2

theorem Program.placed_of_mem_recover {limit : Nat} {source : Text} {fault : Fault}
    (member : fault ∈ (recover limit (Scan.ofSource source).tokens).2) : fault.Placed source := by
  rcases blames_of_mem_events fault member with ⟨token, place, cause, -, rfl⟩
  refine .atToken rfl rfl (Scan.placed_of_mem_tokens ?_)
  rcases place with rfl | inBody
  · exact Scan.ending_mem_tokens source
  · exact List.takeWhile_subset _ inBody

theorem Engine.placed_of_mem_faults {engine : Engine} {source : Text} {fault : Fault}
    (member : fault ∈ engine.faults source) : fault.Placed source := by
  rcases List.mem_append.mp member with lexical | grammatical
  · exact Scan.placed_of_mem_faults lexical
  · exact Program.placed_of_mem_recover (List.mem_of_mem_filter grammatical)

/-- Where a fault lies there is a line, and what the fault is at occurs on it if it fits there. -/
theorem Fault.Placed.exists_line {source : Text} {fault : Fault} (placed : fault.Placed source) :
    ∃ above line, fault.line = 1 + (above : Nat) ∧ source.lines[above]? = some line ∧
      ∀ token, fault.token = some token → token.lexeme ≠ [] → Text.newline ∉ token.lexeme →
        token.lexeme.IsSolid ∧
          token.lexeme <:+: Text.trimEnd (· = Text.carriageReturn) line := by
  have onLine : ∃ above, fault.line = 1 + (above : Nat) ∧ above ≤ source.newlines := by
    cases placed with
    | plain noToken line inside => exact ⟨_, line, inside⟩
    | atToken isAt line placed => exact line ▸ placed.le_newlines
  rcases onLine with ⟨above, isLine, inside⟩
  have isThere : above < source.lines.length := by
    rw [Text.length_lines]
    omega
  have found := List.getElem?_eq_getElem isThere
  refine ⟨above, _, isLine, found, ?_⟩
  intro token isAt filled inLine
  cases placed with
  | plain noToken _ _ =>
      rw [noToken] at isAt
      cases isAt
  | atToken isBlamed sameLine placed =>
      rw [isBlamed] at isAt
      cases isAt
      rw [sameLine] at isLine
      rcases placed.exists_line filled inLine isLine with ⟨solid, line, isLine, occurs⟩
      rw [found] at isLine
      cases isLine
      exact ⟨solid, occurs⟩

end Scriptlet
