import Mathlib.Data.List.Infix
import Scriptlet.Proofs.Layout.Meaning
import Scriptlet.Proofs.Scanning.Written
import Scriptlet.Proofs.Text.Units

/-!
# Tokens written apart

Nothing that a source holds around a token decides what the token is. Take the tokens of any source,
with or without faults, and write their lexemes with single spaces between them: the result has no
fault, and its tokens are the same ones.

There are two reasons. A stretch of the glyphs of a text is cut into the same glyphs when its bytes
stand alone, so that no lexeme is cut differently among other neighbours. And a lexeme reaches
exactly as far as it does in the lexicon when the end or a blank follows it, see
`Lexeme.extent_append`.
-/

namespace Scriptlet

open Glyph

namespace Text

/-- There is only one way to cut a text. -/
theorem CutInto.unique {source : Text} {one other : List Glyph} (cut : CutInto source one)
    (otherCut : CutInto source other) : one = other := by
  induction cut generalizing other with
  | nil =>
      generalize same : ([] : Text) = whole at otherCut
      cases otherCut with
      | nil => rfl
      | char character tail => simp_all [String.utf8EncodeChar_ne_nil]
      | stray byte alone tail => cases same
  | @char character rest glyphs tail ih =>
      generalize same : String.utf8EncodeChar character ++ rest = whole at otherCut
      cases otherCut with
      | nil => simp_all [String.utf8EncodeChar_ne_nil]
      | @char otherCharacter otherRest otherGlyphs otherTail =>
          have starts := glyphs_append_utf8EncodeChar [] character rest
          have otherStarts := glyphs_append_utf8EncodeChar [] otherCharacter otherRest
          simp only [List.nil_append] at starts otherStarts
          rw [same, otherStarts] at starts
          have sameCharacter : otherCharacter = character := by
            simpa [glyphs_eq_glyphsFrom] using (List.cons.inj starts).1
          subst sameCharacter
          have sameRest := List.append_cancel_left same
          subst sameRest
          rw [ih otherTail]
      | stray byte alone otherTail => exact absurd ⟨character, rest, same⟩ alone
  | @stray byte rest glyphs alone tail ih =>
      generalize same : byte :: rest = whole at otherCut
      cases otherCut with
      | nil => cases same
      | @char character otherRest otherGlyphs otherTail =>
          exact absurd ⟨character, otherRest, same.symm⟩ alone
      | stray otherByte otherAlone otherTail =>
          cases same
          rw [ih otherTail]

/-- The first glyphs of a text and the glyphs behind them are cut again by themselves. A byte that
starts no character does not start one either when less follows it. -/
theorem CutInto.parts {source : Text} {front back : List Glyph}
    (cut : CutInto source (front ++ back)) :
    CutInto (Glyph.join front) front ∧ CutInto (Glyph.join back) back := by
  induction front generalizing source with
  | nil =>
      have same := cut.join_eq
      simp only [List.nil_append] at cut same
      rw [same]
      exact ⟨.nil, cut⟩
  | cons glyph rest ih =>
      rw [List.cons_append] at cut
      cases cut with
      | char character tail =>
          rcases ih tail with ⟨fronts, backs⟩
          exact ⟨.char character fronts, backs⟩
      | stray byte alone tail =>
          rcases ih tail with ⟨fronts, backs⟩
          refine ⟨.stray byte ?_ fronts, backs⟩
          rintro ⟨character, starts⟩
          apply alone
          refine ⟨character, starts.trans ?_⟩
          rw [← tail.join_eq, Glyph.join_append]
          exact List.prefix_append (byte :: Glyph.join rest) (Glyph.join back)

/-- A stretch of the glyphs of a text is what its bytes are cut into when they stand alone. -/
theorem glyphs_join_of_infix {source : Text} {glyphs : List Glyph}
    (inside : glyphs <:+: source.glyphs) : (Glyph.join glyphs).glyphs = glyphs := by
  rcases inside with ⟨front, back, whole⟩
  have cut := cutInto_glyphs source
  rw [← whole, List.append_assoc] at cut
  exact (cutInto_glyphs _).unique cut.parts.2.parts.1

/-- A space parts a text wherever it stands. -/
theorem glyphs_append_space (front back : Text) :
    glyphs (front ++ text " " ++ back) = front.glyphs ++ char ' ' :: back.glyphs :=
  glyphs_append_utf8EncodeChar front ' ' back

end Text

namespace Segment

/-- A segment is a stretch of the glyphs that are cut. -/
theorem Partition.isInfix {glyphs : List Glyph} {segments : List Segment}
    (partition : Partition glyphs segments) :
    ∀ segment ∈ segments, segment.glyphs <:+: glyphs := by
  induction partition with
  | nil => simp
  | @cons first following rest stands tail ih =>
      intro segment member
      rcases List.mem_cons.mp member with rfl | later
      · exact (List.prefix_append _ _).isInfix
      · exact (ih segment later).trans (List.suffix_append _ _).isInfix

theorem extent_of_isDigit {first : Glyph} (digit : first.isDigit) (rest : List Glyph) :
    extent first rest = (.token .number, numberLength rest) := by
  have noBlank : isBlank first.scalar = false := by
    rw [← Bool.not_eq_true, ← blank_iff]
    intro blank
    simp [not_isDigit_of_blank first blank] at digit
  have noMark {mark : Char} (visible : mark.isDigit = false) : first.is mark = false := by
    rw [← Bool.not_eq_true]
    intro isMark
    rw [is, decide_eq_true_eq] at isMark
    simp [isDigit, isMark, visible] at digit
  simp [extent, noBlank, noMark, digit]

theorem extent_of_startsName {first : Glyph} (starts : first.startsName) (rest : List Glyph) :
    extent first rest =
      (.token (nameKind (Glyph.join (first :: rest.take (run Glyph.continuesName rest)))),
        run Glyph.continuesName rest) := by
  have continues := continuesName_of_startsName starts
  have noBlank : isBlank first.scalar = false := by
    rw [← Bool.not_eq_true, ← blank_iff]
    intro blank
    simp [not_continuesName_of_blank first blank] at continues
  have noMark {mark : Char} (other : (char mark).startsName = false) : first.is mark = false := by
    rw [← Bool.not_eq_true]
    intro isMark
    rw [is, decide_eq_true_eq] at isMark
    have same : first.startsName = (char mark).startsName := by
      simp only [startsName, is, isMark]
      rfl
    simp [same, other] at starts
  have noDigit : first.isDigit = false := by
    rw [← Bool.not_eq_true]
    intro digit
    simp [not_startsName_of_isDigit digit] at starts
  have noBang := @noMark '!' (by decide +kernel)
  have noSlash := @noMark '/' (by decide +kernel)
  have noQuote := @noMark '"' (by decide +kernel)
  simp [extent, noBlank, noBang, noSlash, noQuote, noDigit, starts]

end Segment

namespace Lexeme

theorem extent_of_mark {kind : TokenKind} {spelling : String} (known : (kind, spelling) ∈ marks) :
    ∃ first tail, spell spelling = first :: tail ∧
      Segment.extent first tail = (.token kind, tail.length) ∧ first ≠ char '"' ∧
      (first = char '/' → tail = []) := by
  fin_cases known <;> exact ⟨_, _, rfl, by decide +kernel, by decide, by decide⟩

theorem extent_of_keyword (word : Keyword) :
    ∃ first tail, spell word.spelling = first :: tail ∧ first.startsName ∧
      (∀ glyph ∈ tail, glyph.continuesName) ∧
      Segment.nameKind (Glyph.join (first :: tail)) = .keyword word := by
  cases word <;> exact ⟨_, _, rfl, by decide +kernel⟩

theorem eq_spell {word : Keyword} {glyphs : List Glyph} (isLexeme : Lexeme (.keyword word) glyphs) :
    glyphs = spell word.spelling := by
  generalize same : TokenKind.keyword word = kind at isLexeme
  cases isLexeme with
  | mark known => fin_cases known <;> cases same
  | keyword other =>
      cases same
      rfl
  | _ => cases same

theorem nameKind_of_free {first : Glyph} {rest : List Glyph} (starts : first.startsName)
    (continues : ∀ glyph ∈ rest, glyph.continuesName)
    (free : ∀ word : Keyword, first :: rest ≠ spell word.spelling) :
    Segment.nameKind (Glyph.join (first :: rest)) = .identifier := by
  cases found : Keyword.ofText? (Glyph.join (first :: rest)) with
  | none => simp [Segment.nameKind, found]
  | some word =>
      have isLexeme := lexeme_nameKind starts continues
      simp only [Segment.nameKind, found] at isLexeme
      exact absurd isLexeme.eq_spell (free word)

theorem extent_append_of_number {first : Glyph} {tail gap : List Glyph} (digit : first.isDigit)
    (isNumber : Lexeme .number (first :: tail)) (starts : StartsBlank gap) :
    Segment.extent first (tail ++ gap) = (.token .number, tail.length) := by
  have longest := Segment.length_le_numberLength digit isNumber (List.prefix_refl tail)
  have within := Segment.numberLength_le tail
  rw [Segment.extent_of_isDigit digit, Segment.numberLength_append tail starts]
  simp only [Prod.mk.injEq, true_and]
  omega

theorem extent_append_of_name {first : Glyph} {tail gap : List Glyph} (isFirst : first.startsName)
    (continues : ∀ glyph ∈ tail, glyph.continuesName) (starts : StartsBlank gap) :
    Segment.extent first (tail ++ gap) =
      (.token (Segment.nameKind (Glyph.join (first :: tail))), tail.length) := by
  have reaches : Segment.run Glyph.continuesName (tail ++ gap) = tail.length := by
    rw [Segment.run_append_of_startsBlank Segment.not_continuesName_of_blank tail starts]
    simpa [Segment.run] using Segment.run_append continues []
  simp [Segment.extent_of_startsName isFirst, reaches]

/-- A lexeme reaches to its end and no further when the end or a blank follows it, and is a token of
its own kind. -/
theorem extent_append {kind : TokenKind} {first : Glyph} {tail gap : List Glyph}
    (isLexeme : Lexeme kind (first :: tail)) (starts : StartsBlank gap) :
    Segment.extent first (tail ++ gap) = (.token kind, tail.length) := by
  generalize same : first :: tail = glyphs at isLexeme
  cases isLexeme with
  | mark known =>
      rcases extent_of_mark known with ⟨head, others, spelled, reaches, noQuote, noComment⟩
      rw [spelled] at same
      cases same
      have goesOn := @Segment.extent_append first tail gap noQuote (by simp_all) starts
      rw [goesOn.1, reaches]
  | whole isFirst continues =>
      cases same
      exact extent_append_of_number isFirst (.whole isFirst continues) starts
  | fraction isFirst continues placed ends =>
      cases same
      exact extent_append_of_number isFirst (.fraction isFirst continues placed ends) starts
  | string unquoted =>
      cases same
      simp [Segment.extent_quote, Segment.afterQuote_of_closed unquoted]
  | keyword word =>
      rcases extent_of_keyword word with ⟨head, letters, spelled, isFirst, continues, isWord⟩
      rw [spelled] at same
      cases same
      rw [extent_append_of_name isFirst continues starts, isWord]
  | identifier isFirst continues free =>
      cases same
      rw [extent_append_of_name isFirst continues starts, nameKind_of_free isFirst continues free]

end Lexeme

namespace Segment

/-- A segment that is a token with a lexeme of its kind. -/
def IsToken (segment : Segment) : Prop :=
  ∃ kind, segment.role = .token kind ∧ Lexeme kind segment.glyphs

theorem IsToken.split_append {segment : Segment} (isToken : segment.IsToken) {gap : List Glyph}
    (starts : StartsBlank gap) : split (segment.glyphs ++ gap) = segment :: split gap := by
  rcases segment with ⟨role, glyphs⟩
  rcases isToken with ⟨kind, rfl, isLexeme⟩
  rcases List.exists_cons_of_ne_nil isLexeme.ne_nil with ⟨first, tail, rfl⟩
  have reaches := isLexeme.extent_append starts
  simp only [List.cons_append, split_cons, reaches, List.take_left, List.drop_left]

/-- Tokens with a space between neighbours are cut into these tokens and spaces. -/
theorem split_intercalate {segments : List Segment}
    (areTokens : ∀ segment ∈ segments, segment.IsToken) :
    split ([char ' '].intercalate (segments.map glyphs)) =
      segments.intersperse ⟨.blank, [char ' ']⟩ := by
  have blank : Blank Glyph.char (char ' ') := ⟨' ', by decide, rfl⟩
  induction segments with
  | nil => simp [split]
  | cons segment rest ih =>
      rw [List.forall_mem_cons] at areTokens
      cases rest with
      | nil =>
          have alone := areTokens.1.split_append (.inl rfl)
          simpa [split] using alone
      | cons next more =>
          have later := ih areTokens.2
          have goesOn := areTokens.1.split_append (.inr ⟨_, [char ' '].intercalate
            ((next :: more).map glyphs), rfl, blank⟩)
          rw [split_cons, extent_of_blank blank] at goesOn
          simp only [List.take_zero, List.drop_zero, later] at goesOn
          simpa using goesOn

theorem filter_intersperse_space {segments : List Segment}
    (areTokens : ∀ segment ∈ segments, segment.IsToken) :
    (segments.intersperse ⟨.blank, [char ' ']⟩).filter matters = segments := by
  induction segments with
  | nil => rfl
  | cons segment rest ih =>
      rw [List.forall_mem_cons] at areTokens
      rcases areTokens with ⟨⟨kind, isToken, -⟩, later⟩
      have kept : segment.matters = true := by simp [matters, isToken]
      cases rest with
      | nil => simp [kept]
      | cons next more =>
          have dropped : matters ⟨.blank, [char ' ']⟩ = false := rfl
          have others := ih later
          simp only [List.intersperse_cons_cons, List.filter_cons, kept, dropped,
            if_true] at others ⊢
          simp [others]

theorem glyphs_joinWith_bytes {segments : List Segment}
    (recut : ∀ segment ∈ segments, segment.bytes.glyphs = segment.glyphs) :
    (Text.joinWith (text " ") (segments.map bytes)).glyphs =
      [char ' '].intercalate (segments.map glyphs) := by
  induction segments with
  | nil => rfl
  | cons segment rest ih =>
      rw [List.forall_mem_cons] at recut
      cases rest with
      | nil => simpa [Text.joinWith] using recut.1
      | cons next more =>
          have later := ih recut.2
          simp only [List.map_cons, Text.joinWith, List.intercalate_cons_cons] at later ⊢
          rw [Text.glyphs_append_space, recut.1, later]
          simp

/-- The segments of a source that are tokens. -/
def tokens (source : Text) : List Segment :=
  (split source.glyphs).filter fun segment => (segment.token? 0).isSome

theorem isToken_of_mem_tokens {source : Text} :
    ∀ segment ∈ tokens source, segment.IsToken := by
  intro segment member
  rw [tokens, List.mem_filter] at member
  rcases (partition_split source.glyphs).exists_stands segment member.1 with ⟨following, stands⟩
  cases stands with
  | token isLexeme => exact ⟨_, rfl, isLexeme⟩
  | _ => simp [token?] at member

theorem recut_of_mem_tokens {source : Text} :
    ∀ segment ∈ tokens source, segment.bytes.glyphs = segment.glyphs := by
  intro segment member
  rw [tokens, List.mem_filter] at member
  exact Text.glyphs_join_of_infix ((partition_split source.glyphs).isInfix segment member.1)

end Segment

namespace Scan

/-- The tokens of a source before its end. -/
def proper (source : Text) : List Token :=
  (ofSource source).tokens.filter fun token => token.kind ≠ .eof

/-- The lexemes of the tokens of a source, with a space between neighbours. -/
def respaced (source : Text) : Text :=
  Text.joinWith (text " ") ((proper source).map Token.lexeme)

theorem proper_eq_words (source : Text) : proper source = words (Segment.split source.glyphs) := by
  have goesOn := @kind_ne_eof_of_mem_words source.glyphs
  simp only [proper, ofSource, tokens_ofSegments, ending, List.filter_append]
  simpa using goesOn

theorem unnumbered_proper (source : Text) :
    (proper source).map Token.unnumbered =
      (Segment.tokens source).filterMap (Segment.token? 0) := by
  rw [proper_eq_words, words, Segment.unnumbered_tokens, Segment.tokens, List.filterMap_filter,
    List.filterMap_filter]
  apply List.filterMap_congr
  intro segment _
  rcases segment with ⟨role, glyphs⟩
  cases role <;> rfl

theorem lexemes_proper (source : Text) :
    (proper source).map Token.lexeme = (Segment.tokens source).map Segment.bytes := by
  have unnumbered := congrArg (List.map Token.lexeme) (unnumbered_proper source)
  rw [List.map_map, List.map_filterMap] at unnumbered
  apply unnumbered.trans
  rw [← List.filterMap_eq_map]
  apply List.filterMap_congr
  intro segment member
  rcases Segment.isToken_of_mem_tokens segment member with ⟨kind, isToken, -⟩
  simp [Segment.token?, isToken]

/-- The respaced source is cut into the tokens of the source and the spaces between them. -/
theorem split_respaced (source : Text) :
    Segment.split (respaced source).glyphs =
      (Segment.tokens source).intersperse ⟨.blank, [char ' ']⟩ := by
  rw [respaced, lexemes_proper, Segment.glyphs_joinWith_bytes Segment.recut_of_mem_tokens,
    Segment.split_intercalate Segment.isToken_of_mem_tokens]

/-- Written with single spaces between them, the lexemes of any source scan without a fault, and
give the same tokens in the same order, up to the lines that they stand on. -/
theorem respaced_keeps_tokens (source : Text) :
    (ofSource (respaced source)).faults = [] ∧
      ∃ found line, (ofSource (respaced source)).tokens = found ++ [ending line] ∧
        found.map Token.unnumbered = (proper source).map Token.unnumbered := by
  have areTokens := @Segment.isToken_of_mem_tokens source
  have matter := Segment.filter_intersperse_space areTokens
  refine ⟨?_, words (Segment.split (respaced source).glyphs), _, rfl, ?_⟩
  · rw [ofSource, split_respaced, faults_eq_nil_iff, matter]
    intro segment member
    rcases areTokens segment member with ⟨kind, isToken, -⟩
    exact ⟨kind, isToken⟩
  · rw [unnumbered_proper, words, Segment.unnumbered_tokens, split_respaced, matter]

end Scan

end Scriptlet
