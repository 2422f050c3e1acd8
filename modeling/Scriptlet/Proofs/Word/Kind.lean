import Scriptlet.Proofs.Number.RoundTrip
import Scriptlet.Server.Word

/-!
# Kinds of words

The kind of a word under a cursor is found without scanning: unless it is a reserved word, a word is
a numeral if it can be read as a number. For a word that is one token this agrees with the scanner,
but for two exceptions. Names that are spelled like infinity or like what is not a number can be
read as numbers, and number literals beyond every finite number cannot.
-/

namespace Scriptlet

open Glyph

namespace Numeral

section

variable {head : UInt8}

theorem isHexadecimal_of_head (noDigit : isDigit head = false) (rest : Text) :
    isHexadecimal (head :: rest) = false := by
  have noZero : head ≠ byte '0' := by
    rintro rfl
    cases noDigit
  cases rest <;> simp [isHexadecimal, noZero]

theorem unsigned?_of_head (noDigit : isDigit head = false) (noPoint : head ≠ byte '.')
    (rest : Text) : unsigned? false (head :: rest) = none := by
  rw [Option.eq_none_iff_forall_ne_some]
  intro numeral read
  rcases (unsigned?_eq_some_iff (isHexadecimal_of_head noDigit rest)).mp read with
    ⟨mantissa, power, digits, places, exponent, isMantissa, -, parts, -⟩
  rcases isMantissa.exists_cons with ⟨first, tail, starts⟩
  have plain := isMantissa.isDigit_or_point first (by simp [starts])
  rw [starts] at parts
  cases parts
  exact ne_of_isDigit_or_point plain noDigit noPoint rfl

/-- What starts like no numeral is one only if it is a word for no finite number. -/
theorem ofText?_of_head (noDigit : isDigit head = false) (noMark : head ∉ text ".+-")
    (rest : Text) : ofText? (head :: rest) = special? false false (head :: rest) := by
  have marks : head ≠ byte '.' ∧ head ≠ byte '+' ∧ head ≠ byte '-' := by
    have spelled : text ".+-" = [byte '.', byte '+', byte '-'] := by decide
    simpa [spelled] using noMark
  have noSign : splitSign (head :: rest) = (false, head :: rest) := by
    simp [splitSign, marks]
  have alone : decide ((head :: rest).length < (head :: rest).length) = false :=
    decide_eq_false (Nat.lt_irrefl _)
  simp only [ofText?, noSign, alone]
  cases special? false false (head :: rest) with
  | some numeral => rfl
  | none =>
      dsimp only
      split
      · by_cases separator : head = byte '_'
        · -- A separator may only stand behind a digit.
          subst separator
          have misplaced : wellSeparated (byte '_' :: rest) = false := by
            rw [wellSeparated, isHexadecimal_of_head noDigit, if_neg Bool.false_ne_true, separated]
            simp [noDigit]
          rw [misplaced, if_neg Bool.false_ne_true]
        · have kept : (head :: rest).filter (· ≠ byte '_') =
              head :: rest.filter (· ≠ byte '_') := List.filter_cons_of_pos (by simpa)
          rw [kept, unsigned?_of_head noDigit marks.1, ite_self]
      · exact unsigned?_of_head noDigit marks.1 rest

theorem isNumeral_iff_of_head (noDigit : isDigit head = false) (noMark : head ∉ text ".+-")
    (rest : Text) : isNumeral (head :: rest) ↔ (head :: rest).map lower ∈ words := by
  rw [isNumeral, ofText?_of_head noDigit noMark, special?]
  generalize (head :: rest).map lower = spelling
  simp only [words, List.mem_cons, List.not_mem_nil, or_false, ← or_assoc]
  by_cases isInfinite : spelling = text "inf" ∨ spelling = text "infinity"
  · simp [isInfinite, overflows]
  · by_cases isNan : spelling = text "nan"
    · have noInfinity : text "nan" ≠ text "inf" ∧ text "nan" ≠ text "infinity" := by decide
      simp [isNan, noInfinity, overflows]
    · simp [isInfinite, isNan]

end

/-- A plain numeral can be read unless it is too large for the finite numbers. -/
theorem Plain.isNumeral_iff {source : Text} {decimal : Decimal} (plain : Plain source decimal) :
    isNumeral source ↔ decimal.round false ≠ .infinite false := by
  have read : ofText? source = some (.decimal false decimal) :=
    (plain.spells_append .none saturating).read.2.2
  have unsigned := Number.Unsigned.round decimal
  rw [isNumeral, read]
  simp only [overflows, value]
  generalize decimal.round false = number at unsigned ⊢
  cases unsigned with
  | infinite => simp
  | finite units representable => simp

end Numeral

/-- Names start like no numeral. -/
theorem Glyph.exists_bytes_of_startsName {source : Text} {glyph : Glyph}
    (member : glyph ∈ source.glyphs) (starts : glyph.startsName) :
    ∃ head rest, glyph.bytes = head :: rest ∧ Numeral.isDigit head = false ∧
      head ∉ text ".+-" := by
  have filled : glyph.bytes ≠ [] := by
    cases glyph with
    | char character => exact String.utf8EncodeChar_ne_nil
    | stray byte => exact List.cons_ne_nil _ _
  rcases List.exists_cons_of_ne_nil filled with ⟨head, rest, bytes⟩
  refine ⟨head, rest, bytes, ?_⟩
  by_contra starting
  have ascii : head < 0x80 ∧ (char (Char.ofNat head.toNat)).startsName = false := by
    by_cases digit : Numeral.isDigit head
    · exact ⟨Numeral.lt_of_isDigit digit, not_startsName_of_isDigit (Numeral.isDigit_char digit)⟩
    · have marks : ∀ mark ∈ text ".+-",
          mark < 0x80 ∧ (char (Char.ofNat mark.toNat)).startsName = false := by
        decide +kernel
      exact marks head (by simpa [digit] using starting)
  have inside : head ∈ glyph.bytes := by
    rw [bytes]
    exact .head rest
  rw [eq_char_of_mem_bytes member ascii.1 inside, ascii.2] at starts
  cases starts

theorem Segment.Stands.matters_of_isPart {segment : Segment} {following : List Glyph}
    (stands : segment.Stands following)
    (isWord : ∀ glyph ∈ segment.glyphs, Word.isPart glyph.scalar) : segment.matters := by
  have noBlank : [' ', '\t', '\r', '\n'].all fun character => !Word.isPart character := by
    decide +kernel
  have noSlash : ¬Word.isPart '/' := by decide +kernel
  cases stands with
  | blank isBlank =>
      refine absurd (isWord _ (.head _)) ?_
      simpa [scalar] using List.all_eq_true.mp noBlank _ isBlank
  | lineComment onLine ends => exact absurd (isWord _ (.head _)) noSlash
  | blockComment comment =>
      rcases comment with ⟨inner, balanced, found⟩
      rcases exists_of_delimiters_eq_opening found with ⟨content, rfl⟩
      exact absurd (isWord _ (.head _)) noSlash
  | _ => rfl

/-- A word that is scanned as one token is that token, from its first glyph to its last. -/
theorem Scan.isLexeme_of_single {word : Text} {token last : Token}
    (isWord : ∀ character ∈ word.scalars, Word.isPart character)
    (faultless : (ofSource word).faults = []) (single : (ofSource word).tokens = [token, last]) :
    token.lexeme = word ∧ Lexeme token.kind word.glyphs := by
  have partition := Segment.partition_split word.glyphs
  have areTokens : ∀ segment ∈ Segment.split word.glyphs, ∃ kind, segment.role = .token kind := by
    intro segment member
    rcases partition.exists_stands segment member with ⟨following, stands⟩
    refine faults_eq_nil_iff.mp faultless segment
      (List.mem_filter.mpr ⟨member, stands.matters_of_isPart ?_⟩)
    intro glyph inSegment
    exact isWord _ (List.mem_map_of_mem (partition.subset segment member inSegment))
  have lexemes := @Segment.map_filterMap_numbered _ _ _ _ _ (Segment.split word.glyphs) 1
    fun segment _ line => segment.lexeme_token? line
  have oneWord : words (Segment.split word.glyphs) = [token] := by
    rw [ofSource, tokens_ofSegments] at single
    change _ = [token] ++ [last] at single
    exact (List.append_inj' single rfl).1
  have oneLexeme : (Segment.split word.glyphs).filterMap Segment.lexeme? =
      [(token.kind, token.lexeme)] :=
    lexemes.symm.trans (congrArg (List.map fun token => (token.kind, token.lexeme)) oneWord)
  have bytes := partition.bytes_eq
  rw [Text.join_glyphs] at bytes
  generalize word.glyphs = glyphs, Segment.split word.glyphs = segments
    at partition areTokens oneLexeme bytes ⊢
  have allLexemes : ∀ segment ∈ segments, segment.lexeme?.isSome := by
    intro segment member
    rcases areTokens segment member with ⟨kind, isToken⟩
    simp [Segment.lexeme?, isToken]
  have oneSegment : segments.length = 1 := by
    rw [← List.filterMap_length_eq_length.mpr allLexemes, oneLexeme]
    rfl
  rcases List.length_eq_one_iff.mp oneSegment with ⟨segment, rfl⟩
  cases partition with
  | cons stands tail =>
      cases tail
      rw [List.append_nil]
      cases stands with
      | token isLexeme =>
          rw [List.flatMap_singleton] at bytes
          injection oneLexeme with same
          injection same with sameKind sameLexeme
          rw [← sameKind, ← sameLexeme]
          exact ⟨bytes, isLexeme⟩
      | _ => cases oneLexeme

theorem Lexeme.exists_of_identifier {glyphs : List Glyph} (isLexeme : Lexeme .identifier glyphs) :
    ∃ first rest, glyphs = first :: rest ∧ first.startsName ∧
      Keyword.ofText? (Glyph.join glyphs) = none := by
  generalize isName : TokenKind.identifier = kind at isLexeme
  cases isLexeme with
  | mark known => fin_cases known <;> cases isName
  | identifier starts continues free =>
      have kind := nameKind_of_free starts continues free
      refine ⟨_, _, rfl, starts, ?_⟩
      unfold Segment.nameKind at kind
      split at kind
      · cases kind
      · assumption
  | _ => cases isName

namespace Word

theorem classify_of_keyword {word : Text} {keyword : Keyword}
    (isLexeme : Lexeme (.keyword keyword) word.glyphs) : classify word = .keyword := by
  have spelled := congrArg Glyph.join isLexeme.eq_spell
  rw [Text.join_glyphs, join_spell] at spelled
  rw [classify, Keyword.ofText?_eq_some_iff.mpr spelled, if_pos Option.isSome_some]

theorem classify_of_identifier {word : Text} (isLexeme : Lexeme .identifier word.glyphs) :
    classify word = if word.map Numeral.lower ∈ Numeral.words then .numeral else .identifier := by
  rcases isLexeme.exists_of_identifier with ⟨first, rest, glyphs, starts, noKeyword⟩
  have whole := Text.join_glyphs word
  rw [whole] at noKeyword
  rw [glyphs] at whole
  have isNumeral : Numeral.isNumeral word ↔ word.map Numeral.lower ∈ Numeral.words := by
    have member : first ∈ word.glyphs := by
      rw [glyphs]
      exact .head rest
    rcases exists_bytes_of_startsName member starts with ⟨head, more, bytes, noDigit, noMark⟩
    rw [← whole, Glyph.join, List.flatMap_cons, bytes, List.cons_append]
    exact Numeral.isNumeral_iff_of_head noDigit noMark _
  simp [classify, noKeyword, isNumeral]

theorem classify_of_plain {word : Text} {decimal : Decimal} (plain : Numeral.Plain word decimal) :
    classify word =
      if decimal.round false = .infinite false then .identifier else .numeral := by
  have noKeyword : Keyword.ofText? word = none := by
    rw [Option.eq_none_iff_forall_ne_some]
    intro keyword found
    rcases plain.exists_cons with ⟨first, rest, starts, digit⟩
    rw [starts, Keyword.ofText?_eq_some_iff] at found
    have noDigit : ∀ keyword ∈ Keyword.all, ¬(keyword.text.head?.any Numeral.isDigit) := by decide
    refine noDigit keyword (Keyword.mem_all keyword) ?_
    rwa [← found]
  simp [classify, noKeyword, plain.isNumeral_iff]

/-- For a word that is one token the kind of word is the kind of the token, but for two exceptions:
a name that is spelled as one of the numerals that are words counts as a numeral, and a number
literal beyond every finite number as an identifier. -/
theorem classify_follows_scanner {word : Text} {token last : Token}
    (isWord : ∀ character ∈ word.scalars, isPart character)
    (faultless : (Scan.ofSource word).faults = [])
    (single : (Scan.ofSource word).tokens = [token, last])
    (known : token.kind = .number ∨ token.kind = .identifier ∨
      ∃ keyword, token.kind = .keyword keyword) :
    let isNumeralWord := word.map Numeral.lower ∈ Numeral.words
    let isInfinite := token.literal = some (.number (.infinite false))
    (classify word = .numeral ↔
        token.kind = .number ∧ ¬isInfinite ∨ token.kind = .identifier ∧ isNumeralWord) ∧
      (classify word = .keyword ↔ ∃ keyword, token.kind = .keyword keyword) ∧
      (classify word = .identifier ↔
        token.kind = .identifier ∧ ¬isNumeralWord ∨ token.kind = .number ∧ isInfinite) := by
  intro isNumeralWord isInfinite
  rcases Scan.isLexeme_of_single isWord faultless single with ⟨lexeme, isLexeme⟩
  rcases known with isNumber | isName | ⟨keyword, isKeyword⟩
  · have written : token.Written :=
      Scan.written_of_mem_tokens token (by rw [single]; exact .head _)
    cases written with
    | @number _ decimal plain line =>
        subst lexeme
        by_cases beyond : decimal.round false = .infinite false
        · simp [classify_of_plain plain, isInfinite, beyond]
        · simp [classify_of_plain plain, isInfinite, beyond]
    | word known line =>
        have noNumber : ∀ entry ∈ vocabulary, entry.1 ≠ .number := by decide
        exact absurd isNumber (noNumber _ known)
    | _ => cases isNumber
  · rw [isName] at isLexeme
    by_cases spelled : word.map Numeral.lower ∈ Numeral.words
    · simp [classify_of_identifier isLexeme, isName, isNumeralWord, spelled]
    · simp [classify_of_identifier isLexeme, isName, isNumeralWord, spelled]
  · rw [isKeyword] at isLexeme
    simp [classify_of_keyword isLexeme, isKeyword]

theorem classify_follows_scanner_decimal :
    let word := text "12.5"
    let token : Token :=
      { kind := .number, lexeme := word,
        literal := some (.number (Decimal.round false ⟨125, -1⟩)), line := 1 }
    (Scan.ofSource word).tokens = [token, Scan.ending 1] ∧
      (classify word = .numeral ↔
        token.kind = .number ∧ token.literal ≠ some (.number (.infinite false)) ∨
          token.kind = .identifier ∧ word.map Numeral.lower ∈ Numeral.words) := by
  intro word token
  have single : (Scan.ofSource word).tokens = [token, Scan.ending 1] := by decide +kernel
  have isWord : word.scalars.all isPart := by decide +kernel
  exact ⟨single, (classify_follows_scanner (List.all_eq_true.mp isWord) (by decide +kernel) single
    (.inl rfl)).1⟩

/-- The scanner and the kind of a word differ on a name that can be read as a numeral, and on a
number literal that cannot. -/
theorem classify_differs_from_scanner :
    let name := text "nan"
    let digits : Text := byte '1' :: List.replicate 309 (byte '0')
    (∀ character ∈ name.scalars ++ digits.scalars, isPart character) ∧
      (Scan.ofSource name).faults = [] ∧
      (Scan.ofSource name).tokens.map Token.kind = [.identifier, .eof] ∧
      classify name = .numeral ∧
      (Scan.ofSource digits).faults = [] ∧
      (Scan.ofSource digits).tokens.map Token.kind = [.number, .eof] ∧
      classify digits = .identifier := by
  intro name digits
  have areWords : (name.scalars ++ digits.scalars).all isPart := by decide +kernel
  exact ⟨List.all_eq_true.mp areWords, by decide +kernel⟩

end Word

end Scriptlet
