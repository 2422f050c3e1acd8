import Scriptlet.Proofs.Number.Grammar
import Scriptlet.Proofs.Reading.Spelling
import Scriptlet.Proofs.Scanning.Lines

/-!
# What sources can write

Tokens and trees can be built by hand, and then they may hold anything. Those that come from a
source are more regular, and `Token.Written` says how. Marks and reserved words are spelled as their
kind asks, and carry no literal. A number token carries a number without a sign, and a string token
carries a text without a quotation mark, so neither ever lacks its literal.

A tree that is spelled by written tokens is written, too: `Expr.Written` says that its literals are
ones that tokens carry, and that each of its operators stands where an operator of its kind may
stand.
-/

namespace Scriptlet

open Glyph

theorem Text.CutInto.isHigh_of_stray {source : Text} {glyphs : List Glyph}
    (cut : CutInto source glyphs) {byte : UInt8} (member : .stray byte ∈ glyphs) :
    0x80 ≤ byte := by
  induction cut with
  | nil => cases member
  | char character tail ih =>
      rcases List.mem_cons.mp member with here | later
      · cases here
      · exact ih later
  | stray own alone tail ih =>
      rcases List.mem_cons.mp member with here | later
      · cases here
        apply UInt8.not_lt.mp
        intro ascii
        refine alone ⟨Char.ofNat byte.toNat, ?_⟩
        rw [utf8EncodeChar_of_ascii ascii]
        exact List.prefix_append [byte] _
      · exact ih later

/-- An ASCII byte is a glyph of its own. -/
theorem Glyph.eq_char_of_mem_bytes {source : Text} {glyph : Glyph} (member : glyph ∈ source.glyphs)
    {item : UInt8} (ascii : item < 0x80) (inside : item ∈ glyph.bytes) :
    glyph = char (Char.ofNat item.toNat) := by
  cases glyph with
  | stray byte =>
      rw [List.mem_singleton.mp inside] at ascii
      exact absurd ascii (UInt8.not_lt.mpr ((Text.cutInto_glyphs source).isHigh_of_stray member))
  | char character =>
      by_contra other
      refine not_mem_utf8EncodeChar ascii (fun same => other ?_) inside
      rw [utf8EncodeChar_injective (same.trans (utf8EncodeChar_of_ascii ascii).symm)]

theorem Glyph.bytes_of_isDigit {glyph : Glyph} (digit : glyph.isDigit) :
    ∃ byte, glyph.bytes = [byte] ∧ Numeral.isDigit byte := by
  cases glyph with
  | stray byte => cases digit
  | char character =>
      have bounds : 48 ≤ character.toNat ∧ character.toNat ≤ 57 := by
        simpa [isDigit, scalar, Char.isDigit, UInt32.le_iff_toNat_le] using digit
      have spelled : (byte character).toNat = character.toNat := by
        rw [byte, UInt8.toNat_ofNat']
        omega
      refine ⟨byte character, ?_, (Numeral.isDigit_byte digit).1⟩
      have ascii : byte character < 0x80 := by
        rw [UInt8.lt_iff_toNat_lt, spelled]
        simp
        omega
      have encoded := utf8EncodeChar_of_ascii ascii
      rwa [spelled, Char.ofNat_toNat] at encoded

theorem Glyph.isDigit_of_mem_join {glyphs : List Glyph}
    (areDigits : ∀ glyph ∈ glyphs, glyph.isDigit) :
    ∀ digit ∈ Glyph.join glyphs, Numeral.isDigit digit := by
  intro digit member
  rcases List.mem_flatMap.mp member with ⟨glyph, inGlyphs, inBytes⟩
  rcases bytes_of_isDigit (areDigits glyph inGlyphs) with ⟨byte, bytes, isDigit⟩
  rw [bytes, List.mem_singleton] at inBytes
  rwa [inBytes]

theorem Glyph.join_cons_ne_nil {first : Glyph} (digit : first.isDigit) (rest : List Glyph) :
    Glyph.join (first :: rest) ≠ [] := by
  rcases bytes_of_isDigit digit with ⟨byte, bytes, -⟩
  simp [Glyph.join, bytes]

theorem Glyph.join_append (front back : List Glyph) :
    Glyph.join (front ++ back) = Glyph.join front ++ Glyph.join back :=
  List.flatMap_append

theorem Glyph.join_quoted (content : List Glyph) :
    Glyph.join (char '"' :: (content ++ [char '"'])) =
      byte '"' :: (Glyph.join content ++ [byte '"']) := by
  rw [← List.singleton_append, join_append, join_append]
  rfl

/-- The marks and the reserved words: the kinds of token that are always spelled alike. -/
def vocabulary : List (TokenKind × String) :=
  marks ++ Keyword.all.map fun word => (.keyword word, word.spelling)

/-- The tokens that sources write. -/
inductive Token.Written : Token → Prop where
  | word {kind : TokenKind} {spelling : String} (known : (kind, spelling) ∈ vocabulary)
      (line : Int) : Written { kind, lexeme := Scriptlet.text spelling, line }
  | identifier (lexeme : Text) (line : Int) : Written { kind := .identifier, lexeme, line }
  | number {lexeme : Text} {decimal : Decimal} (plain : Numeral.Plain lexeme decimal)
      (line : Int) :
      Written { kind := .number, lexeme, literal := some (.number (decimal.round false)), line }
  | string {content : Text} (unquoted : byte '"' ∉ content) (line : Int) :
      Written
        { kind := .string, lexeme := byte '"' :: (content ++ [byte '"']),
          literal := some (.string content), line }
  | ending (line : Int) : Written { kind := .eof, line }

theorem Numeral.Plain.of_lexeme {glyphs : List Glyph} (isLexeme : Lexeme .number glyphs) :
    ∃ decimal, Plain (Glyph.join glyphs) decimal := by
  generalize isNumber : TokenKind.number = kind at isLexeme
  cases isLexeme with
  | mark known =>
      have noNumber : ∀ entry ∈ marks, TokenKind.number ≠ entry.1 := by decide
      exact absurd isNumber (noNumber _ known)
  | @whole first digits starts continues =>
      refine ⟨_, .whole (join_cons_ne_nil starts digits) (isDigit_of_mem_join ?_)⟩
      exact List.forall_mem_cons.mpr ⟨starts, continues⟩
  | @fraction first place digits places starts continues placed ends =>
      have front := isDigit_of_mem_join (List.forall_mem_cons.mpr ⟨starts, continues⟩)
      have back := isDigit_of_mem_join (List.forall_mem_cons.mpr ⟨placed, ends⟩)
      rw [← List.cons_append, join_append]
      exact ⟨_, .fraction (join_cons_ne_nil starts digits) front back⟩
  | _ => cases isNumber

namespace Segment

theorem Partition.subset {glyphs : List Glyph} {segments : List Segment}
    (partition : Partition glyphs segments) :
    ∀ segment ∈ segments, segment.glyphs ⊆ glyphs := by
  induction partition with
  | nil => simp
  | cons stands tail ih =>
      intro segment member
      rcases List.mem_cons.mp member with rfl | later
      · exact List.subset_append_left _ _
      · exact List.Subset.trans (ih segment later) (List.subset_append_right _ _)

theorem mem_of_mem_numbered {line own : Nat} {segment : Segment} {segments : List Segment}
    (member : (own, segment) ∈ numbered line segments) : segment ∈ segments := by
  induction segments generalizing line with
  | nil => cases member
  | cons first rest ih =>
      rcases List.mem_cons.mp member with here | later
      · cases here
        exact .head rest
      · exact .tail first (ih later)

theorem literal?_eq_none {kind : TokenKind} (noNumber : kind ≠ .number) (noString : kind ≠ .string)
    (lexeme : Text) : literal? kind lexeme = none := by
  unfold literal?
  split
  · exact absurd rfl noNumber
  · exact absurd rfl noString
  · rfl

/-- A token segment of a source gives a written token. -/
theorem written_of_lexeme {source : Text} {kind : TokenKind} {glyphs : List Glyph}
    (isLexeme : Lexeme kind glyphs) (inSource : glyphs ⊆ source.glyphs) (line : Int) :
    Token.Written
      { kind, lexeme := Glyph.join glyphs, literal := literal? kind (Glyph.join glyphs),
        line } := by
  cases isLexeme with
  | @mark _ spelling known =>
      have noLiteral : ∀ entry ∈ marks, entry.1 ≠ .number ∧ entry.1 ≠ .string := by decide
      rw [literal?_eq_none (noLiteral _ known).1 (noLiteral _ known).2, join_spell]
      exact .word (List.mem_append_left _ known) line
  | keyword word =>
      rw [join_spell]
      exact .word (List.mem_append_right _ (List.mem_map_of_mem (Keyword.mem_all word))) line
  | identifier starts continues free => exact .identifier _ line
  | whole starts continues =>
      rcases Numeral.Plain.of_lexeme (.whole starts continues) with ⟨decimal, plain⟩
      rw [literal?, plain.decimal?]
      exact .number plain line
  | fraction starts continues placed ends =>
      rcases Numeral.Plain.of_lexeme (.fraction starts continues placed ends) with ⟨decimal, plain⟩
      rw [literal?, plain.decimal?]
      exact .number plain line
  | @string content unquoted =>
      have noQuote : byte '"' ∉ Glyph.join content := by
        intro member
        rcases List.mem_flatMap.mp member with ⟨glyph, inContent, inBytes⟩
        have inside : glyph ∈ source.glyphs := inSource (by simp [inContent])
        exact unquoted glyph inContent (eq_char_of_mem_bytes inside (by decide) inBytes)
      rw [join_quoted]
      simpa [literal?] using Token.Written.string noQuote line

end Segment

/-- A token of a source is its end, or what a lexeme in the source gives. -/
theorem Scan.token_cases {source : Text} {token : Token}
    (member : token ∈ (ofSource source).tokens) :
    (∃ line, token = ending line) ∨
      ∃ kind glyphs line, Lexeme kind glyphs ∧ glyphs ⊆ source.glyphs ∧
        token = { kind, lexeme := Glyph.join glyphs,
                  literal := Segment.literal? kind (Glyph.join glyphs), line } := by
  rcases List.mem_append.mp member with inWords | last
  · rcases List.mem_filterMap.mp inWords with ⟨⟨line, segment⟩, numbered, found⟩
    have partition := Segment.partition_split source.glyphs
    have inSource := Segment.mem_of_mem_numbered numbered
    rcases partition.exists_stands segment inSource with ⟨following, stands⟩
    have subset := partition.subset segment inSource
    cases stands with
    | token isLexeme =>
        cases found
        exact .inr ⟨_, _, _, isLexeme, subset, rfl⟩
    | _ => cases found
  · exact .inl ⟨_, List.mem_singleton.mp last⟩

/-- All tokens of a source are written. -/
theorem Scan.written_of_mem_tokens {source : Text} :
    ∀ token ∈ (ofSource source).tokens, token.Written := by
  intro token member
  rcases token_cases member with ⟨line, rfl⟩ | ⟨kind, glyphs, line, isLexeme, inSource, rfl⟩
  · exact .ending line
  · exact Segment.written_of_lexeme isLexeme inSource line

/-- The values that literals have: a number without a sign, a text without a quotation mark. -/
inductive Value.Written : Value → Prop where
  | nil : Written .nil
  | bool (truth : Bool) : Written (.bool truth)
  | number {amount : Number} (unsigned : amount.Unsigned) : Written (.number amount)
  | string {content : Text} (unquoted : byte '"' ∉ content) : Written (.string content)

namespace Token.Written

theorem denotes {token : Token} {value : Value} (written : token.Written)
    (denotes : token.Denotes value) : value.Written := by
  cases denotes with
  | falsehood word => exact .bool false
  | truth word => exact .bool true
  | nothing word => exact .nil
  | carried literal carries =>
      cases written with
      | word known line => cases carries
      | identifier lexeme line => cases carries
      | number plain line =>
          cases carries
          exact .number (.round _)
      | string unquoted line =>
          cases carries
          exact .string unquoted
      | ending line => cases carries

/-- A number or string token never lacks its literal. -/
theorem literal_isSome {token : Token} (written : token.Written)
    (literal : token.kind = .number ∨ token.kind = .string) : token.literal.isSome := by
  cases written with
  | word known line =>
      have noLiteral : ∀ entry ∈ vocabulary, ¬(entry.1 = .number ∨ entry.1 = .string) := by decide
      exact absurd literal (noLiteral _ known)
  | identifier lexeme line => simp at literal
  | number plain line => rfl
  | string unquoted line => rfl
  | ending line => simp at literal

end Token.Written

/-- A token that is a mark or a reserved word. -/
def Token.IsWord (token : Token) : Prop :=
  ∃ spelling, (token.kind, spelling) ∈ vocabulary ∧ token.lexeme = Scriptlet.text spelling ∧
    token.literal = none

namespace Token.IsWord

/-- What is neither a name nor a literal is spelled as its kind asks. -/
theorem of_written {token : Token} (written : token.Written)
    (fixed : token.kind ∉ [.identifier, .number, .string, .eof]) : token.IsWord := by
  cases written with
  | word known line => exact ⟨_, known, rfl, rfl⟩
  | _ => simp at fixed

theorem of_unary {operator : Token} (known : operator.kind ∈ unaryOperators)
    (written : operator.Written) : operator.IsWord := by
  apply of_written written
  revert known
  generalize operator.kind = kind
  revert kind
  decide

theorem of_binary {operator : Token} {tier : Tier} (known : operator.kind ∈ tier.operators)
    (written : operator.Written) : operator.IsWord := by
  apply of_written written
  revert known
  generalize operator.kind = kind
  revert kind
  cases tier <;> decide

end Token.IsWord

namespace Expr

/-- The trees that sources spell. -/
inductive Written : Expr → Prop where
  | literal {value : Value} (denoted : value.Written) (line : Int) :
      Written (.literal (some value) line)
  | group {inner : Expr} (inside : inner.Written) : Written (.group inner)
  | unary {operator : Token} {operand : Expr} (known : operator.kind ∈ unaryOperators)
      (spelled : operator.Written) (operandWritten : operand.Written) :
      Written (.unary operator operand)
  | binary {left right : Expr} {operator : Token} {tier : Tier}
      (known : operator.kind ∈ tier.operators) (spelled : operator.Written)
      (leftWritten : left.Written) (rightWritten : right.Written) :
      Written (.binary left operator right)

theorem Yields.written {expr : Expr} {tokens : List Token} (yields : expr.Yields tokens)
    (shaped : expr.TierShaped) (spelled : ∀ token ∈ tokens, token.Written) : expr.Written := by
  induction yields with
  | literal denotes => exact .literal ((spelled _ (.head _)).denotes denotes) _
  | group opens closes innerYields ih =>
      cases shaped with
      | group innerShaped =>
          refine .group (ih innerShaped fun token member => spelled token ?_)
          simp [member]
  | unary operandYields ih =>
      cases shaped with
      | unary known operandShaped operandRank =>
          rw [List.forall_mem_cons] at spelled
          exact .unary known spelled.1 (ih operandShaped spelled.2)
  | binary leftYields rightYields leftIh rightIh =>
      cases shaped with
      | binary known leftShaped leftRank rightShaped rightRank =>
          rw [List.forall_mem_append, List.forall_mem_cons] at spelled
          exact .binary known spelled.2.1 (leftIh leftShaped spelled.1)
            (rightIh rightShaped spelled.2.2)

theorem SpelledBy.written {limit : Nat} {expr : Expr} {tokens : List Token}
    (spelledBy : expr.SpelledBy limit tokens) (spelled : ∀ token ∈ tokens, token.Written) :
    expr.Written :=
  spelledBy.yields.written spelledBy.shaped spelled

/-- A tree that is read from written tokens is written. -/
theorem written_of_ofTokens {limit : Nat} {tokens : List Token} {expr : Expr}
    (spelled : ∀ token ∈ tokens, token.Written) (read : ofTokens limit tokens = .ok expr) :
    expr.Written := by
  rcases spelledBy_of_ofTokens read with ⟨spelling, spelledBy, inside⟩
  exact spelledBy.written fun token member => spelled token (inside.subset member)

end Expr

theorem Input.written_ending {tokens : List Token} (spelled : ∀ token ∈ tokens, token.Written) :
    (ofTokens tokens).ending.Written := by
  unfold ofTokens
  dsimp only
  cases found : tokens.find? fun token => token.kind = .eof with
  | none => exact .ending _
  | some token => exact spelled token (List.mem_of_find?_eq_some found)

/-- The statements that sources spell. -/
inductive Statement.Written : Statement → Prop where
  | print {expr : Expr} (written : expr.Written) (line : Int) : Written (.print expr line)
  | expression {expr : Expr} (written : expr.Written) : Written (.expression expr)

namespace Program

/-- The statements that are read from written tokens are written. -/
theorem written_of_mem_recover {limit : Nat} {tokens : List Token}
    (spelled : ∀ token ∈ tokens, token.Written) :
    ∀ statement ∈ (recover limit tokens).1, statement.Written := by
  intro statement member
  rcases spelledWithin_of_mem_recover statement member with
    ⟨expr, spelling, isExpr, spelledBy, inside⟩
  have written := spelledBy.written fun token member => spelled token (inside.subset member)
  cases statement with
  | absent => cases isExpr
  | print own line =>
      cases isExpr
      exact .print written line
  | expression own =>
      cases isExpr
      exact .expression written

end Program

namespace Engine

theorem written_of_expression {engine : Engine} {source : Text} {expr : Expr}
    (read : engine.expression source = .ok expr) : expr.Written := by
  rcases engine.expression_cases source with ⟨other, isRead, ofTokens⟩ | ⟨-, failure, refused, -⟩
  · rw [isRead] at read
    cases read
    exact Expr.written_of_ofTokens Scan.written_of_mem_tokens ofTokens
  · rw [refused] at read
    cases read

theorem written_of_program {engine : Engine} {source : Text} {read : List Statement}
    (isProgram : engine.program source = .ok read) : ∀ statement ∈ read, statement.Written := by
  rcases engine.program_cases source with recovered | ⟨-, failure, refused, -⟩
  · rw [recovered] at isProgram
    cases isProgram
    exact Program.written_of_mem_recover Scan.written_of_mem_tokens
  · rw [refused] at isProgram
    cases isProgram

end Engine

end Scriptlet
