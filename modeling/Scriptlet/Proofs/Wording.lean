import Scriptlet.Proofs.DocumentedFaults
import Scriptlet.Proofs.Frames

/-!
# How many lines a fault fills

The wording of a fault quotes texts of the source as they are: the lexeme at fault, the operator and
the operands. All else that it is made of stands on one line, so it has as many line feeds as the
quoted texts have, and so has its part of a report. Of the tokens only strings can span lines. Where
none does, no value ever holds a line feed, for values come from literals, and every fault is shown
on exactly one line.
-/

namespace Scriptlet

namespace Text

theorem newlines_text {string : String} (single : '\n' ∉ string.toList) :
    newlines (text string) = 0 := by
  rw [newlines_eq_zero_iff, ← Glyph.join_spell]
  intro member
  rcases List.mem_flatMap.mp member with ⟨glyph, inGlyphs, inBytes⟩
  rcases List.mem_map.mp inGlyphs with ⟨character, inString, rfl⟩
  refine Glyph.newline_not_mem_utf8EncodeChar ?_ inBytes
  rintro rfl
  exact single inString

theorem newline_not_mem_of_digits {digits : Text}
    (areDigits : ∀ digit ∈ digits, Numeral.isDigit digit) : newline ∉ digits := by
  intro member
  exact absurd (areDigits newline member) (by decide)

theorem newlines_ofInt (number : Int) : newlines (ofInt number) = 0 := by
  have absolute := newline_not_mem_of_digits (@isDigit_of_mem_ofNat number.natAbs)
  rw [newlines_eq_zero_iff, ofInt]
  split
  · exact List.not_mem_cons_of_ne_of_not_mem (by decide) absolute
  · exact absolute

theorem newlines_spaces (count : Nat) : newlines (spaces count) = 0 := by
  rw [newlines_eq_zero_iff]
  intro member
  exact absurd (List.eq_of_mem_replicate member) (by decide)

theorem newlines_hex (digits value : Nat) : newlines (hex digits value) = 0 := by
  induction digits generalizing value with
  | zero => rfl
  | succ rest ih =>
      have single : ∀ digit < 16, newlines [hexDigit digit] = 0 := by decide
      rw [hex, newlines_append, ih, single _ (Nat.mod_lt _ (by decide))]

end Text

theorem Quoted.newlines_ofChar (character : Char) : Text.newlines (ofChar character) = 0 := by
  have inside : Text.newlines (escaped '\'' character) = 0 := by
    unfold escaped
    split
    · rename_i isEscape
      have quoted : ∀ other : Char, other = '\'' ∨ other = '\\' →
          Text.newlines [byte '\\', byte other] = 0 := by
        rintro other (rfl | rfl) <;> rfl
      exact quoted character (by simpa using isEscape)
    · split
      · rename_i printable
        rw [Text.newlines_eq_zero_iff]
        apply Glyph.newline_not_mem_utf8EncodeChar
        rintro rfl
        exact absurd printable (by decide +kernel)
      · split
        · rename_i letter found
          unfold letter? at found
          split at found <;> cases found <;> rfl
        · split
          · rw [hexByte, Text.newlines_append, Text.newlines_hex, Text.newlines_text (by decide)]
          · unfold numbered
            split <;>
              rw [Text.newlines_append, Text.newlines_hex, Text.newlines_text (by decide)]
  rw [ofChar, Text.newlines_append, Text.newlines_cons, inside]
  rfl

theorem Numeral.Plain.newline_not_mem {source : Text} {decimal : Decimal}
    (plain : Plain source decimal) : Text.newline ∉ source := by
  cases plain with
  | whole starts areDigits => exact Text.newline_not_mem_of_digits areDigits
  | fraction starts areDigits arePlaces =>
      have front := Text.newline_not_mem_of_digits areDigits
      have back := Text.newline_not_mem_of_digits arePlaces
      simp only [List.mem_append, List.mem_cons, not_or]
      exact ⟨front, by decide, back⟩

theorem Number.newline_not_mem_text (number : Number) : Text.newline ∉ number.text := by
  cases number with
  | nan => decide
  | infinite negative => cases negative <;> decide
  | finite negative units representable =>
      have unsigned : Text.newline ∉ (finite false units representable).text := by
        rcases (Unsigned.finite units representable).text_cases with ⟨-, isInfinite⟩ |
          ⟨decimal, plain, -⟩
        · rw [isInfinite]
          decide
        · exact plain.newline_not_mem
      cases negative with
      | false => exact unsigned
      | true =>
          rw [text_finite_true]
          exact List.not_mem_cons_of_ne_of_not_mem (by decide) unsigned

namespace Value

theorem newlines_inspect (value : Value) : value.inspect.newlines = value.text.newlines := by
  cases value with
  | string content =>
      rw [inspect, text, List.cons_append, Text.newlines_cons, Text.newlines_append]
      rfl
  | _ => rfl

/-- A value is on one line if its text is. -/
def IsInline (value : Value) : Prop :=
  Text.newline ∉ value.text

theorem IsInline.nil : IsInline .nil := by
  unfold IsInline
  decide

theorem IsInline.bool (truth : Bool) : IsInline (.bool truth) := by
  unfold IsInline
  cases truth <;> decide

theorem IsInline.number (amount : Number) : IsInline (.number amount) :=
  amount.newline_not_mem_text

theorem IsInline.joint {front back : Text} (frontInline : IsInline (.string front))
    (backInline : IsInline (.string back)) : IsInline (.string (front ++ back)) := by
  intro member
  exact (List.mem_append.mp member).elim frontInline backInline

end Value

/-- The texts that the wording of a cause shows as they are. -/
def Cause.quoted : Cause → List Text
  | .invalidOperands operator left right => [operator, left.text, right.text]
  | .invalidOperand operand | .unreadableNumber operand => [operand.text]
  | .unsupportedUnary operator | .unsupportedBinary operator => [operator]
  | .custom _ note => [note]
  | _ => []

theorem Cause.newlines_message (cause : Cause) :
    cause.message.newlines = total Text.newlines cause.quoted := by
  cases cause with
  | unexpectedCharacter character =>
      rw [message, Text.newlines_append, Quoted.newlines_ofChar, Text.newlines_text (by decide)]
      rfl
  | _ =>
      simp (disch := decide) [message, quoted, Text.newlines_append, Text.newlines_text,
        Value.newlines_inspect]

namespace Fault

/-- The texts that the wording of a fault shows as they are. -/
def quoted (fault : Fault) : List Text :=
  match fault.token with
  | none => fault.cause.quoted
  | some token =>
      if token.kind = .eof then fault.cause.quoted else token.lexeme :: fault.cause.quoted

/-- Only what is quoted can break the line of a fault. -/
theorem newlines_text (fault : Fault) :
    fault.text.newlines = total Text.newlines fault.quoted := by
  have place : fault.place.newlines + fault.message.newlines =
      total Text.newlines fault.quoted := by
    rw [message, Cause.newlines_message, quoted, Fault.place]
    cases fault.token with
    | none => simp [Text.newlines]
    | some token =>
        dsimp only
        split
        · rw [Text.newlines_text (by decide), Nat.zero_add]
        · simp (disch := decide) [Text.newlines_append, Text.newlines_text]
  simp (disch := decide) only [text, Text.newlines_append, Text.newlines_text, Text.newlines_ofInt]
  omega

/-- A fault is on one line if all that it quotes is. -/
def IsInline (fault : Fault) : Prop :=
  ∀ part ∈ fault.quoted, Text.newline ∉ part

theorem isInline_iff {fault : Fault} : fault.IsInline ↔ Text.newline ∉ fault.text := by
  rw [← Text.newlines_eq_zero_iff, newlines_text, IsInline]
  induction fault.quoted with
  | nil => simp
  | cons part rest ih =>
      rw [List.forall_mem_cons, total_cons, Nat.add_eq_zero_iff, ih, Text.newlines_eq_zero_iff]

theorem IsInline.atToken {token : Token} {cause : Cause} (lexeme : Text.newline ∉ token.lexeme)
    (parts : ∀ part ∈ cause.quoted, Text.newline ∉ part) :
    (Fault.atToken token cause).IsInline := by
  unfold IsInline quoted Fault.atToken
  dsimp only
  split
  · exact parts
  · exact List.forall_mem_cons.mpr ⟨lexeme, parts⟩

end Fault

/-- The faults that the failure carries are all on one line each. -/
def Failure.IsInline (failure : Failure) : Prop :=
  ∀ fault ∈ failure.found, fault.IsInline

theorem Failure.IsInline.atToken {token : Token} {cause : Cause}
    (lexeme : Text.newline ∉ token.lexeme) (parts : ∀ part ∈ cause.quoted, Text.newline ∉ part) :
    (Failure.fault (.atToken token cause)).IsInline := by
  intro fault member
  rw [List.mem_singleton.mp member]
  exact .atToken lexeme parts

theorem Failure.Documented.text_eq {failure : Failure} (documented : failure.Documented) :
    failure.text = faultsText failure.found := by
  cases documented with
  | @fault found documented =>
      change found.text = Text.joinWith [Text.newline] [found.text]
      rw [Text.joinWith, List.intercalate_singleton]
  | faults several documented => rfl

/-- A value on one line, or a failure of which that is true. -/
inductive StaysInline : Except Failure Value → Prop where
  | ok {value : Value} (inline : value.IsInline) : StaysInline (.ok value)
  | error {failure : Failure} (inline : failure.IsInline) : StaysInline (.error failure)

theorem Combines.isInline {kind : TokenKind} {left right value : Value}
    (combines : Combines kind left right value) (leftInline : left.IsInline)
    (rightInline : right.IsInline) : value.IsInline := by
  cases combines with
  | joint front back => exact leftInline.joint rightInline
  | sum | difference | product | quotient => exact .number _
  | _ => exact .bool _

namespace Token

variable {operator : Token} {result : Except Failure Value}

theorem Unary.staysInline {operand : Value} (applied : operator.Unary operand result)
    (lexeme : Text.newline ∉ operator.lexeme) (inline : operand.IsInline) : StaysInline result := by
  cases applied with
  | minus amount kind => exact .ok (.number _)
  | minusOther kind other => exact .ok .nil
  | negation kind negates => exact .ok (.bool _)
  | plus kind reads => exact .ok (.number _)
  | unreadable kind unread => exact .error (.atToken lexeme (List.forall_mem_singleton.mpr inline))
  | plusOther kind other => exact .error (.atToken lexeme (List.forall_mem_singleton.mpr inline))
  | unknown unknown => exact .error (.atToken lexeme (List.forall_mem_singleton.mpr lexeme))

theorem Binary.staysInline {left right : Value} (applied : operator.Binary left right result)
    (lexeme : Text.newline ∉ operator.lexeme) (leftInline : left.IsInline)
    (rightInline : right.IsInline) : StaysInline result := by
  cases applied with
  | combined combines => exact .ok (combines.isInline leftInline rightInline)
  | refused known unfit =>
      refine .error (.atToken lexeme ?_)
      exact List.forall_mem_cons.mpr ⟨lexeme, List.forall_mem_cons.mpr
        ⟨leftInline, List.forall_mem_singleton.mpr rightInline⟩⟩
  | unknown unknown => exact .error (.atToken lexeme (List.forall_mem_singleton.mpr lexeme))

end Token

namespace Expr

/-- A tree whose literals and operators are all on one line each. -/
inductive IsInline : Expr → Prop where
  | literal {value : Value} (inline : value.IsInline) (line : Int) :
      IsInline (.literal (some value) line)
  | group {inner : Expr} (inside : inner.IsInline) : IsInline (.group inner)
  | unary {operator : Token} {operand : Expr} (lexeme : Text.newline ∉ operator.lexeme)
      (operandInline : operand.IsInline) : IsInline (.unary operator operand)
  | binary {left right : Expr} {operator : Token} (leftInline : left.IsInline)
      (lexeme : Text.newline ∉ operator.lexeme) (rightInline : right.IsInline) :
      IsInline (.binary left operator right)

theorem Evaluates.staysInline {expr : Expr} {result : Except Failure Value}
    (evaluates : expr.Evaluates result) (inline : expr.IsInline) : StaysInline result := by
  induction evaluates with
  | absent => cases inline
  | literal value line =>
      cases inline with
      | literal inline line => exact .ok inline
  | emptyLiteral line => cases inline
  | group evaluates ih =>
      cases inline with
      | group inside => exact ih inside
  | unary evaluates applied ih =>
      cases inline with
      | unary lexeme operandInline =>
          cases ih operandInline with
          | ok operandInline => exact applied.staysInline lexeme operandInline
  | operandFails fails ih =>
      cases inline with
      | unary lexeme operandInline => exact ih operandInline
  | binary leftEvaluates rightEvaluates applied leftIh rightIh =>
      cases inline with
      | binary leftInline lexeme rightInline =>
          cases leftIh leftInline with
          | ok leftInline =>
              cases rightIh rightInline with
              | ok rightInline => exact applied.staysInline lexeme leftInline rightInline
  | leftFails fails ih =>
      cases inline with
      | binary leftInline lexeme rightInline => exact ih leftInline
  | rightFails leftEvaluates fails leftIh ih =>
      cases inline with
      | binary leftInline lexeme rightInline => exact ih rightInline

theorem IsInline.of_eval {expr : Expr} {failure : Failure} (inline : expr.IsInline)
    (failed : expr.eval = .error failure) : failure.IsInline := by
  have evaluates := expr.evaluates_meaning
  rw [← eval_eq_meaning, failed] at evaluates
  cases evaluates.staysInline inline with
  | error inline => exact inline

end Expr

/-- The value that a written token denotes is on one line if the token is. -/
theorem Token.Written.isInline {token : Token} {value : Value} (written : token.Written)
    (lexeme : Text.newline ∉ token.lexeme) (denotes : token.Denotes value) : value.IsInline := by
  cases denotes with
  | falsehood word => exact .bool false
  | truth word => exact .bool true
  | nothing word => exact .nil
  | carried literal carries =>
      cases written with
      | number plain line =>
          cases carries
          exact .number _
      | string unquoted line =>
          cases carries
          intro member
          exact lexeme (.tail _ (List.mem_append_left _ member))
      | _ => cases carries

theorem Expr.Yields.isInline {expr : Expr} {tokens : List Token} (yields : expr.Yields tokens)
    (inline : ∀ token ∈ tokens, token.Written ∧ Text.newline ∉ token.lexeme) : expr.IsInline := by
  induction yields with
  | literal denotes =>
      rcases inline _ (.head _) with ⟨written, lexeme⟩
      exact .literal (written.isInline lexeme denotes) _
  | group opens closes innerYields ih =>
      rw [List.forall_mem_cons, List.forall_mem_append] at inline
      exact .group (ih inline.2.1)
  | unary operandYields ih =>
      rw [List.forall_mem_cons] at inline
      exact .unary inline.1.2 (ih inline.2)
  | binary leftYields rightYields leftIh rightIh =>
      rw [List.forall_mem_append, List.forall_mem_cons] at inline
      exact .binary (leftIh inline.1) inline.2.1.2 (rightIh inline.2.2)

/-- Of all lexemes only strings can span lines. -/
theorem Lexeme.newline_not_mem {kind : TokenKind} {glyphs : List Glyph}
    (isLexeme : Lexeme kind glyphs) (noString : kind ≠ .string) : .char '\n' ∉ glyphs := by
  have unfit {test : Glyph → Bool} {part : List Glyph} (fails : test (.char '\n') = false)
      (passes : ∀ glyph ∈ part, test glyph) : .char '\n' ∉ part := by
    intro member
    have passed := passes _ member
    rw [fails] at passed
    cases passed
  have noDigit : (Glyph.char '\n').isDigit = false := by decide
  have noLetter : (Glyph.char '\n').continuesName = false := by decide +kernel
  cases isLexeme with
  | mark known =>
      have single : ∀ entry ∈ marks, Glyph.char '\n' ∉ Glyph.spell entry.2 := by decide
      exact single _ known
  | keyword word => cases word <;> decide
  | string unquoted => exact absurd rfl noString
  | whole starts continues => exact unfit noDigit (List.forall_mem_cons.mpr ⟨starts, continues⟩)
  | fraction starts continues placed ends =>
      have front := unfit noDigit (List.forall_mem_cons.mpr ⟨starts, continues⟩)
      have back := unfit noDigit (List.forall_mem_cons.mpr ⟨placed, ends⟩)
      rw [← List.cons_append]
      intro member
      rcases List.mem_append.mp member with inFront | behind
      · exact front inFront
      · rcases List.mem_cons.mp behind with isPoint | inBack
        · exact absurd isPoint (by decide)
        · exact back inBack
  | identifier starts continues free =>
      have first := Glyph.continuesName_of_startsName starts
      exact unfit noLetter (List.forall_mem_cons.mpr ⟨first, continues⟩)

namespace Scan

theorem newline_not_mem_lexeme {source : Text} {token : Token}
    (member : token ∈ (ofSource source).tokens) (noString : token.kind ≠ .string) :
    Text.newline ∉ token.lexeme := by
  rcases token_cases member with ⟨line, rfl⟩ | ⟨kind, glyphs, line, isLexeme, inSource, rfl⟩
  · exact List.not_mem_nil
  · intro inLexeme
    rcases List.mem_flatMap.mp inLexeme with ⟨glyph, inGlyphs, inBytes⟩
    have isNewline := Glyph.eq_char_of_mem_bytes (inSource inGlyphs) (by decide) inBytes
    rw [isNewline] at inGlyphs
    exact isLexeme.newline_not_mem noString inGlyphs

/-- Whether no string of a source spans lines. -/
def StringsInLine (source : Text) : Prop :=
  ∀ token ∈ (ofSource source).tokens, token.kind = .string → Text.newline ∉ token.lexeme

theorem StringsInLine.lexeme {source : Text} (inLine : StringsInLine source) {token : Token}
    (member : token ∈ (ofSource source).tokens) : Text.newline ∉ token.lexeme := by
  by_cases isString : token.kind = .string
  · exact inLine token member isString
  · exact newline_not_mem_lexeme member isString

theorem isInline_of_mem_faults {source : Text} {fault : Fault}
    (member : fault ∈ (ofSource source).faults) : fault.IsInline := by
  rcases List.mem_filterMap.mp member with ⟨⟨line, role, glyphs⟩, -, faulty⟩
  cases role <;> cases faulty <;> exact List.forall_mem_nil _

end Scan

theorem Fault.Blames.isInline {token : Token} {fault : Fault} (blames : fault.Blames token)
    (lexeme : Text.newline ∉ token.lexeme) : fault.IsInline := by
  rcases blames with ⟨cause, blamable, rfl⟩
  refine .atToken lexeme ?_
  cases blamable <;> exact List.forall_mem_nil _

theorem Program.isInline_of_mem_recover {limit : Nat} {source : Text}
    (inLine : Scan.StringsInLine source) {fault : Fault}
    (member : fault ∈ (recover limit (Scan.ofSource source).tokens).2) : fault.IsInline := by
  rcases blames_of_mem_events fault member with ⟨token, place, blames⟩
  refine blames.isInline (inLine.lexeme ?_)
  rcases place with rfl | inBody
  · exact Scan.ending_mem_tokens source
  · exact List.takeWhile_subset _ inBody

theorem Program.isInline_of_run {limit : Nat} {source : Text} {statements : List Statement}
    (within : ∀ statement ∈ statements,
      SpelledWithin limit (Scan.ofSource source).tokens statement)
    (inLine : Scan.StringsInLine source) {sink : Sink} {failure : Failure}
    (failed : (run sink statements).2 = some failure) : failure.IsInline := by
  rcases failure_of_run failed with outside | ⟨statement, member, expr, isExpr, unevaluated⟩
  · simp [Failure.IsInline, Failure.found, outside]
  · rcases within statement member with ⟨own, spelling, isOwn, spelled, inside⟩
    rw [isExpr] at isOwn
    cases isOwn
    refine (spelled.yields.isInline ?_).of_eval unevaluated
    intro token inSpelling
    have inTokens := inside.subset inSpelling
    exact ⟨Scan.written_of_mem_tokens token inTokens, inLine.lexeme inTokens⟩

namespace Cells

theorem newlines_expand (source : Text) : (expand source).newlines = source.newlines := by
  fun_induction expand source with
  | case1 => rfl
  | case2 rest ih =>
      rw [Text.newlines_append, Text.newlines_spaces, ih, Text.newlines_cons, if_neg (by decide),
        Nat.zero_add, Nat.add_zero]
  | case3 rest ih =>
      rw [Text.newlines_cons, ih, Text.newlines_cons, Text.newlines_cons, if_pos rfl,
        if_pos (by decide), if_neg (by decide), Nat.add_zero]
  | case4 byte rest noTab noReturn ih => rw [Text.newlines_cons, ih, Text.newlines_cons]

variable {dress : Text → Text}

theorem newlines_block (keeps : ∀ line, Text.newline ∉ line → Text.newline ∉ dress line)
    (source : Text) : (block dress source).newlines = source.newlines := by
  rw [← newlines_expand source]
  have count := Text.length_lines (expand source)
  have inLine := @Text.newline_not_mem_of_mem_lines (expand source)
  unfold block
  dsimp only
  split
  · rename_i line isLine
    rw [isLine] at count inLine
    rw [Text.newlines_eq_zero_iff.mpr (keeps line (inLine line (.head _)))]
    exact Nat.succ.inj count
  · generalize ((expand source).lines.map width).foldl max 0 = columns
    refine Nat.add_right_cancel (m := 1) ?_
    rw [← count, Text.newlines_joinWith, List.length_map]
    · intro line member
      rcases List.mem_map.mp member with ⟨bare, isLine, rfl⟩
      rw [← Text.newlines_eq_zero_iff, Text.newlines_append, Text.newlines_spaces,
        Text.newlines_eq_zero_iff.mpr (keeps bare (inLine bare isLine))]
    · intro empty
      rw [List.map_eq_nil_iff.mp empty] at count
      cases count

end Cells

namespace Report

theorem newline_not_mem_attributed (colour : Colour) {attributes : String}
    (single : '\n' ∉ attributes.toList) {line : Text} (fresh : Text.newline ∉ line) :
    Text.newline ∉ attributed colour attributes line := by
  cases colour with
  | plain => exact fresh
  | always =>
      simp (disch := first | decide | exact single) only [attributed, ← Text.newlines_eq_zero_iff,
        Text.newlines_append, Text.newlines_text, Text.newlines_eq_zero_iff.mpr fresh]

/-- The wording of a fault is shown on as many lines as it has. -/
theorem newlines_faultBlock (colour : Colour) (wording : Text) :
    (faultBlock colour wording).newlines = wording.lines.length := by
  have keeps : ∀ line, Text.newline ∉ line →
      Text.newline ∉ attributed colour "1;38;5;203" line :=
    fun line fresh => newline_not_mem_attributed colour (by decide) fresh
  rw [faultBlock, Text.newlines_append, Cells.newlines_block keeps, Text.length_lines]
  rfl

end Report

theorem Statement.Written.of_expr? {statement : Statement} {expr : Expr}
    (written : statement.Written) (isExpr : statement.expr? = some expr) : expr.Written := by
  cases written with
  | print written line =>
      cases isExpr
      exact written
  | expression written =>
      cases isExpr
      exact written

namespace Engine

/-- Whatever the output accepts, a run that finds a fault of the source finds documented ones. -/
theorem documented_of_run {engine : Engine} {source : Text} {sink : Sink} {failure : Failure}
    (failed : (engine.run source sink).2 = some failure) (faulty : failure.found ≠ []) :
    failure.Documented := by
  unfold run at failed
  split at failed
  · rename_i isProgram
    rcases Program.failure_of_run failed with
      outside | ⟨statement, member, expr, isExpr, unevaluated⟩
    · exact absurd (by simp [Failure.found, outside]) faulty
    · have written := (written_of_program isProgram statement member).of_expr? isExpr
      rcases written.documented_of_eval unevaluated with ⟨fault, rfl, documented, -⟩
      exact .fault documented
  · rename_i refused
    cases failed
    exact (proper_of_program refused).documented

theorem isInline_of_run {engine : Engine} {source : Text} (inLine : Scan.StringsInLine source)
    {sink : Sink} {failure : Failure} (failed : (engine.run source sink).2 = some failure) :
    failure.IsInline := by
  unfold run at failed
  rcases engine.program_cases source with recovered | ⟨found, other, refused, isFailure, place⟩
  · rw [recovered] at failed
    exact Program.isInline_of_run Program.spelledWithin_of_mem_recover inLine failed
  · rw [refused] at failed
    cases failed
    intro fault member
    rw [Failure.found_of_ofFaults? isFailure] at member
    rcases place with rfl | subset
    · exact Scan.isInline_of_mem_faults member
    · exact Program.isInline_of_mem_recover inLine (subset member)

/-- The wording of each fault of a run fills a line, and one more for every line feed in the texts
that it quotes; a report shows it on just as many lines, with the frame of its line behind it. What
a failure says are the lines of its faults in order. If no string of the source spans lines, then
every fault is worded and shown on exactly one line. -/
theorem faults_fill_lines {engine : Engine} {source : Text} {sink : Sink} {failure : Failure}
    (failed : (engine.run source sink).2 = some failure) :
    (∀ fault ∈ failure.found,
      fault.text.lines.length = 1 + total Text.newlines fault.quoted ∧
      ∀ colour, (Report.faultBlock colour fault.text).newlines = fault.text.lines.length) ∧
    (failure.found ≠ [] →
      failure.text.lines = failure.found.flatMap (fun fault => fault.text.lines) ∧
      ∀ colour,
        Report.Shows colour source failure.found (Report.ofFailure colour source failure)) ∧
    (Scan.StringsInLine source →
      (∀ fault ∈ failure.found, Text.newline ∉ fault.text ∧
        ∀ colour, (Report.faultBlock colour fault.text).newlines = 1) ∧
      (failure.found ≠ [] → failure.text.lines = failure.found.map Fault.text)) := by
  have several (faulty : failure.found ≠ []) :
      failure.text.lines = failure.found.flatMap fun fault => fault.text.lines := by
    rw [(documented_of_run failed faulty).text_eq, faultsText,
      Text.lines_joinWith (mt List.map_eq_nil_iff.mp faulty), List.flatMap_map]
  refine ⟨?_, ?_, ?_⟩
  · intro fault member
    refine ⟨?_, fun colour => Report.newlines_faultBlock colour fault.text⟩
    rw [Text.length_lines, fault.newlines_text, Nat.add_comm]
  · intro faulty
    refine ⟨several faulty, fun colour => ?_⟩
    rw [Report.ofFailure_eq colour faulty]
    exact Report.shows_of_placed colour (Refuses.running sink failed).placed
  · intro inLine
    have fresh : ∀ fault ∈ failure.found, Text.newline ∉ fault.text := fun fault member =>
      Fault.isInline_iff.mp (isInline_of_run inLine failed fault member)
    have single : ∀ fault ∈ failure.found, fault.text.lines = [fault.text] := fun fault member =>
      Text.lines_of_not_mem (fresh fault member)
    refine ⟨?_, ?_⟩
    · intro fault member
      refine ⟨fresh fault member, fun colour => ?_⟩
      rw [Report.newlines_faultBlock, single fault member]
      rfl
    · intro faulty
      rw [several faulty, List.flatMap_congr single, List.map_eq_flatMap]

/-- A program with two faults, and with strings on a line each. -/
def twice : Text :=
  text "print \"a\" 1;\nprint \"b\" 2;"

theorem faults_fill_lines_twice :
    Scan.StringsInLine twice ∧ ∃ failure, (run { recovers := true } twice {}).2 = some failure ∧
      failure.text.lines = [text "[line 1] Error at '1': expect ';' after expression",
        text "[line 2] Error at '2': expect ';' after expression"] := by
  have inLine : Scan.StringsInLine twice := by
    unfold Scan.StringsInLine
    decide +kernel
  have found : (run { recovers := true } twice {}).2.map (fun failure =>
      failure.found.map Fault.text) =
        some [text "[line 1] Error at '1': expect ';' after expression",
          text "[line 2] Error at '2': expect ';' after expression"] := by
    decide +kernel
  rcases Option.map_eq_some_iff.mp found with ⟨failure, failed, texts⟩
  refine ⟨inLine, failure, failed, ?_⟩
  rw [← texts]
  apply ((faults_fill_lines failed).2.2 inLine).2
  intro empty
  rw [empty] at texts
  cases texts

/-- A runtime fault and a syntax fault that fill two lines each: they quote an operand and a lexeme
that span lines. -/
theorem fault_fills_two_lines :
    (run {} (text "print \"a\nb\" - 1;") {}).2.map
        (fun failure => (failure.found.length, failure.text.lines)) =
      some (1, [text "[line 2] Error at '-': invalid operands for -: \"a", text "b\" and 1"]) ∧
    (run {} (text "print 1 \"a\nb\";") {}).2.map
        (fun failure => (failure.found.length, failure.text.lines)) =
      some (1, [text "[line 2] Error at '\"a", text "b\"': expect ';' after expression"]) := by
  decide +kernel

end Engine

end Scriptlet
