import Scriptlet.Proofs.Layout.Meaning
import Scriptlet.Proofs.Layout.Tidying
import Scriptlet.Proofs.Reading.Runs
import Scriptlet.Proofs.Scanning.Written

/-!
# What layout does to the tokens of a source

Without carriage returns, layout does one thing to the tokens of a source without faults: inside
string tokens, the spaces and tabs right before a line feed go. All other tokens stay as they are,
and every token stays on its line. So the same statements are read, with the same change to the
texts in them.

The tokens are compared segment by segment. Lines need an argument of their own, because comments
and blanks lose glyphs too. Layout neither adds nor removes line feeds before the last visible
glyph; `breaks` counts these. If what is left of a source holds something visible, its breaks and
those of the whole source differ by the line feeds of what has been compared, and so these are the
same on both sides. If it does not, no token is left.
-/

namespace Scriptlet

open Glyph

theorem Glyph.bytes_of_blank {character : Char} (blank : character ∈ [' ', '\t', '\r', '\n']) :
    (char character).bytes = [byte character] := by
  simp only [List.mem_cons, List.not_mem_nil, or_false] at blank
  rcases blank with rfl | rfl | rfl | rfl <;> rfl

theorem Glyph.blank_of_mem_join {glyphs : List Glyph}
    (blank : ∀ glyph ∈ glyphs, Blank Glyph.char glyph) :
    ∀ item ∈ Glyph.join glyphs, Blank byte item := by
  intro item member
  rcases List.mem_flatMap.mp member with ⟨glyph, inGlyphs, inBytes⟩
  rcases blank glyph inGlyphs with ⟨character, isBlank, rfl⟩
  rw [bytes_of_blank isBlank, List.mem_singleton] at inBytes
  exact ⟨character, isBlank, inBytes⟩

theorem Glyph.join_cons (glyph : Glyph) (rest : List Glyph) :
    Glyph.join (glyph :: rest) = glyph.bytes ++ Glyph.join rest :=
  List.flatMap_cons

theorem AtLineEnd.join {glyphs : List Glyph} (lineEnds : AtLineEnd Glyph.char glyphs) :
    AtLineEnd byte (Glyph.join glyphs) := by
  induction lineEnds with
  | nil => exact .nil
  | lineFeed rest =>
      rw [join_cons]
      exact .lineFeed _
  | carriageReturn rest =>
      rw [join_cons]
      exact .carriageReturn _
  | gap isGap tail ih =>
      rw [join_cons, bytes_of_blank (mem_blanks_of_gap isGap)]
      exact .gap isGap ih

/-- Bytes are respaced like the glyphs that they spell. -/
theorem Respaced.join {glyphs other : List Glyph} (respaced : Respaced Glyph.char glyphs other)
    (noReturn : byte '\r' ∉ Glyph.join glyphs) :
    Respaced byte (Glyph.join glyphs) (Glyph.join other) := by
  induction respaced with
  | keep isKept tail ih =>
      rw [join_cons, List.mem_append, not_or] at noReturn
      rw [join_cons, join_cons]
      exact .keepAll noReturn.1 (ih noReturn.2)
  | trim isGap lineEnds tail ih =>
      rw [join_cons, List.mem_append, not_or] at noReturn
      rw [join_cons, bytes_of_blank (mem_blanks_of_gap isGap)]
      exact .trim isGap lineEnds.join (ih noReturn.2)
  | joined tail ih => exact absurd (.head _) noReturn
  | turned tail ih => exact absurd (.head _) noReturn
  | ending blank otherBlank =>
      exact .ending (blank_of_mem_join blank) (blank_of_mem_join otherBlank)

/-- A glyph that is not blank. -/
def Glyph.isVisible (glyph : Glyph) : Bool :=
  !Segment.isBlank glyph.scalar

theorem Glyph.isVisible_eq_false_iff {glyph : Glyph} :
    glyph.isVisible = false ↔ Blank Glyph.char glyph := by
  rw [blank_iff, isVisible, Bool.not_eq_false']

theorem Glyph.any_isVisible_eq_false {glyphs : List Glyph}
    (blank : ∀ glyph ∈ glyphs, Blank Glyph.char glyph) : glyphs.any isVisible = false := by
  rw [List.any_eq_false]
  intro glyph member
  rw [Bool.not_eq_true, isVisible_eq_false_iff]
  exact blank glyph member

/-- The line feeds before the last visible glyph. -/
def Glyph.breaks : List Glyph → Nat
  | [] => 0
  | glyph :: rest =>
      if rest.any isVisible then (if glyph.is '\n' then 1 else 0) + breaks rest else 0

theorem Glyph.breaks_of_blank {glyphs : List Glyph} (blank : glyphs.any isVisible = false) :
    breaks glyphs = 0 := by
  cases glyphs with
  | nil => rfl
  | cons glyph rest =>
      rw [List.any_cons, Bool.or_eq_false_iff] at blank
      simp [breaks, blank.2]

theorem Glyph.breaks_append (front : List Glyph) {tail : List Glyph}
    (visible : tail.any isVisible) :
    breaks (front ++ tail) = front.countP (Glyph.is '\n') + breaks tail := by
  induction front with
  | nil => simp
  | cons glyph front ih =>
      have later : (front ++ tail).any isVisible := by simp [visible]
      rw [List.cons_append, breaks, if_pos later, ih, List.countP_cons]
      omega

namespace Respaced

theorem any_isVisible {glyphs other : List Glyph} (respaced : Respaced Glyph.char glyphs other) :
    glyphs.any isVisible = other.any isVisible := by
  induction respaced with
  | keep isKept tail ih => rw [List.any_cons, List.any_cons, ih]
  | trim isGap lineEnds tail ih =>
      rw [List.any_cons, isVisible_eq_false_iff.mpr (blank_of_gap isGap), Bool.false_or, ih]
  | joined tail ih =>
      rw [List.any_cons, List.any_cons, List.any_cons, ih]
      rfl
  | turned tail ih =>
      rw [List.any_cons, List.any_cons, ih]
      rfl
  | ending blank otherBlank =>
      rw [any_isVisible_eq_false blank, any_isVisible_eq_false otherBlank]

theorem breaks_eq {glyphs other : List Glyph} (respaced : Respaced Glyph.char glyphs other)
    (noReturn : char '\r' ∉ glyphs) : breaks glyphs = breaks other := by
  induction respaced with
  | keep isKept tail ih =>
      rw [List.mem_cons, not_or] at noReturn
      rw [breaks, breaks, tail.any_isVisible, ih noReturn.2]
  | @trim character rest other isGap lineEnds tail ih =>
      rw [List.mem_cons, not_or] at noReturn
      have noBreak : (char character).is '\n' = false := by
        simp only [List.mem_cons, List.not_mem_nil, or_false] at isGap
        rcases isGap with rfl | rfl <;> rfl
      rw [← ih noReturn.2, breaks, noBreak]
      split
      · simp
      · rename_i blank
        rw [breaks_of_blank (Bool.eq_false_of_not_eq_true blank)]
  | joined tail ih => simp at noReturn
  | turned tail ih => simp at noReturn
  | ending blank otherBlank =>
      rw [breaks_of_blank (any_isVisible_eq_false blank),
        breaks_of_blank (any_isVisible_eq_false otherBlank)]

end Respaced

/-- A value without the spaces and tabs that stand right before a line feed in a text. -/
def Value.tidied : Value → Value
  | .string content => .string content.tidied
  | value => value

/-- A string token without the spaces and tabs right before line feeds, any other token as it is. -/
def Token.tidied (token : Token) : Token :=
  if token.kind = .string then
    { token with lexeme := token.lexeme.tidied, literal := token.literal.map Value.tidied }
  else token

theorem Token.tidied_of_kind_ne {token : Token} (noString : token.kind ≠ .string) :
    token.tidied = token :=
  if_neg noString

theorem Token.kind_tidied (token : Token) : token.tidied.kind = token.kind := by
  unfold tidied
  split <;> rfl

theorem Token.line_tidied (token : Token) : token.tidied.line = token.line := by
  unfold tidied
  split <;> rfl

theorem Token.tidied_shifted (lines : Int) (token : Token) :
    (token.shifted lines).tidied = token.tidied.shifted lines := by
  unfold tidied shifted
  split <;> rfl

theorem Text.tidied_quoted (content : Text) :
    tidied (byte '"' :: (content ++ [byte '"'])) = byte '"' :: (content.tidied ++ [byte '"']) := by
  rw [tidied_cons_of_not_gap (by decide), tidied_append (by decide) (by decide)]
  rfl

theorem Segment.literal?_quoted (content : Text) :
    literal? .string (byte '"' :: (content ++ [byte '"'])) = some (.string content) := by
  simp [literal?]

theorem Glyph.char_return_not_mem {glyphs : List Glyph} (noReturn : byte '\r' ∉ Glyph.join glyphs) :
    char '\r' ∉ glyphs := by
  intro member
  exact noReturn (List.mem_flatMap.mpr ⟨_, member, .head _⟩)

namespace Segment.Alike

variable {segment another : Segment}

theorem newlines_eq (alike : segment.Alike another)
    (stands : ∃ following, segment.Stands following)
    (otherStands : ∃ following, another.Stands following)
    (noReturn : char '\r' ∉ segment.glyphs) : segment.newlines = another.newlines := by
  rcases alike.eq_or_quoted stands otherStands with ⟨same, -⟩ | ⟨content, otherContent, rfl, rfl⟩
  · rw [same]
  · -- The closing quotation mark is visible, so all line feeds of a string count as breaks.
    have newlines_eq_breaks (content : List Glyph) :
        newlines ⟨.token .string, char '"' :: (content ++ [char '"'])⟩ =
          breaks (char '"' :: (content ++ [char '"'])) := by
      rw [newlines, ← List.cons_append, breaks_append _ (by rfl), List.countP_append]
      rfl
    rw [newlines_eq_breaks, newlines_eq_breaks]
    exact alike.respaced.breaks_eq noReturn

/-- The token of a segment that is respaced neatly is tidied. -/
theorem token?_tidied (alike : segment.Alike another)
    (stands : ∃ following, segment.Stands following)
    (otherStands : ∃ following, another.Stands following)
    (noReturn : byte '\r' ∉ segment.bytes) (neat : Layout.Neat another.bytes) (line : Nat) :
    another.token? line = (segment.token? line).map Token.tidied := by
  rcases alike.eq_or_quoted stands otherStands with
    ⟨rfl, noString⟩ | ⟨content, otherContent, rfl, rfl⟩
  · rcases segment with ⟨role, glyphs⟩
    cases role with
    | token kind =>
        have kept : kind ≠ .string := fun isString => noString (congrArg _ isString)
        simp [token?, Token.tidied, kept]
    | _ => rfl
  · have respaced := alike.respaced.join noReturn
    rw [bytes, join_quoted] at noReturn neat
    rw [join_quoted, join_quoted] at respaced
    have visible : ¬Blank byte (byte '"') := by
      rintro ⟨character, isBlank, same⟩
      simp only [List.mem_cons, List.not_mem_nil, or_false] at isBlank
      rcases isBlank with rfl | rfl | rfl | rfl <;> cases same
    have tidied := @Respaced.eq_tidied _ visible (_ :: _) (_ :: _) respaced noReturn neat
    rw [List.cons_append, List.cons_append, Text.tidied_quoted] at tidied
    simp only [token?, bytes, join_quoted, tidied, literal?_quoted, Token.tidied,
      Option.map_some, if_true, Text.tidied_quoted, Value.tidied]

end Segment.Alike

namespace Scan

theorem words_singleton (segment : Segment) :
    words [segment] = (segment.token? (1 + segment.newlines)).toList := by
  simp only [words, Segment.numbered, List.filterMap_cons, List.filterMap_nil]
  cases segment.token? (1 + segment.newlines) <;> rfl

theorem words_of_silent {segments : List Segment}
    (silent : ∀ segment ∈ segments, segment.matters = false) : words segments = [] := by
  rw [words, List.filterMap_eq_nil_iff]
  rintro ⟨line, ⟨role, glyphs⟩⟩ member
  have noMatter := silent _ (Segment.mem_of_mem_numbered member)
  cases role with
  | token kind => cases noMatter
  | _ => rfl

theorem words_split_of_blank {glyphs : List Glyph} (blank : glyphs.any isVisible = false) :
    words (Segment.split glyphs) = [] := by
  apply words_of_silent
  have nothing : (Segment.split glyphs).filter Segment.matters = [] := by
    apply Segment.filter_split_of_blank
    intro glyph member
    rw [← isVisible_eq_false_iff, ← Bool.not_eq_true]
    exact List.any_eq_false.mp blank glyph member
  simpa [List.filter_eq_nil_iff] using nothing

end Scan

namespace Segment

theorem flatMap_glyphs_split (glyphs : List Glyph) :
    (split glyphs).flatMap Segment.glyphs = glyphs := by
  fun_induction split glyphs with
  | case1 => rfl
  | case2 first rest role length reaches ih =>
      rw [List.flatMap_cons, ih, List.cons_append, List.take_append_drop]

variable {glyphs other tail otherTail : List Glyph} {segments others : List Segment}

theorem glyphs_eq_of_split (starts : split glyphs = segments ++ split tail) :
    glyphs = segments.flatMap Segment.glyphs ++ tail := by
  have parts := flatMap_glyphs_split glyphs
  rwa [starts, List.flatMap_append, flatMap_glyphs_split, eq_comm] at parts

theorem breaks_of_split (starts : split glyphs = segments ++ split tail)
    (visible : tail.any isVisible) : breaks glyphs = total newlines segments + breaks tail := by
  have parts := glyphs_eq_of_split starts
  have counted := total_newlines_split glyphs
  rw [starts, total_append, total_newlines_split, parts, List.countP_append] at counted
  rw [parts, breaks_append _ visible]
  omega

/-- What is compared holds as many line feeds on both sides, if something visible is left. -/
theorem total_newlines_eq (starts : split glyphs = segments ++ split tail)
    (otherStarts : split other = others ++ split otherTail)
    (respaced : Respaced Glyph.char glyphs other) (tails : Respaced Glyph.char tail otherTail)
    (noReturn : char '\r' ∉ glyphs) (visible : tail.any isVisible) :
    total newlines segments = total newlines others := by
  have noReturnLeft : char '\r' ∉ tail := by
    intro member
    apply noReturn
    rw [glyphs_eq_of_split starts]
    exact List.mem_append_right _ member
  have wholes := respaced.breaks_eq noReturn
  rw [breaks_of_split starts visible,
    breaks_of_split otherStarts (tails.any_isVisible ▸ visible), tails.breaks_eq noReturnLeft]
    at wholes
  omega

/-- If what is compared has the same words and so has what is left, all words are the same. -/
theorem words_eq_of_parts (starts : split glyphs = segments ++ split tail)
    (otherStarts : split other = others ++ split otherTail)
    (respaced : Respaced Glyph.char glyphs other) (tails : Respaced Glyph.char tail otherTail)
    (noReturn : char '\r' ∉ glyphs)
    (compared : Scan.words others = (Scan.words segments).map Token.tidied)
    (left : Scan.words (split otherTail) = (Scan.words (split tail)).map Token.tidied) :
    Scan.words (split other) = (Scan.words (split glyphs)).map Token.tidied := by
  rw [starts, otherStarts, Scan.words_append, Scan.words_append, List.map_append, compared, left]
  congr 1
  by_cases visible : tail.any isVisible
  · rw [total_newlines_eq starts otherStarts respaced tails noReturn visible, List.map_map,
      List.map_map]
    apply List.map_congr_left
    intro token _
    exact (token.tidied_shifted _).symm
  · rw [Scan.words_split_of_blank (Bool.eq_false_of_not_eq_true visible)]
    rfl

/-- One step: the words of what is compared are tidied, and with those of what is left all are. -/
theorem Leaves.words_tidied (leaves : Leaves glyphs other tail otherTail)
    (respaced : Respaced Glyph.char glyphs other) (tails : Respaced Glyph.char tail otherTail)
    (noReturn : byte '\r' ∉ Glyph.join glyphs) (neat : Layout.Neat (Glyph.join other))
    (left : Scan.words (split otherTail) = (Scan.words (split tail)).map Token.tidied) :
    Scan.words (split other) = (Scan.words (split glyphs)).map Token.tidied := by
  cases leaves with
  | @alike segment another starts otherStarts alike =>
      have stands := (partition_split glyphs).exists_stands segment (by simp [starts])
      have otherStands := (partition_split other).exists_stands another (by simp [otherStarts])
      refine @words_eq_of_parts _ _ _ _ [segment] [another] starts otherStarts respaced tails
        (char_return_not_mem noReturn) ?_ left
      have parts := @glyphs_eq_of_split _ _ [segment] starts
      have otherParts := @glyphs_eq_of_split _ _ [another] otherStarts
      rw [List.flatMap_singleton] at parts otherParts
      rw [parts, join_append, List.mem_append, not_or] at noReturn
      rw [otherParts, join_append] at neat
      rw [Scan.words_singleton, Scan.words_singleton,
        alike.token?_tidied stands otherStands noReturn.1 neat.left_of_append,
        alike.newlines_eq stands otherStands (char_return_not_mem noReturn.1), Option.toList_map]
  | silent starts otherStarts silent =>
      rw [List.forall_mem_append] at silent
      refine words_eq_of_parts starts otherStarts respaced tails (char_return_not_mem noReturn)
        ?_ left
      rw [Scan.words_of_silent silent.1, Scan.words_of_silent silent.2]
      rfl

theorem Leaves.join_suffix (leaves : Leaves glyphs other tail otherTail) :
    Glyph.join tail <:+ Glyph.join glyphs ∧ Glyph.join otherTail <:+ Glyph.join other := by
  have suffix {glyphs tail : List Glyph} {segments : List Segment}
      (starts : split glyphs = segments ++ split tail) :
      Glyph.join tail <:+ Glyph.join glyphs := by
    rw [glyphs_eq_of_split starts, join_append]
    exact List.suffix_append _ _
  cases leaves with
  | @alike segment another starts otherStarts alike =>
      exact ⟨@suffix _ _ [segment] starts, @suffix _ _ [another] otherStarts⟩
  | silent starts otherStarts silent => exact ⟨suffix starts, suffix otherStarts⟩

/-- The words of a source that is respaced neatly are the tidied words of the source. -/
theorem words_tidied_of_respaced (respaced : Respaced Glyph.char glyphs other)
    (steady : ∀ segment ∈ split glyphs, segment.Steady)
    (noReturn : byte '\r' ∉ Glyph.join glyphs) (neat : Layout.Neat (Glyph.join other)) :
    Scan.words (split other) = (Scan.words (split glyphs)).map Token.tidied := by
  induction bound : glyphs.length using Nat.strong_induction_on generalizing glyphs other with
  | h length ih =>
      cases glyphs with
      | nil =>
          rw [Scan.words_split_of_blank (any_isVisible_eq_false respaced.nil_left), split]
          rfl
      | cons first rest =>
          rcases advances respaced steady with
            ⟨tail, otherTail, shorter, tails, later, -, leaves⟩
          have parts := leaves (char_return_not_mem noReturn)
          have noReturnLeft : byte '\r' ∉ Glyph.join tail :=
            fun member => noReturn (parts.join_suffix.1.subset member)
          have left := ih tail.length (bound ▸ shorter) tails later noReturnLeft
            (neat.suffix parts.join_suffix.2) rfl
          exact parts.words_tidied respaced tails noReturn neat left

end Segment

/-- A tree whose literals are tidied. -/
def Expr.tidied : Expr → Expr
  | .absent => .absent
  | .literal value line => .literal (value.map Value.tidied) line
  | .group inner => .group inner.tidied
  | .unary operator operand => .unary operator operand.tidied
  | .binary left operator right => .binary left.tidied operator right.tidied

/-- A statement whose literals are tidied. -/
def Statement.tidied : Statement → Statement
  | .absent => .absent
  | .print expr line => .print expr.tidied line
  | .expression expr => .expression expr.tidied

/-- Tokens that a source writes correspond to themselves tidied. -/
def Likeness.tidied : Likeness where
  token one other := one.Written ∧ other = one.tidied
  line := Eq
  value one other := other = one.tidied
  kind_eq {one other} same := by rw [same.2, Token.kind_tidied]
  line_of_token {one other} same := by rw [same.2, Token.line_tidied]
  literal_of_token {one other} same := by
    rcases same with ⟨written, rfl⟩
    cases written with
    | word known line =>
        have noString : ∀ entry ∈ vocabulary, entry.1 ≠ .string := by decide
        rw [Token.tidied_of_kind_ne (noString _ known)]
        exact .none
    | identifier lexeme line => exact .none
    | number plain line => exact .some rfl
    | string unquoted line => exact .some rfl
    | ending line => exact .none
  value_of_word := by simp [Value.tidied]

theorem Expr.Alike.eq_tidied {expr other : Expr} (alike : expr.Alike Likeness.tidied other)
    (written : expr.Written) : other = expr.tidied := by
  induction alike with
  | absent => rfl
  | literal values lines =>
      cases lines
      cases values with
      | none => rfl
      | some same => exact congrArg (Expr.literal · _) (congrArg some same)
  | group inside ih =>
      cases written with
      | group innerWritten => rw [ih innerWritten, tidied]
  | unary operators operands ih =>
      cases written with
      | unary known spelled operandWritten =>
          have noString : ∀ kind ∈ unaryOperators, kind ≠ .string := by decide
          rw [operators.2, Token.tidied_of_kind_ne (noString _ known), ih operandWritten, tidied]
  | binary lefts operators rights leftIh rightIh =>
      cases written with
      | @binary _ _ _ tier known spelled leftWritten rightWritten =>
          have noString : ∀ kind ∈ tier.operators, kind ≠ .string := by cases tier <;> decide
          rw [operators.2, Token.tidied_of_kind_ne (noString _ known), leftIh leftWritten,
            rightIh rightWritten, tidied]

theorem Statement.Alike.eq_tidied {statement other : Statement}
    (alike : statement.Alike Likeness.tidied other) (written : statement.Written) :
    other = statement.tidied := by
  cases alike with
  | absent => rfl
  | print exprs lines =>
      cases written with
      | print exprWritten line =>
          cases lines
          rw [exprs.eq_tidied exprWritten, tidied]
  | expression exprs =>
      cases written with
      | expression exprWritten => rw [exprs.eq_tidied exprWritten, tidied]

theorem Statement.map_tidied_of_alike {statements others : List Statement}
    (alike : List.Forall₂ (Alike Likeness.tidied) statements others)
    (written : ∀ statement ∈ statements, statement.Written) :
    others = statements.map Statement.tidied := by
  induction alike with
  | nil => rfl
  | cons head tail ih =>
      rw [List.forall_mem_cons] at written
      rw [List.map_cons, head.eq_tidied written.1, ih written.2]

/-- What tidied tokens are read as is what the tokens are read as, tidied. -/
theorem Program.ofTokens_tidied {limit : Nat} {tokens : List Token} {read : List Statement}
    (spelled : ∀ token ∈ tokens, token.Written) (ends : .eof ∈ tokens.map Token.kind)
    (isRead : ofTokens limit tokens = .ok read) :
    ofTokens limit (tokens.map Token.tidied) = .ok (read.map Statement.tidied) := by
  have correspond : List.Forall₂ Likeness.tidied.token tokens (tokens.map Token.tidied) := by
    rw [List.forall₂_map_right_iff, List.forall₂_same]
    intro token member
    exact ⟨spelled token member, rfl⟩
  have written := @written_of_mem_recover limit _ spelled
  rw [ofTokens_eq_ok_iff.mp isRead] at written
  have readings := ofTokens_alike limit correspond ends
  rw [isRead] at readings
  generalize ofTokens limit (tokens.map Token.tidied) = reading at readings
  cases readings with
  | ok statements => rw [Statement.map_tidied_of_alike statements written]

namespace Layout

variable {source : Text}

theorem commentsHarmless_of_noReturn (noReturn : Text.carriageReturn ∉ source) :
    CommentsHarmless source := by
  rintro segment member content rfl
  apply Segment.Harmless.plain
  intro inside
  have subset := (Segment.partition_split source.glyphs).subset _ member
  rw [← Text.join_glyphs source] at noReturn
  exact char_return_not_mem noReturn (subset (List.mem_append_right _ inside))

theorem words_format (noReturn : Text.carriageReturn ∉ source) (verified : verify source = none) :
    Scan.words (Segment.split (format source).glyphs) =
      (Scan.words (Segment.split source.glyphs)).map Token.tidied := by
  have closed := Scan.closed_of_faultless (verify_eq_none_iff.mp verified).1
  refine Segment.words_tidied_of_respaced (respaced_glyphs_format source) ?_ ?_ ?_
  · intro segment member
    rcases closed segment member with ⟨stringCloses, commentCloses⟩
    exact ⟨stringCloses, commentCloses, commentsHarmless_of_noReturn noReturn segment member⟩
  · rw [Text.join_glyphs]
    exact noReturn
  · rw [Text.join_glyphs]
    exact neat_format source

/-- Layout does one thing to the tokens of a source without carriage returns and without faults:
inside string tokens, it removes the spaces and tabs right before a line feed. The laid out source
has no lexical fault, all its tokens lie on the lines they lay on, except for the end, and it is
read as the same statements apart from these strings, however deep statements may be nested. -/
theorem format_tidies_tokens (source : Text) (noReturn : Text.carriageReturn ∉ source)
    (verified : verify source = none) :
    (Scan.ofSource (format source)).faults = [] ∧
      (∃ words line otherLine,
        (Scan.ofSource source).tokens = words ++ [Scan.ending line] ∧
        (Scan.ofSource (format source)).tokens =
          words.map Token.tidied ++ [Scan.ending otherLine]) ∧
      (∃ statements, Program.ofTokens defaultDepth (Scan.ofSource source).tokens = .ok statements) ∧
      ∀ limit statements, Program.ofTokens limit (Scan.ofSource source).tokens = .ok statements →
        Program.ofTokens limit (Scan.ofSource (format source)).tokens =
          .ok (statements.map Statement.tidied) := by
  have tokens : (Scan.ofSource source).tokens = _ := Scan.tokens_ofSegments _
  have laidOut : (Scan.ofSource (format source)).tokens = _ := Scan.tokens_ofSegments _
  rw [words_format noReturn verified] at laidOut
  have stillVerified := verify_format verified (commentsHarmless_of_noReturn noReturn)
  refine ⟨(verify_eq_none_iff.mp stillVerified).1, ⟨_, _, _, tokens, laidOut⟩,
    (verify_eq_none_iff.mp verified).2, ?_⟩
  intro limit statements isRead
  have tidied := Program.ofTokens_tidied Scan.written_of_mem_tokens (Scan.eof_mem_kinds _) isRead
  rw [tokens, List.map_append] at tidied
  rw [laidOut]
  refine Program.ofTokens_append_eof ?_ rfl rfl tidied
  intro token member
  rcases List.mem_map.mp member with ⟨word, isWord, rfl⟩
  rw [Token.kind_tidied]
  exact Scan.kind_ne_eof_of_mem_words word isWord

/-- A source with a comment and a string of two lines, where all lines end in blanks. -/
def untidy : Text :=
  text "/* a \n */ print \t\n  \"b \t\n c \"; \n!true;// d \n\n"

theorem format_tidies_tokens_untidy :
    (Text.carriageReturn ∉ untidy ∧ verify untidy = none) ∧
      (Scan.ofSource (format untidy)).faults = [] ∧
      (∃ words line otherLine,
        (Scan.ofSource untidy).tokens = words ++ [Scan.ending line] ∧
        (Scan.ofSource (format untidy)).tokens =
          words.map Token.tidied ++ [Scan.ending otherLine]) ∧
      Program.ofTokens defaultDepth (Scan.ofSource (format untidy)).tokens =
        .ok [.print (.literal (some (.string (text "b\n c "))) 4) 2,
          .expression (.unary { kind := .bang, lexeme := text "!", line := 5 }
            (.literal (some (.bool true)) 5))] := by
  have verified : verify untidy = none := by decide +kernel
  have noReturn : Text.carriageReturn ∉ untidy := by decide +kernel
  rcases format_tidies_tokens untidy noReturn verified with ⟨faultless, tokens, -, read⟩
  refine ⟨⟨noReturn, verified⟩, faultless, tokens, ?_⟩
  exact read defaultDepth
    [.print (.literal (some (.string (text "b \t\n c "))) 4) 2,
      .expression (.unary { kind := .bang, lexeme := text "!", line := 5 }
        (.literal (some (.bool true)) 5))]
    (by decide +kernel)

end Layout

end Scriptlet
