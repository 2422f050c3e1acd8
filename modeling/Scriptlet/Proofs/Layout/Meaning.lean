import Scriptlet.Proofs.Layout.Segments
import Scriptlet.Proofs.Likeness.Running
import Scriptlet.Proofs.Scanning.Partition

/-!
# Layout keeps the meaning of a program

Layout looks at raw lines. It therefore also drops blanks at the ends of lines inside strings, turns
the carriage returns in them into line feeds, and cuts a line comment in two at a carriage return.
Those are the only ways in which it can change what a source means: `Layout.StringsSettled` and
`Layout.CommentsHarmless` rule them out, and then the laid out source reads without a fault, prints
the same and fails alike. That the source still reads without a fault needs the second condition
only.
-/

namespace Scriptlet

open Glyph

/-- Tokens correspond that are of one kind and both have a value, or both have none. -/
def Likeness.ofKinds : Likeness where
  token one other := one.kind = other.kind ∧ one.literal.isSome = other.literal.isSome
  line _ _ := True
  value _ _ := True
  kind_eq same := same.1
  line_of_token _ := trivial
  literal_of_token {one other} same := by
    rcases one with ⟨kind, lexeme, _ | literal, line⟩ <;>
      rcases other with ⟨otherKind, otherLexeme, _ | otherLiteral, otherLine⟩
    · exact .none
    · cases same.2
    · cases same.2
    · exact .some trivial
  value_of_word _ _ := trivial

namespace Segment

theorem unnumbered_token? (segment : Segment) (line : Nat) :
    (segment.token? line).map Token.unnumbered = segment.token? 0 := by
  rcases segment with ⟨role, glyphs⟩
  cases role <;> rfl

theorem unnumbered_tokens (segments : List Segment) (line : Nat) :
    ((numbered line segments).filterMap fun (line, segment) => segment.token? line).map
        Token.unnumbered = (segments.filter matters).filterMap (token? 0) := by
  rw [map_filterMap_numbered fun segment _ line => segment.unnumbered_token? line,
    List.filterMap_filter]
  apply List.filterMap_congr
  intro segment _
  rcases segment with ⟨role, glyphs⟩
  cases role <;> rfl

theorem fault?_eq_none_iff {segment : Segment} {line : Nat} :
    segment.fault? line = none ↔ (segment.matters → ∃ kind, segment.role = .token kind) := by
  rcases segment with ⟨role, glyphs⟩
  cases role <;> simp [fault?, matters]

theorem Alike.ofKinds_token? {segment other : Segment} (alike : segment.Alike other) :
    Option.Rel Likeness.ofKinds.token (segment.token? 0) (other.token? 0) := by
  rcases segment with ⟨role, glyphs⟩
  rcases other with ⟨otherRole, otherGlyphs⟩
  rcases alike with ⟨roles, -, same⟩
  dsimp only at roles same
  subst roles
  cases role with
  | token kind =>
      refine .some ⟨rfl, ?_⟩
      by_cases isString : kind = .string
      · subst isString
        rfl
      · rw [same (by simpa using isString)]
  | _ => exact .none

theorem tokens_of_forall₂_alike {segments others : List Segment}
    (alike : List.Forall₂ Alike segments others)
    (areTokens : ∀ segment ∈ segments, ∃ kind, segment.role = .token kind) :
    ∀ segment ∈ others, ∃ kind, segment.role = .token kind := by
  induction alike with
  | nil => simp
  | cons head tail ih =>
      rw [List.forall_mem_cons] at areTokens ⊢
      rcases areTokens with ⟨⟨kind, isToken⟩, later⟩
      exact ⟨⟨kind, head.roles ▸ isToken⟩, ih later⟩

theorem forall₂_token? {segments others : List Segment}
    (alike : List.Forall₂ Alike segments others) :
    List.Forall₂ Likeness.ofKinds.token (segments.filterMap (token? 0))
      (others.filterMap (token? 0)) := by
  induction alike with
  | nil => exact .nil
  | cons head tail ih =>
      rename_i segment other rest otherRest
      have tokens := head.ofKinds_token?
      rw [List.filterMap_cons, List.filterMap_cons]
      generalize segment.token? 0 = found, other.token? 0 = otherFound at tokens
      cases tokens with
      | none => exact ih
      | some same => exact .cons same ih

end Segment

namespace Scan

theorem unnumbered_tokens (segments : List Segment) :
    (ofSegments segments).tokens.map Token.unnumbered =
      (segments.filter Segment.matters).filterMap (Segment.token? 0) ++ [ending 0] := by
  simp only [ofSegments, List.map_append, Segment.unnumbered_tokens]
  rfl

theorem eof_mem_kinds (segments : List Segment) :
    .eof ∈ (ofSegments segments).tokens.map Token.kind := by
  simp [ofSegments, ending]

/-- A scan is without faults if every segment that matters is a token. -/
theorem faults_eq_nil_iff {segments : List Segment} :
    (ofSegments segments).faults = [] ↔
      ∀ segment ∈ segments.filter Segment.matters, ∃ kind, segment.role = .token kind := by
  have erased := @Segment.map_filterMap_numbered _ Unit Segment.fault? (fun _ => ())
    (fun segment => (segment.fault? 0).map fun _ => ()) segments 1 (by
      intro segment _ line
      rcases segment with ⟨role, glyphs⟩
      cases role <;> rfl)
  rw [← List.map_eq_nil_iff (f := fun _ => ())]
  simp only [ofSegments, erased, List.filterMap_eq_nil_iff, Option.map_eq_none_iff,
    Segment.fault?_eq_none_iff, List.mem_filter, and_imp]

theorem closed_of_faultless {segments : List Segment}
    (faultless : (ofSegments segments).faults = []) :
    ∀ segment ∈ segments, segment.role ≠ .openString ∧ segment.role ≠ .openComment := by
  intro segment member
  have tokenOfMatters (matters : segment.matters) : ∃ kind, segment.role = .token kind :=
    faults_eq_nil_iff.mp faultless segment (List.mem_filter.mpr ⟨member, matters⟩)
  constructor
  · intro role
    rcases tokenOfMatters (by simp [Segment.matters, role]) with ⟨kind, isToken⟩
    rw [role] at isToken
    cases isToken
  · intro role
    rcases tokenOfMatters (by simp [Segment.matters, role]) with ⟨kind, isToken⟩
    rw [role] at isToken
    cases isToken

theorem tokens_ofKinds {segments others : List Segment}
    (alike : List.Forall₂ Segment.Alike (segments.filter Segment.matters)
      (others.filter Segment.matters)) :
    List.Forall₂ Likeness.ofKinds.token (ofSegments segments).tokens
      (ofSegments others).tokens := by
  have endings : List.Forall₂ Likeness.ofKinds.token [ending 0] [ending 0] :=
    .cons ⟨rfl, rfl⟩ .nil
  have tokens := List.rel_append (Segment.forall₂_token? alike) endings
  dsimp only at tokens
  rw [← unnumbered_tokens, ← unnumbered_tokens, List.forall₂_map_left_iff,
    List.forall₂_map_right_iff] at tokens
  exact tokens

theorem tokens_upToLines {segments others : List Segment}
    (same : segments.filter Segment.matters = others.filter Segment.matters) :
    List.Forall₂ Likeness.upToLines.token (ofSegments segments).tokens
      (ofSegments others).tokens := by
  have equal : List.Forall₂ Eq ((ofSegments segments).tokens.map Token.unnumbered)
      ((ofSegments others).tokens.map Token.unnumbered) := by
    rw [unnumbered_tokens, unnumbered_tokens, same, List.forall₂_eq_eq_eq]
  rw [List.forall₂_map_left_iff, List.forall₂_map_right_iff] at equal
  exact equal.imp fun _ _ => Likeness.upToLines_iff.mpr

end Scan

theorem Engine.tokens_of_faultless {source : Text} (scanned : (Scan.ofSource source).faults = []) :
    tokens source = .ok (Scan.ofSource source).tokens := by
  simp only [tokens, scanned, Failure.ofFaults?]

/-- No carriage return, and no space or tab right before a line feed. -/
def Settled (glyphs : List Glyph) : Prop :=
  char '\r' ∉ glyphs ∧ ∀ gap ∈ [' ', '\t'], ¬[char gap, char '\n'] <:+: glyphs

theorem Settled.tail {first : Glyph} {rest : List Glyph} (settled : Settled (first :: rest)) :
    Settled rest := by
  refine ⟨fun member => settled.1 (.tail _ member), ?_⟩
  intro gap isGap inside
  exact settled.2 gap isGap (List.infix_cons inside)

theorem AtLineEnd.not_settled {character : Char} {rest : List Glyph} {pivot : Glyph}
    (lineEnds : AtLineEnd Glyph.char (rest ++ [pivot])) (visible : ¬Blank Glyph.char pivot)
    (isGap : character ∈ [' ', '\t']) : ¬Settled (char character :: (rest ++ [pivot])) := by
  generalize whole : rest ++ [pivot] = glyphs at lineEnds
  induction lineEnds generalizing character rest with
  | nil => simp at whole
  | lineFeed later =>
      intro settled
      exact settled.2 character isGap (List.IsPrefix.isInfix ⟨later, rfl⟩)
  | carriageReturn later =>
      intro settled
      exact settled.1 (by simp)
  | gap isNextGap tail ih =>
      intro settled
      cases rest with
      | nil =>
          cases whole
          exact visible (blank_of_gap isNextGap)
      | cons head rest =>
          cases whole
          exact ih isNextGap rfl settled.tail

/-- What is settled up to a glyph that is not blank is kept up to there. -/
theorem Respaced.eq_of_settled {pivot : Glyph} (visible : ¬Blank Glyph.char pivot)
    {front otherFront : List Glyph}
    (respaced : Respaced Glyph.char (front ++ [pivot]) (otherFront ++ [pivot]))
    (settled : Settled (front ++ [pivot])) : front = otherFront := by
  generalize whole : front ++ [pivot] = source at respaced
  generalize otherWhole : otherFront ++ [pivot] = other at respaced
  induction respaced generalizing front otherFront with
  | keep noReturn tail ih =>
      cases front with
      | nil =>
          cases whole
          cases otherFront with
          | nil => rfl
          | cons head otherFront =>
              cases otherWhole
              exact absurd (tail.nil_left pivot (by simp)) visible
      | cons head front =>
          cases whole
          cases otherFront with
          | nil =>
              cases otherWhole
              exact absurd (tail.blank_of_blank (by simp) pivot (by simp)) visible
          | cons otherHead otherFront =>
              cases otherWhole
              rw [ih settled.tail rfl rfl]
  | trim isGap lineEnds tail ih =>
      cases front with
      | nil =>
          cases whole
          exact absurd (blank_of_gap isGap) visible
      | cons head front =>
          cases whole
          exact absurd settled (lineEnds.not_settled visible isGap)
  | joined tail ih =>
      rw [whole] at settled
      exact absurd (.head _) settled.1
  | turned tail ih =>
      rw [whole] at settled
      exact absurd (.head _) settled.1
  | ending blank otherBlank =>
      rw [← whole] at blank
      exact absurd (blank pivot (by simp)) visible

namespace Segment

theorem Stands.exists_of_string {segment : Segment} {following : List Glyph}
    (stands : segment.Stands following) (isString : segment.role = .token .string) :
    ∃ content, segment.glyphs = char '"' :: (content ++ [char '"']) := by
  cases stands with
  | token isLexeme =>
      cases isString
      generalize same : TokenKind.string = kind at isLexeme
      cases isLexeme with
      | string unquoted => exact ⟨_, rfl⟩
      | mark known =>
          have noString : ∀ entry ∈ marks, TokenKind.string ≠ entry.1 := by decide
          exact absurd same (noString _ known)
      | _ => cases same
  | _ => cases isString

/-- Segments that are alike are both strings, or they are the same. -/
theorem Alike.eq_or_quoted {segment other : Segment} (alike : segment.Alike other)
    (stands : ∃ following, segment.Stands following)
    (otherStands : ∃ following, other.Stands following) :
    (segment = other ∧ segment.role ≠ .token .string) ∨ ∃ content otherContent,
      segment = ⟨.token .string, char '"' :: (content ++ [char '"'])⟩ ∧
      other = ⟨.token .string, char '"' :: (otherContent ++ [char '"'])⟩ := by
  rcases segment with ⟨role, glyphs⟩
  rcases other with ⟨otherRole, otherGlyphs⟩
  rcases alike with ⟨roles, -, same⟩
  rcases stands with ⟨following, stands⟩
  rcases otherStands with ⟨otherFollowing, otherStands⟩
  dsimp only at roles same
  subst roles
  by_cases isString : role = .token .string
  · rcases stands.exists_of_string isString with ⟨content, quoted⟩
    rcases otherStands.exists_of_string isString with ⟨otherContent, otherQuoted⟩
    dsimp only at quoted otherQuoted
    rw [isString, quoted, otherQuoted]
    exact .inr ⟨content, otherContent, rfl, rfl⟩
  · rw [same isString]
    exact .inl ⟨rfl, isString⟩

theorem Alike.eq_of_settled {segment other : Segment} (alike : segment.Alike other)
    (settled : segment.role = .token .string → Settled segment.glyphs)
    (stands : ∃ following, segment.Stands following)
    (otherStands : ∃ following, other.Stands following) : segment = other := by
  rcases alike.eq_or_quoted stands otherStands with ⟨same, -⟩ | ⟨content, otherContent, rfl, rfl⟩
  · exact same
  · have visible : ¬Blank Glyph.char (char '"') := not_blank_char (by decide)
    have same := @Respaced.eq_of_settled _ visible (char '"' :: content) (char '"' :: otherContent)
      alike.respaced (settled rfl)
    rw [(List.cons.inj same).2]

theorem eq_of_forall₂_alike {segments others : List Segment}
    (alike : List.Forall₂ Alike segments others)
    (settled : ∀ segment ∈ segments, segment.role = .token .string → Settled segment.glyphs)
    (stands : ∀ segment ∈ segments, ∃ following, segment.Stands following)
    (otherStands : ∀ segment ∈ others, ∃ following, segment.Stands following) :
    segments = others := by
  induction alike with
  | nil => rfl
  | cons head tail ih =>
      rw [head.eq_of_settled (settled _ (.head _)) (stands _ (.head _)) (otherStands _ (.head _)),
        ih (fun segment member => settled segment (.tail _ member))
          (fun segment member => stands segment (.tail _ member))
          (fun segment member => otherStands segment (.tail _ member))]

end Segment

namespace Layout

/-- Behind a carriage return, line comments hold nothing but blanks and comments. -/
def CommentsHarmless (source : Text) : Prop :=
  ∀ segment ∈ Segment.split source.glyphs, ∀ content,
    segment = ⟨.comment, spell "//" ++ content⟩ → Segment.Harmless content

/-- No string holds a carriage return, or a space or tab right before a line feed. -/
def StringsSettled (source : Text) : Prop :=
  ∀ segment ∈ Segment.split source.glyphs, segment.role = .token .string → Settled segment.glyphs

theorem verify_eq_none_iff {source : Text} :
    verify source = none ↔ (Scan.ofSource source).faults = [] ∧
      ∃ read, Program.ofTokens defaultDepth (Scan.ofSource source).tokens = .ok read := by
  simp only [verify]
  split
  · rename_i fault last
    have faulty : (Scan.ofSource source).faults ≠ [] := by
      intro noFaults
      simp [noFaults] at last
    simp [faulty]
  · rename_i noLast
    rw [List.getLast?_eq_none_iff] at noLast
    cases Program.ofTokens defaultDepth (Scan.ofSource source).tokens <;> simp [noLast]

theorem tokens_of_verified {source : Text} (verified : verify source = none) :
    Engine.tokens source = .ok (Scan.ofSource source).tokens :=
  Engine.tokens_of_faultless (verify_eq_none_iff.mp verified).1

/-- Layout keeps the segments that matter, apart from the blanks inside strings. -/
theorem correspond_format {source : Text} (verified : verify source = none)
    (comments : CommentsHarmless source) :
    Segment.Correspond source.glyphs (format source).glyphs := by
  refine Segment.correspond_of_respaced (respaced_glyphs_format source) ?_
  intro segment member
  rcases Scan.closed_of_faultless (verify_eq_none_iff.mp verified).1 segment member with
    ⟨stringCloses, commentCloses⟩
  exact ⟨stringCloses, commentCloses, comments segment member⟩

theorem verify_format {source : Text} (verified : verify source = none)
    (comments : CommentsHarmless source) : verify (format source) = none := by
  have correspond := correspond_format verified comments
  rcases verify_eq_none_iff.mp verified with ⟨faultless, read, parsed⟩
  refine verify_eq_none_iff.mpr ⟨?_, ?_⟩
  · apply Scan.faults_eq_nil_iff.mpr
    exact Segment.tokens_of_forall₂_alike correspond (Scan.faults_eq_nil_iff.mp faultless)
  · have readings := Program.ofTokens_alike defaultDepth (Scan.tokens_ofKinds correspond)
      (Scan.eof_mem_kinds _)
    change Concur _ _ (Program.ofTokens defaultDepth (Scan.ofSource source).tokens)
      (Program.ofTokens defaultDepth (Scan.ofSource (format source)).tokens) at readings
    rw [parsed] at readings
    generalize Program.ofTokens defaultDepth (Scan.ofSource (format source)).tokens = result
      at readings
    cases readings with
    | ok others => exact ⟨_, rfl⟩

/-- Where no string is unsettled, the tokens differ in their lines only. -/
theorem tokens_format {source : Text} (verified : verify source = none)
    (comments : CommentsHarmless source) (strings : StringsSettled source) :
    List.Forall₂ Likeness.upToLines.token (Scan.ofSource source).tokens
      (Scan.ofSource (format source)).tokens := by
  apply Scan.tokens_upToLines
  have stands := (Segment.partition_split source.glyphs).exists_stands
  have otherStands := (Segment.partition_split (format source).glyphs).exists_stands
  refine Segment.eq_of_forall₂_alike (correspond_format verified comments) ?_ ?_ ?_
  · intro segment member
    exact strings segment (List.mem_of_mem_filter member)
  · intro segment member
    exact stands segment (List.mem_of_mem_filter member)
  · intro segment member
    exact otherStands segment (List.mem_of_mem_filter member)

/-- Layout keeps the meaning of a program without faults. If what line comments hold behind a
carriage return is again blanks and comments, the laid out source has no faults either; if moreover
no string holds a carriage return, or a space or tab right before a line feed, every engine prints
the same and fails in the same way up to line numbers. -/
theorem format_keeps_meaning (source : Text) (verified : verify source = none)
    (comments : CommentsHarmless source) :
    verify (format source) = none ∧
      (StringsSettled source → ∀ (engine : Engine) (sink : Sink),
        (engine.run (format source) sink).1 = (engine.run source sink).1 ∧
          (engine.run (format source) sink).2.map Failure.unnumbered =
            (engine.run source sink).2.map Failure.unnumbered) := by
  have stillVerified := verify_format verified comments
  refine ⟨stillVerified, ?_⟩
  intro strings engine sink
  have runs := engine.run_alike Likeness.faithful_upToLines (tokens_of_verified verified)
    (tokens_of_verified stillVerified) (tokens_format verified comments strings)
    (Scan.eof_mem_kinds _) sink
  refine ⟨runs.1.symm, ?_⟩
  have failures := runs.2
  generalize (engine.run source sink).2 = failed,
    (engine.run (format source) sink).2 = otherFailed at failures
  cases failures with
  | none => rfl
  | some alike => rw [Option.map_some, Option.map_some, Failure.unnumbered_eq_of_alike alike]

/-- A source with a carriage return in a comment, a string of two lines and trailing blanks, which
fails at runtime. -/
def commented : Text :=
  text "// a\r// b\nprint \"c\nd\"; \r\rprint \"c\" + 1;\t"

theorem commentsHarmless_commented : CommentsHarmless commented := by
  have whole : ∀ segment ∈ Segment.split commented.glyphs, segment.role = .comment →
      segment.glyphs = spell "//" ++ (spell " a" ++ char '\r' :: spell "// b") := by
    decide +kernel
  have part : ∀ segment ∈ Segment.split (spell "// b"), segment.role = .comment →
      segment.glyphs = spell "//" ++ spell " b" := by
    decide +kernel
  rintro segment member content rfl
  rw [List.append_cancel_left (whole _ member rfl)]
  refine .turned (by decide) (by decide +kernel) ?_
  rintro segment member content rfl
  rw [List.append_cancel_left (part _ member rfl)]
  exact .plain (by decide)

theorem stringsSettled_commented : StringsSettled commented := by
  have strings : ∀ segment ∈ Segment.split commented.glyphs, segment.role = .token .string →
      segment.glyphs = spell "\"c\nd\"" ∨ segment.glyphs = spell "\"c\"" := by
    decide +kernel
  intro segment member isString
  rcases strings segment member isString with same | same
  all_goals
    rw [same]
    refine ⟨by decide, ?_⟩
    intro gap isGap
    fin_cases isGap <;> decide

theorem format_keeps_meaning_commented :
    (verify commented = none ∧ CommentsHarmless commented ∧ StringsSettled commented) ∧
      verify (format commented) = none ∧
      (Engine.run {} (format commented) {}).1 = (Engine.run {} commented {}).1 ∧
      (Engine.run {} (format commented) {}).2.map Failure.unnumbered =
        (Engine.run {} commented {}).2.map Failure.unnumbered := by
  have verified : verify commented = none := by decide +kernel
  have kept := format_keeps_meaning commented verified commentsHarmless_commented
  exact ⟨⟨verified, commentsHarmless_commented, stringsSettled_commented⟩, kept.1,
    kept.2 stringsSettled_commented {} {}⟩

/-- Without the two conditions the meaning can change: a string loses a space, a string gets a line
feed for its carriage return, and a comment gives up the code behind a carriage return. -/
theorem format_changes_meaning :
    (verify (text "print \"a \nb\";") = none ∧
      (Engine.run {} (format (text "print \"a \nb\";")) {}).1.output = text "a\nb\n" ∧
      (Engine.run {} (text "print \"a \nb\";") {}).1.output = text "a \nb\n") ∧
    (verify (text "print \"a\rb\";") = none ∧
      (Engine.run {} (format (text "print \"a\rb\";")) {}).1.output = text "a\nb\n" ∧
      (Engine.run {} (text "print \"a\rb\";") {}).1.output = text "a\rb\n") ∧
    (verify (text "// a\rprint;") = none ∧ verify (format (text "// a\rprint;")) ≠ none) := by
  decide +kernel

end Layout

end Scriptlet
