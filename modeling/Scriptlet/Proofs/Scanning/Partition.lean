import Scriptlet.Proofs.Scanning.Extents

/-!
# A scan is a partition of its source

Scanning loses nothing: the segments of a source are its glyphs cut from left to right, each segment
is one that the lexicon allows at its place, and the tokens and the faults of the scan are those of
the segments, in order. `Scan.ofSource_isPartition` says all of it together.
-/

namespace Scriptlet

namespace Segment

/-- The kind and the bytes of a segment that is a token. -/
def lexeme? (segment : Segment) : Option (TokenKind × Text) :=
  match segment.role with
  | .token kind => some (kind, segment.bytes)
  | _ => none

/-- What is wrong with a segment, if anything. -/
def cause? (segment : Segment) : Option Cause :=
  match segment with
  | ⟨.unexpected, [glyph]⟩ => some (.unexpectedCharacter glyph.scalar)
  | ⟨.openString, _⟩ => some .unterminatedString
  | ⟨.openComment, _⟩ => some .unterminatedComment
  | _ => none

theorem partition_split (glyphs : List Glyph) : Partition glyphs (split glyphs) := by
  fun_induction split glyphs with
  | case1 => exact .nil
  | case2 first rest role length reaches ih =>
      have stands := stands_extent first rest
      rw [reaches] at stands
      have parts := Partition.cons stands ih
      simp only [List.cons_append, List.take_append_drop] at parts
      exact parts

theorem Partition.bytes_eq {glyphs : List Glyph} {segments : List Segment}
    (partition : Partition glyphs segments) : segments.flatMap bytes = Glyph.join glyphs := by
  induction partition with
  | nil => rfl
  | cons stands tail ih =>
      rw [List.flatMap_cons, ih]
      simp only [bytes, Glyph.join, List.flatMap_append]

theorem Partition.exists_stands {glyphs : List Glyph} {segments : List Segment}
    (partition : Partition glyphs segments) :
    ∀ segment ∈ segments, ∃ following, segment.Stands following := by
  induction partition with
  | nil => simp
  | cons stands tail ih =>
      intro segment member
      rcases List.mem_cons.mp member with rfl | later
      · exact ⟨_, stands⟩
      · exact ih segment later

theorem Stands.kind_ne_eof {segment : Segment} {following : List Glyph} {kind : TokenKind}
    (stands : segment.Stands following) (isToken : segment.role = .token kind) : kind ≠ .eof := by
  rintro rfl
  cases stands with
  | token isLexeme =>
      cases isToken
      generalize same : TokenKind.eof = kind at isLexeme
      cases isLexeme with
      | mark known =>
          have noEnd : ∀ entry ∈ marks, TokenKind.eof ≠ entry.1 := by decide
          exact noEnd _ known same
      | _ => cases same
  | _ => cases isToken

theorem Stands.cause_fault? {segment : Segment} {following : List Glyph}
    (stands : segment.Stands following) (line : Nat) :
    (segment.fault? line).map Fault.cause = segment.cause? := by
  cases stands <;> rfl

theorem lexeme_token? (segment : Segment) (line : Nat) :
    (segment.token? line).map (fun token => (token.kind, token.lexeme)) = segment.lexeme? := by
  rcases segment with ⟨role, glyphs⟩
  cases role <;> rfl

theorem role_of_lexeme? {segment : Segment} {kind : TokenKind} {lexeme : Text}
    (found : segment.lexeme? = some (kind, lexeme)) : segment.role = .token kind := by
  rcases segment with ⟨role, glyphs⟩
  cases role <;> cases found
  rfl

theorem map_filterMap_numbered {α β : Type} {read : Nat → Segment → Option α} {forget : α → β}
    {plain : Segment → Option β} {segments : List Segment} {line : Nat}
    (agrees : ∀ segment ∈ segments, ∀ line, (read line segment).map forget = plain segment) :
    ((numbered line segments).filterMap fun (line, segment) => read line segment).map forget =
      segments.filterMap plain := by
  induction segments generalizing line with
  | nil => rfl
  | cons segment rest ih =>
      have here := agrees segment (.head _) (line + segment.newlines)
      have later := @ih (line + segment.newlines) fun other member => agrees other (.tail _ member)
      rw [numbered, List.filterMap_cons, List.filterMap_cons, ← here, ← later]
      cases found : read (line + segment.newlines) segment <;> simp [found]

end Segment

namespace Scan

/-- Scanning is a lossless partition by longest match: the glyphs are cut from the bytes of the
source and the segments from the glyphs, without gap or overlap; the tokens before the end are the
token segments in order, with their bytes; there is one fault for each faulty segment, in order. -/
theorem ofSource_isPartition (source : Text) :
    Text.CutInto source source.glyphs ∧
      Segment.Partition source.glyphs (Segment.split source.glyphs) ∧
      (Segment.split source.glyphs).flatMap Segment.bytes = source ∧
      (∃ tokens line,
        (ofSource source).tokens =
          tokens ++ [{ kind := .eof, lexeme := [], literal := none, line }] ∧
        (∀ token ∈ tokens, token.kind ≠ .eof) ∧
        tokens.map (fun token => (token.kind, token.lexeme)) =
          (Segment.split source.glyphs).filterMap Segment.lexeme?) ∧
      (ofSource source).faults.map Fault.cause =
        (Segment.split source.glyphs).filterMap Segment.cause? := by
  have partition := Segment.partition_split source.glyphs
  have stands := partition.exists_stands
  have lexemes := @Segment.map_filterMap_numbered _ _ _ _ _ (Segment.split source.glyphs) 1
    fun segment _ line => segment.lexeme_token? line
  refine ⟨Text.cutInto_glyphs source, partition, ?_, ⟨_, _, rfl, ?_, lexemes⟩, ?_⟩
  · rw [partition.bytes_eq, Text.join_glyphs]
  · intro token member
    have isLexeme := List.mem_map_of_mem member (f := fun token => (token.kind, token.lexeme))
    rw [lexemes] at isLexeme
    rcases List.mem_filterMap.mp isLexeme with ⟨segment, inSource, found⟩
    rcases stands segment inSource with ⟨following, standing⟩
    exact standing.kind_ne_eof (Segment.role_of_lexeme? found)
  · refine Segment.map_filterMap_numbered fun segment member line => ?_
    rcases stands segment member with ⟨following, standing⟩
    exact standing.cause_fault? line

end Scan

end Scriptlet
