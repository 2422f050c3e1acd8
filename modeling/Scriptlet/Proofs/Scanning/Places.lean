import Scriptlet.Proofs.Scanning.Written

/-!
# Where tokens and faults lie

Every token and every lexical fault of a scan comes from one segment of its source, and the segments
before that one are the part of the source before it. Counting the line feeds of that part gives the
line. A token lies on the line it ends on; an unexpected character is never a line feed, and an
unterminated string or comment reaches to the end of the source, so their lines can be told from
what stands before them and from the whole source. Since each segment adds its own line feeds to
those before it, lines never decrease.
-/

namespace Scriptlet

open Glyph

theorem Text.newlines_append (front back : Text) :
    Text.newlines (front ++ back) = front.newlines + back.newlines :=
  List.count_append

theorem Glyph.newlines_bytes {source : Text} {glyph : Glyph} (inside : glyph ∈ source.glyphs) :
    Text.newlines glyph.bytes = if glyph.is '\n' then 1 else 0 := by
  split
  · rename_i isNewline
    rw [Glyph.is_iff (by decide)] at isNewline
    subst isNewline
    rfl
  · rename_i noNewline
    apply List.count_eq_zero.mpr
    intro member
    rw [eq_char_of_mem_bytes inside (by decide) member] at noNewline
    exact noNewline (by decide)

theorem Glyph.newlines_join {source : Text} {glyphs : List Glyph}
    (inside : glyphs ⊆ source.glyphs) :
    Text.newlines (Glyph.join glyphs) = glyphs.countP (Glyph.is '\n') := by
  induction glyphs with
  | nil => rfl
  | cons glyph rest ih =>
      rw [List.cons_subset] at inside
      have parts : Glyph.join (glyph :: rest) = glyph.bytes ++ Glyph.join rest :=
        List.flatMap_cons
      rw [parts, Text.newlines_append, newlines_bytes inside.1, ih inside.2, List.countP_cons,
        Nat.add_comm]

namespace Segment

theorem newlines_flatMap_bytes {source : Text} {segments : List Segment}
    (inside : ∀ segment ∈ segments, segment.glyphs ⊆ source.glyphs) :
    Text.newlines (segments.flatMap bytes) = total newlines segments := by
  induction segments with
  | nil => rfl
  | cons segment rest ih =>
      rw [List.forall_mem_cons] at inside
      rw [List.flatMap_cons, Text.newlines_append, ih inside.2, total_cons, bytes,
        Glyph.newlines_join inside.1, newlines]

/-- The segment that gives the item at a place among all items that are found in segments, with the
segments before it and behind it. -/
structure IsAt {α : Type} (find : Segment → Option α) (segments : List Segment) (place : Nat)
    (item : α) (front : List Segment) (segment : Segment) (back : List Segment) : Prop where
  parts : segments = front ++ segment :: back
  place : (front.filterMap find).length = place
  found : find segment = some item

theorem exists_isAt_of_getElem? {α β : Type} {read : Nat → Segment → Option α} {forget : α → β}
    {plain : Segment → Option β} {segments : List Segment} {line place : Nat} {item : α}
    (agrees : ∀ segment ∈ segments, ∀ line, (read line segment).map forget = plain segment)
    (found : ((numbered line segments).filterMap fun (own, segment) => read own segment)[place]? =
      some item) :
    ∃ front segment back, IsAt plain segments place (forget item) front segment back ∧
      read (line + total newlines (front ++ [segment])) segment = some item := by
  induction segments generalizing line place with
  | nil => simp [numbered] at found
  | cons first rest ih =>
      have agreesHere := agrees first (.head _) (line + first.newlines)
      have agreesLater := fun segment member => agrees segment (.tail first member)
      -- Whatever the first segment gives, the item of a later one has the first one before it.
      have later {other : Nat} (number : ([first].filterMap plain).length + other = place)
          (foundLater : ((numbered (line + first.newlines) rest).filterMap
            fun (own, segment) => read own segment)[other]? = some item) :
          ∃ front segment back, IsAt plain (first :: rest) place (forget item) front segment back ∧
            read (line + total newlines (front ++ [segment])) segment = some item := by
        rcases ih agreesLater foundLater with ⟨front, segment, back, isAt, isRead⟩
        refine ⟨first :: front, segment, back, ⟨?_, ?_, isAt.found⟩, ?_⟩
        · rw [isAt.parts, List.cons_append]
        · rw [← number, ← isAt.place, ← List.length_append, ← List.filterMap_append]
          rfl
        · rwa [List.cons_append, total_cons, ← Nat.add_assoc]
      cases here : read (line + first.newlines) first with
      | none =>
          simp only [numbered, List.filterMap_cons, here] at found
          rw [here] at agreesHere
          exact later (by simp [← agreesHere]) found
      | some given =>
          simp only [numbered, List.filterMap_cons, here] at found
          rw [here] at agreesHere
          cases place with
          | succ other => exact later (by simp [← agreesHere, Nat.add_comm]) found
          | zero =>
              cases found
              refine ⟨[], first, rest, ⟨rfl, rfl, agreesHere.symm⟩, ?_⟩
              simpa using here

/-- What stands behind a segment is cut into the segments behind it. -/
theorem Partition.of_append {glyphs : List Glyph} {front back : List Segment} {segment : Segment}
    (partition : Partition glyphs (front ++ segment :: back)) :
    ∃ following, segment.Stands following ∧ Partition following back := by
  induction front generalizing glyphs with
  | nil =>
      cases partition with
      | cons stands tail => exact ⟨_, stands, tail⟩
  | cons first rest ih =>
      cases partition with
      | cons stands tail => exact ih tail

theorem bounds_of_mem_numbered {line own : Nat} {segment : Segment} {segments : List Segment}
    (member : (own, segment) ∈ numbered line segments) :
    line ≤ own ∧ own ≤ line + total newlines segments := by
  induction segments generalizing line with
  | nil => cases member
  | cons first rest ih =>
      rw [total_cons]
      rcases List.mem_cons.mp member with here | later
      · cases here
        omega
      · have bounds := ih later
        omega

theorem pairwise_numbered (line : Nat) (segments : List Segment) :
    (numbered line segments).Pairwise fun one other => one.1 ≤ other.1 := by
  induction segments generalizing line with
  | nil => exact .nil
  | cons segment rest ih =>
      refine .cons ?_ (ih (line + segment.newlines))
      rintro ⟨own, other⟩ member
      exact (bounds_of_mem_numbered member).1

theorem pairwise_filterMap_numbered {α : Type} {read : Nat → Segment → Option α} {ofItem : α → Int}
    (lines : ∀ line segment item, read line segment = some item → ofItem item = line) (line : Nat)
    (segments : List Segment) :
    (((numbered line segments).filterMap fun (own, segment) => read own segment).map
      ofItem).Pairwise (· ≤ ·) := by
  rw [List.pairwise_map]
  apply (pairwise_numbered line segments).filterMap
  rintro ⟨own, segment⟩ ⟨later, other⟩ ordered item found next foundNext
  rw [lines own segment item found, lines later other next foundNext]
  exact Int.ofNat_le.mpr ordered

theorem line_token? {line : Nat} {segment : Segment} {token : Token}
    (found : segment.token? line = some token) : token.line = line := by
  unfold token? at found
  split at found
  · cases found
    rfl
  · cases found

theorem line_fault? {line : Nat} {segment : Segment} {fault : Fault}
    (found : segment.fault? line = some fault) : fault.line = line := by
  unfold fault? at found
  split at found <;> cases found <;> rfl

theorem bytes_of_lexeme? {segment : Segment} {kind : TokenKind} {lexeme : Text}
    (found : segment.lexeme? = some (kind, lexeme)) : segment.bytes = lexeme := by
  rcases segment with ⟨role, glyphs⟩
  cases role <;> cases found
  rfl

section

variable {α : Type} {find : Segment → Option α} {source : Text} {place : Nat} {item : α}
  {front back : List Segment} {segment : Segment}

/-- What stands before the segment of an item, the segment itself and what stands behind it make up
the source. -/
theorem IsAt.source_eq (isAt : IsAt find (split source.glyphs) place item front segment back) :
    source = front.flatMap bytes ++ segment.bytes ++ back.flatMap bytes := by
  have whole := (partition_split source.glyphs).bytes_eq
  rw [Text.join_glyphs, isAt.parts, List.flatMap_append, List.flatMap_cons] at whole
  rw [List.append_assoc, whole]

theorem IsAt.newlines_eq (isAt : IsAt find (split source.glyphs) place item front segment back) :
    Text.newlines (front.flatMap bytes) = total newlines front ∧
      Text.newlines segment.bytes = segment.newlines := by
  have inside := (partition_split source.glyphs).subset
  rw [isAt.parts, List.forall_mem_append, List.forall_mem_cons] at inside
  exact ⟨newlines_flatMap_bytes inside.1, Glyph.newlines_join inside.2.1⟩

theorem IsAt.stands (isAt : IsAt find (split source.glyphs) place item front segment back) :
    ∃ following, segment.Stands following ∧ Partition following back := by
  have partition := partition_split source.glyphs
  rw [isAt.parts] at partition
  exact partition.of_append

end

end Segment

namespace Scan

/-- Where a token of a source lies. -/
theorem exists_isAt_of_token {source : Text} {place : Nat} {token : Token}
    (found : (ofSource source).tokens[place]? = some token) (goesOn : token.kind ≠ .eof) :
    ∃ front segment back,
      Segment.IsAt Segment.lexeme? (Segment.split source.glyphs) place (token.kind, token.lexeme)
          front segment back ∧
        token.line = 1 + Text.newlines (front.flatMap Segment.bytes ++ token.lexeme) := by
  have isWord : (words (Segment.split source.glyphs))[place]? = some token := by
    rw [ofSource, tokens_ofSegments, List.getElem?_append] at found
    split at found
    · exact found
    · rw [List.getElem?_singleton] at found
      split at found
      · cases found
        exact absurd rfl goesOn
      · cases found
  rcases Segment.exists_isAt_of_getElem? (fun segment _ line => segment.lexeme_token? line) isWord
    with ⟨front, segment, back, isAt, isRead⟩
  refine ⟨front, segment, back, isAt, ?_⟩
  rw [Segment.line_token? isRead, ← Segment.bytes_of_lexeme? isAt.found, Text.newlines_append,
    isAt.newlines_eq.1, isAt.newlines_eq.2, total_append, total_cons, total_nil, Nat.add_zero,
    Int.natCast_add]
  rfl

/-- Where a fault of a source lies: an unexpected character holds no line feed, and what is never
terminated reaches to the end. -/
theorem exists_isAt_of_fault {source : Text} {place : Nat} {fault : Fault}
    (found : (ofSource source).faults[place]? = some fault) :
    ∃ front segment back,
      Segment.IsAt Segment.cause? (Segment.split source.glyphs) place fault.cause
          front segment back ∧
        ((∃ character, fault.cause = .unexpectedCharacter character) ∧
            fault.line = 1 + Text.newlines (front.flatMap Segment.bytes) ∨
          (fault.cause = .unterminatedString ∨ fault.cause = .unterminatedComment) ∧
            fault.line = 1 + source.newlines) := by
  have stands := (Segment.partition_split source.glyphs).exists_stands
  have agrees : ∀ segment ∈ Segment.split source.glyphs, ∀ line,
      (segment.fault? line).map Fault.cause = segment.cause? := by
    intro segment member line
    rcases stands segment member with ⟨following, standing⟩
    exact standing.cause_fault? line
  rcases Segment.exists_isAt_of_getElem? agrees found with ⟨front, segment, back, isAt, isRead⟩
  refine ⟨front, segment, back, isAt, ?_⟩
  have line := Segment.line_fault? isRead
  rw [total_append, total_cons, total_nil, Nat.add_zero, ← isAt.newlines_eq.1,
    ← isAt.newlines_eq.2] at line
  have parts := isAt.source_eq
  have cause := isAt.found
  rcases isAt.stands with ⟨following, standing, tail⟩
  have behind := tail.bytes_eq
  have reaches (ends : Glyph.join following = []) :
      source.newlines = Text.newlines (front.flatMap Segment.bytes) + segment.bytes.newlines := by
    rw [parts, behind, ends, List.append_nil, Text.newlines_append]
  cases standing with
  | @unexpected glyph _ noBlank noComment noString noToken =>
      have noNewline : Text.newlines (Segment.bytes ⟨.unexpected, [glyph]⟩) = 0 := by
        have other : glyph.is '\n' = false := by
          rw [← Bool.not_eq_true, Glyph.is_iff (by decide)]
          exact noBlank '\n' (by decide)
        simp [isAt.newlines_eq.2, Segment.newlines, other]
      exact .inl ⟨⟨_, (Option.some.inj cause).symm⟩, by omega⟩
  | openString unquoted =>
      have whole := reaches rfl
      exact .inr ⟨.inl (Option.some.inj cause).symm, by omega⟩
  | openComment unclosed =>
      have whole := reaches rfl
      exact .inr ⟨.inr (Option.some.inj cause).symm, by omega⟩
  | _ => cases cause

/-- The end of a source lies on its last line. -/
theorem line_of_eof {source : Text} {token : Token} (member : token ∈ (ofSource source).tokens)
    (isEnd : token.kind = .eof) : token.line = 1 + source.newlines := by
  rw [ofSource, tokens_ofSegments] at member
  rcases List.mem_append.mp member with inside | last
  · exact absurd isEnd (kind_ne_eof_of_mem_words token inside)
  · rw [List.mem_singleton.mp last, Segment.total_newlines_split,
      (Text.cutInto_glyphs source).newlines_eq]
    rfl

theorem pairwise_line_tokens (source : Text) :
    ((ofSource source).tokens.map Token.line).Pairwise (· ≤ ·) := by
  rw [ofSource, tokens_ofSegments, List.map_append, List.pairwise_append]
  refine ⟨?_, List.pairwise_singleton _ _, ?_⟩
  · exact @Segment.pairwise_filterMap_numbered _ (fun line segment => segment.token? line) _
      (fun _ _ _ => Segment.line_token?) 1 (Segment.split source.glyphs)
  · intro line inWords last isLast
    rcases List.mem_map.mp inWords with ⟨token, member, rfl⟩
    rcases List.mem_filterMap.mp member with ⟨⟨own, segment⟩, numbered, found⟩
    have bounds := Segment.bounds_of_mem_numbered numbered
    rw [List.mem_singleton.mp isLast, Segment.line_token? found]
    exact Int.ofNat_le.mpr bounds.2

/-- Line accounting is exact. A token lies one line further down than there are line feeds up to its
end, an unexpected character than there are before it, and the end of the source and whatever is
never terminated than there are in all. So lines never decrease. -/
theorem lines_count_newlines (source : Text) :
    (∀ (place : Nat) (token : Token), (ofSource source).tokens[place]? = some token → token.kind ≠ .eof →
      ∃ front segment back,
        Segment.IsAt Segment.lexeme? (Segment.split source.glyphs) place
            (token.kind, token.lexeme) front segment back ∧
          source = front.flatMap Segment.bytes ++ token.lexeme ++ back.flatMap Segment.bytes ∧
          token.line = 1 + Text.newlines (front.flatMap Segment.bytes ++ token.lexeme)) ∧
    (∀ token ∈ (ofSource source).tokens, token.kind = .eof →
      token.line = 1 + source.newlines) ∧
    (∀ (place : Nat) (fault : Fault), (ofSource source).faults[place]? = some fault →
      ∃ front segment back,
        Segment.IsAt Segment.cause? (Segment.split source.glyphs) place fault.cause
            front segment back ∧
          source = front.flatMap Segment.bytes ++ segment.bytes ++ back.flatMap Segment.bytes ∧
          ((∃ character, fault.cause = .unexpectedCharacter character) ∧
              fault.line = 1 + Text.newlines (front.flatMap Segment.bytes) ∨
            (fault.cause = .unterminatedString ∨ fault.cause = .unterminatedComment) ∧
              fault.line = 1 + source.newlines)) ∧
    ((ofSource source).tokens.map Token.line).Pairwise (· ≤ ·) ∧
    ((ofSource source).faults.map Fault.line).Pairwise (· ≤ ·) := by
  refine ⟨?_, ?_, ?_, pairwise_line_tokens source, ?_⟩
  · intro place token found goesOn
    rcases exists_isAt_of_token found goesOn with ⟨front, segment, back, isAt, line⟩
    refine ⟨front, segment, back, isAt, ?_, line⟩
    rw [← Segment.bytes_of_lexeme? isAt.found]
    exact isAt.source_eq
  · intro token member isEnd
    exact line_of_eof member isEnd
  · intro place fault found
    rcases exists_isAt_of_fault found with ⟨front, segment, back, isAt, line⟩
    exact ⟨front, segment, back, isAt, isAt.source_eq, line⟩
  · exact @Segment.pairwise_filterMap_numbered _ (fun line segment => segment.fault? line) _
      (fun _ _ _ => Segment.line_fault?) 1 (Segment.split source.glyphs)

end Scan

end Scriptlet
