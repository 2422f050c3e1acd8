import Mathlib.Data.List.Forall2
import Scriptlet.Proofs.Layout.Words

/-!
# Layout keeps the segments that matter

Blanks and comments do not matter to a program. Here the other segments of a source are compared
with those of the respaced source: they are the same, one by one, except that strings are respaced
inside. A block comment stays a block comment whatever blanks it holds.

A line comment ends at a line feed only, so layout cuts it in two at a carriage return. This does
no harm as long as what stands behind the carriage return does not matter either, see `Harmless`.
-/

namespace Scriptlet

open Glyph

namespace Segment

/-- Blanks and comments do not matter to a program. -/
def matters (segment : Segment) : Bool :=
  match segment.role with
  | .blank | .comment => false
  | _ => true

/-- What a line comment may hold so that no part of it matters when the comment is cut in two at
every carriage return. -/
inductive Harmless : List Glyph → Prop where
  | plain {content : List Glyph} (noReturn : char '\r' ∉ content) : Harmless content
  | turned {front back : List Glyph} (noReturn : char '\r' ∉ front)
      (silent : ∀ segment ∈ split back, segment.matters = false)
      (inside : ∀ segment ∈ split back, ∀ content,
        segment = ⟨.comment, spell "//" ++ content⟩ → Harmless content) :
      Harmless (front ++ char '\r' :: back)

/-- A segment that layout does not change into anything else. -/
structure Steady (segment : Segment) : Prop where
  stringCloses : segment.role ≠ .openString
  commentCloses : segment.role ≠ .openComment
  harmless : ∀ content, segment = ⟨.comment, spell "//" ++ content⟩ → Harmless content

/-- Segments that layout makes of each other: strings may be respaced, all others are the same. -/
structure Alike (segment other : Segment) : Prop where
  roles : segment.role = other.role
  respaced : Respaced Glyph.char segment.glyphs other.glyphs
  same : segment.role ≠ .token .string → segment.glyphs = other.glyphs

theorem split_cons (first : Glyph) (rest : List Glyph) :
    split (first :: rest) =
      ⟨(extent first rest).1, first :: rest.take (extent first rest).2⟩ ::
        split (rest.drop (extent first rest).2) := by
  rw [split]

theorem extent_of_blank {first : Glyph} (blank : Blank Glyph.char first) (rest : List Glyph) :
    extent first rest = (.blank, 0) := by
  simp [extent, blank_iff.mp blank]

theorem filter_eq_nil_of_silent {segments : List Segment}
    (silent : ∀ segment ∈ segments, segment.matters = false) : segments.filter matters = [] := by
  simpa [List.filter_eq_nil_iff] using silent

theorem filter_split_cons_of_blank {first : Glyph} (blank : Blank Glyph.char first)
    (rest : List Glyph) : (split (first :: rest)).filter matters = (split rest).filter matters := by
  rw [split_cons, extent_of_blank blank, List.filter_cons_of_neg (by simp [matters])]
  rfl

theorem filter_split_of_blank {glyphs : List Glyph}
    (blank : ∀ glyph ∈ glyphs, Blank Glyph.char glyph) : (split glyphs).filter matters = [] := by
  induction glyphs with
  | nil => rw [split, List.filter_nil]
  | cons first rest ih =>
      rw [filter_split_cons_of_blank (blank first (.head _))]
      exact ih fun glyph member => blank glyph (.tail _ member)

theorem commentLength?_cons_of_plain {depth length : Nat} {first : Glyph} {rest : List Glyph}
    (noOpening : ∀ more, first = char '/' → rest ≠ char '*' :: more)
    (noClosing : ∀ more, first = char '*' → rest ≠ char '/' :: more)
    (closed : commentLength? (depth + 1) rest = some length) :
    commentLength? (depth + 1) (first :: rest) = some (length + 1) := by
  cases rest with
  | nil => cases closed
  | cons second rest =>
      have opens : ¬(first.is '/' && second.is '*') = true := by
        rw [Bool.and_eq_true, is_iff (by decide), is_iff (by decide)]
        rintro ⟨slash, rfl⟩
        exact noOpening rest slash rfl
      have closes : ¬(first.is '*' && second.is '/') = true := by
        rw [Bool.and_eq_true, is_iff (by decide), is_iff (by decide)]
        rintro ⟨star, rfl⟩
        exact noClosing rest star rfl
      simp [commentLength?, opens, closes, closed]

/-- Comments that are closed stay closed, and what follows them is respaced by itself. -/
theorem commentLength?_respaced {depth length : Nat} {glyphs other : List Glyph}
    (respaced : Respaced Glyph.char glyphs other)
    (closed : commentLength? depth glyphs = some length) :
    ∃ otherLength, commentLength? depth other = some otherLength ∧
      Respaced Glyph.char (glyphs.drop length) (other.drop otherLength) := by
  fun_induction commentLength? depth glyphs generalizing length other with
  | case1 glyphs =>
      cases closed
      exact ⟨0, by simp [commentLength?], respaced⟩
  | case2 depth => cases closed
  | case3 depth glyph => cases closed
  | case4 depth first second rest opens ih =>
      rw [Bool.and_eq_true, is_iff (by decide), is_iff (by decide)] at opens
      rcases opens with ⟨rfl, rfl⟩
      rcases Option.map_eq_some_iff.mp closed with ⟨inner, closedInside, rfl⟩
      rcases respaced.cons_of_not_blank (not_blank_char (by decide)) with ⟨after, rfl, afters⟩
      rcases afters.cons_of_not_blank (not_blank_char (by decide)) with ⟨behind, rfl, behinds⟩
      rcases ih behinds closedInside with ⟨otherInner, otherClosed, rests⟩
      exact ⟨otherInner + 2, by simp [commentLength?, is, scalar, otherClosed], rests⟩
  | case5 depth first second rest opens closes ih =>
      rw [Bool.and_eq_true, is_iff (by decide), is_iff (by decide)] at closes
      rcases closes with ⟨rfl, rfl⟩
      rcases Option.map_eq_some_iff.mp closed with ⟨inner, closedInside, rfl⟩
      rcases respaced.cons_of_not_blank (not_blank_char (by decide)) with ⟨after, rfl, afters⟩
      rcases afters.cons_of_not_blank (not_blank_char (by decide)) with ⟨behind, rfl, behinds⟩
      rcases ih behinds closedInside with ⟨otherInner, otherClosed, rests⟩
      exact ⟨otherInner + 2, by simp [commentLength?, is, scalar, otherClosed], rests⟩
  | case6 depth first second rest opens closes ih =>
      rw [Bool.and_eq_true, is_iff (by decide), is_iff (by decide)] at opens closes
      rcases Option.map_eq_some_iff.mp closed with ⟨inner, closedInside, rfl⟩
      -- The glyph is passed over on both sides; whatever replaces it starts no delimiter either.
      have passed {item : Glyph} {otherRest : List Glyph}
          (tails : Respaced Glyph.char (second :: rest) otherRest)
          (noDelimiter : item = first ∨ Blank Glyph.char item) :
          ∃ otherLength, commentLength? (depth + 1) (item :: otherRest) = some otherLength ∧
            Respaced Glyph.char ((second :: rest).drop inner)
              ((item :: otherRest).drop otherLength) := by
        rcases ih tails closedInside with ⟨otherInner, otherClosed, rests⟩
        refine ⟨otherInner + 1, commentLength?_cons_of_plain ?_ ?_ otherClosed, rests⟩
        · rintro more slash rfl
          rcases noDelimiter with rfl | blank
          · exact opens ⟨slash, tails.head_eq (not_blank_char (by decide))⟩
          · rw [slash] at blank
            exact not_blank_char (by decide) blank
        · rintro more star rfl
          rcases noDelimiter with rfl | blank
          · exact closes ⟨star, tails.head_eq (not_blank_char (by decide))⟩
          · rw [star] at blank
            exact not_blank_char (by decide) blank
      cases respaced with
      | keep noReturn tail => exact passed tail (.inl rfl)
      | trim isGap lineEnds tail => exact ih tail closedInside
      | turned tail => exact passed tail (.inr blank_lineFeed)
      | joined tail => exact ih (.keep (by simp) tail) closedInside
      | ending blank otherBlank =>
          exact ih (.ending (fun item member => blank item (.tail _ member)) otherBlank)
            closedInside

/-- The end of a list, or of a line. -/
def StartsBreak (glyphs : List Glyph) : Prop :=
  glyphs = [] ∨ (∃ rest, glyphs = char '\r' :: rest) ∨ ∃ rest, glyphs = char '\n' :: rest

/-- From the first line feed that layout leaves on, glyphs are respaced by themselves. -/
theorem respaced_line {front tail other : List Glyph}
    (respaced : Respaced Glyph.char (front ++ tail) other)
    (onLine : ∀ glyph ∈ front, glyph ≠ char '\n' ∧ glyph ≠ char '\r') (starts : StartsBreak tail) :
    Respaced Glyph.char tail (other.dropWhile fun glyph => !glyph.is '\n') := by
  generalize whole : front ++ tail = source at respaced
  induction respaced generalizing front with
  | keep noReturn kept ih =>
      rename_i item rest other
      cases front with
      | nil =>
          rcases starts with rfl | ⟨rest, rfl⟩ | ⟨rest, rfl⟩
          · cases whole
          · cases whole
            exact absurd rfl noReturn
          · cases whole
            exact .keep noReturn kept
      | cons head front =>
          cases whole
          have passes : item.is '\n' = false := by
            rw [← Bool.not_eq_true, is_iff (by decide)]
            exact (onLine item (.head _)).1
          have later := ih (fun glyph member => onLine glyph (.tail _ member)) rfl
          simpa [passes] using later
  | trim isGap lineEnds trimmed ih =>
      cases front with
      | nil =>
          rcases starts with rfl | ⟨rest, rfl⟩ | ⟨rest, rfl⟩
          · cases whole
          · cases whole
            simp at isGap
          · cases whole
            simp at isGap
      | cons head front =>
          cases whole
          exact ih (fun glyph member => onLine glyph (.tail _ member)) rfl
  | joined joined ih =>
      cases front with
      | nil =>
          cases whole
          exact .joined joined
      | cons head front => exact absurd (List.cons.inj whole).1 (onLine head (.head _)).2
  | turned turned ih =>
      cases front with
      | nil =>
          cases whole
          exact .turned turned
      | cons head front => exact absurd (List.cons.inj whole).1 (onLine head (.head _)).2
  | ending blank otherBlank =>
      refine .ending ?_ ?_
      · intro item member
        apply blank
        rw [← whole]
        exact List.mem_append_right _ member
      · intro item member
        exact otherBlank item ((List.dropWhile_sublist _).mem member)

theorem extent_slash (rest : List Glyph) : extent (char '/') rest = afterSlash rest := by
  simp [extent, isBlank, is, scalar]

theorem extent_quote (rest : List Glyph) : extent (char '"') rest = afterQuote rest := by
  simp [extent, isBlank, is, scalar]

theorem afterQuote_of_closed {content more : List Glyph}
    (unquoted : ∀ glyph ∈ content, glyph ≠ char '"') :
    afterQuote (content ++ char '"' :: more) = (.token .string, content.length + 1) := by
  have passes : ∀ glyph ∈ content, (!glyph.is '"') = true := by
    intro glyph member
    rw [Bool.not_eq_true', ← Bool.not_eq_true, is_iff (by decide)]
    exact unquoted glyph member
  have stops : run (fun glyph => !glyph.is '"') (char '"' :: more) = 0 := rfl
  simp [afterQuote, run_append passes, stops]

theorem exists_of_afterQuote {rest : List Glyph} (closed : (afterQuote rest).1 ≠ .openString) :
    ∃ content more, rest = content ++ char '"' :: more ∧ ∀ glyph ∈ content, glyph ≠ char '"' := by
  have unquoted :
      ∀ glyph ∈ rest.take (run (fun glyph => !glyph.is '"') rest), glyph ≠ char '"' := by
    intro glyph member quote
    have passes := passes_of_mem_take_run glyph member
    rw [quote] at passes
    cases passes
  rcases drop_run_cases (fun glyph => !glyph.is '"') rest with ended | ⟨next, more, found, fails⟩
  · rw [List.drop_eq_nil_iff] at ended
    simp [afterQuote, Nat.not_lt.mpr ended] at closed
  · rw [Bool.not_eq_false', is_iff (by decide)] at fails
    subst fails
    refine ⟨_, more, ?_, unquoted⟩
    rw [← found, List.take_append_drop]

theorem afterSlash_append {rest back : List Glyph} (closed : (afterSlash rest).1 ≠ .openComment)
    (ends : back = [] ∨ ∃ later, back = char '\n' :: later) :
    afterSlash (rest ++ back) = afterSlash rest ∧ (afterSlash rest).2 ≤ rest.length := by
  cases rest with
  | nil => rcases ends with rfl | ⟨later, rfl⟩ <;> exact ⟨rfl, Nat.le_refl 0⟩
  | cons next more =>
      simp only [afterSlash, List.cons_append] at closed ⊢
      split
      · have stops : back = [] ∨
            ∃ glyph rest, back = glyph :: rest ∧ (!glyph.is '\n') = false := by
          rcases ends with nothing | ⟨later, goesOn⟩
          · exact .inl nothing
          · exact .inr ⟨_, later, goesOn, rfl⟩
        have within := run_le (fun glyph => !glyph.is '\n') more
        rw [run_append_of_stops more stops]
        exact ⟨rfl, by simp; omega⟩
      · rename_i noSlash
        simp only [noSlash, Bool.false_eq_true, if_false] at closed
        split
        · rename_i star
          simp only [star, if_true] at closed
          split at closed
          · rename_i length closes
            rcases commentLength?_eq_some_iff.mp closes with ⟨within, balanced⟩
            have closesLater : commentLength? 1 (more ++ back) = some length := by
              rw [commentLength?_eq_some_iff, List.take_append_of_le_length within]
              exact ⟨by simp; omega, balanced⟩
            rw [closesLater]
            exact ⟨rfl, by simp; omega⟩
          · exact absurd rfl closed
        · exact ⟨rfl, Nat.zero_le _⟩

/-- A segment that is closed does not depend on what follows on the next line. -/
theorem extent_append_of_closed {first : Glyph} {rest back : List Glyph}
    (stringCloses : (extent first rest).1 ≠ .openString)
    (commentCloses : (extent first rest).1 ≠ .openComment)
    (ends : back = [] ∨ ∃ later, back = char '\n' :: later) :
    extent first (rest ++ back) = extent first rest ∧ (extent first rest).2 ≤ rest.length := by
  by_cases quote : first = char '"'
  · subst quote
    rw [extent_quote] at stringCloses
    rcases exists_of_afterQuote stringCloses with ⟨content, more, rfl, unquoted⟩
    rw [extent_quote, extent_quote, List.append_assoc, List.cons_append,
      afterQuote_of_closed unquoted, afterQuote_of_closed unquoted]
    exact ⟨rfl, by simp⟩
  by_cases slash : first = char '/'
  · subst slash
    rw [extent_slash] at commentCloses
    rw [extent_slash, extent_slash]
    exact afterSlash_append commentCloses ends
  · refine extent_append quote (fun same => absurd same slash) ?_
    rcases ends with nothing | ⟨later, goesOn⟩
    · exact .inl nothing
    · exact .inr ⟨_, later, goesOn, blank_lineFeed⟩

/-- Segments that are closed are cut off from what follows on the next line. -/
theorem split_append_of_closed {front back : List Glyph}
    (closed : ∀ segment ∈ split front,
      segment.role ≠ .openString ∧ segment.role ≠ .openComment)
    (ends : back = [] ∨ ∃ later, back = char '\n' :: later) :
    split (front ++ back) = split front ++ split back := by
  fun_induction split front with
  | case1 => rfl
  | case2 first rest role length reaches ih =>
      rw [List.forall_mem_cons] at closed
      have extents := @extent_append_of_closed first rest back
      simp only [reaches] at extents
      rcases extents closed.1.1 closed.1.2 ends with ⟨same, within⟩
      rw [List.cons_append, split_cons, same, List.take_append_of_le_length within,
        List.drop_append_of_le_length within, ih closed.2]
      rfl

theorem Steady.of_blank {segment : Segment} (blank : segment.role = .blank) : segment.Steady where
  stringCloses := by simp [blank]
  commentCloses := by simp [blank]
  harmless content same := by simp [same] at blank

/-- Where a harmless line comment is cut, what follows matters as much as before. -/
theorem Harmless.exists_tail {content following : List Glyph} (harmless : Harmless content)
    (onLine : char '\n' ∉ content) (ends : following = [] ∨ ∃ later, following = char '\n' :: later)
    (steady : ∀ segment ∈ split following, segment.Steady) :
    ∃ front tail, content ++ following = front ++ tail ∧
      (∀ glyph ∈ front, glyph ≠ char '\n' ∧ glyph ≠ char '\r') ∧ StartsBreak tail ∧
      (∀ segment ∈ split tail, segment.Steady) ∧
      (split tail).filter matters = (split following).filter matters ∧
      (char '\r' ∉ content → tail = following) := by
  cases harmless with
  | plain noReturn =>
      refine ⟨content, following, rfl, ?_, ends.imp_right .inr, steady, rfl, fun _ => rfl⟩
      intro glyph member
      exact ⟨fun same => onLine (same ▸ member), fun same => noReturn (same ▸ member)⟩
  | turned noReturn silent inside =>
      rename_i front back
      have closed : ∀ segment ∈ split back,
          segment.role ≠ .openString ∧ segment.role ≠ .openComment := by
        intro segment member
        have noMatter := silent segment member
        constructor <;> intro role <;> simp [matters, role] at noMatter
      have parts := split_append_of_closed closed ends
      have cut : split (char '\r' :: (back ++ following)) =
          ⟨.blank, [char '\r']⟩ :: (split back ++ split following) := by
        rw [split_cons, extent_of_blank blank_carriageReturn, ← parts]
        rfl
      refine ⟨front, char '\r' :: (back ++ following), by simp, ?_, .inr (.inl ⟨_, rfl⟩), ?_, ?_,
        fun noReturn => absurd (by simp) noReturn⟩
      · intro glyph member
        exact ⟨fun same => onLine (by simp [same ▸ member]), fun same => noReturn (same ▸ member)⟩
      · intro segment member
        rw [cut] at member
        rcases List.mem_cons.mp member with rfl | later
        · exact .of_blank rfl
        · rcases List.mem_append.mp later with inBack | inFollowing
          · rcases closed segment inBack with ⟨stringCloses, commentCloses⟩
            exact ⟨stringCloses, commentCloses, inside segment inBack⟩
          · exact steady segment inFollowing
      · rw [cut, List.filter_cons_of_neg (by simp [matters]), List.filter_append,
          filter_eq_nil_of_silent silent, List.nil_append]

/-- The segments that matter are alike, one by one. -/
def Correspond (glyphs other : List Glyph) : Prop :=
  List.Forall₂ Alike ((split glyphs).filter matters) ((split other).filter matters)

/-- What is left of two sources behind segments that are alike, or that do not matter. -/
inductive Leaves (glyphs other tail otherTail : List Glyph) : Prop where
  | alike {segment another : Segment} (starts : split glyphs = segment :: split tail)
      (otherStarts : split other = another :: split otherTail) (alike : segment.Alike another)
  | silent {segments others : List Segment} (starts : split glyphs = segments ++ split tail)
      (otherStarts : split other = others ++ split otherTail)
      (silent : ∀ segment ∈ segments ++ others, segment.matters = false)

theorem Alike.matters_eq {segment other : Segment} (alike : segment.Alike other) :
    segment.matters = other.matters := by
  rw [matters, matters, alike.roles]

theorem Leaves.correspond {glyphs other tail otherTail : List Glyph}
    (leaves : Leaves glyphs other tail otherTail) (tails : Correspond tail otherTail) :
    Correspond glyphs other := by
  cases leaves with
  | alike starts otherStarts alike =>
      rw [Correspond, starts, otherStarts, List.filter_cons, List.filter_cons, alike.matters_eq]
      split
      · exact .cons alike tails
      · exact tails
  | silent starts otherStarts silent =>
      rw [List.forall_mem_append] at silent
      rw [Correspond, starts, otherStarts, List.filter_append, List.filter_append,
        filter_eq_nil_of_silent silent.1, filter_eq_nil_of_silent silent.2]
      exact tails

/-- One segment is compared; what is left is shorter. Only at a carriage return is something left
that does not start a segment of its own. -/
def Advances (glyphs other : List Glyph) : Prop :=
  ∃ tail otherTail, tail.length < glyphs.length ∧ Respaced Glyph.char tail otherTail ∧
    (∀ segment ∈ split tail, segment.Steady) ∧
    (Correspond tail otherTail → Correspond glyphs other) ∧
    (char '\r' ∉ glyphs → Leaves glyphs other tail otherTail)

theorem Leaves.advances {glyphs other tail otherTail : List Glyph}
    (leaves : Leaves glyphs other tail otherTail) (shorter : tail.length < glyphs.length)
    (tails : Respaced Glyph.char tail otherTail)
    (steady : ∀ segment ∈ split tail, segment.Steady) : Advances glyphs other :=
  ⟨tail, otherTail, shorter, tails, steady, leaves.correspond, fun _ => leaves⟩

theorem steady_tail {first : Glyph} {rest : List Glyph}
    (steady : ∀ segment ∈ split (first :: rest), segment.Steady) :
    ∀ segment ∈ split (rest.drop (extent first rest).2), segment.Steady := by
  intro segment member
  apply steady
  rw [split_cons]
  exact .tail _ member

theorem steady_head {first : Glyph} {rest : List Glyph}
    (steady : ∀ segment ∈ split (first :: rest), segment.Steady) :
    Steady ⟨(extent first rest).1, first :: rest.take (extent first rest).2⟩ := by
  apply steady
  rw [split_cons]
  exact .head _

theorem advances_of_extent {first : Glyph} {rest otherRest : List Glyph} {otherLength : Nat}
    (otherExtent : extent first otherRest = ((extent first rest).1, otherLength))
    (alike : (extent first rest).1 ≠ .comment →
      Alike ⟨(extent first rest).1, first :: rest.take (extent first rest).2⟩
        ⟨(extent first rest).1, first :: otherRest.take otherLength⟩)
    (tails : Respaced Glyph.char (rest.drop (extent first rest).2) (otherRest.drop otherLength))
    (steady : ∀ segment ∈ split (first :: rest), segment.Steady) :
    Advances (first :: rest) (first :: otherRest) := by
  have shorter : (rest.drop (extent first rest).2).length < (first :: rest).length := by
    simp only [List.length_drop, List.length_cons]
    omega
  refine Leaves.advances ?_ shorter tails (steady_tail steady)
  have otherStarts := split_cons first otherRest
  rw [otherExtent] at otherStarts
  by_cases isComment : (extent first rest).1 = .comment
  · refine @Leaves.silent _ _ _ _ [_] [_] (split_cons first rest) otherStarts ?_
    simp [matters, isComment]
  · exact .alike (split_cons first rest) otherStarts (alike isComment)

theorem advances_word {first : Glyph} {rest otherRest : List Glyph}
    (tails : Respaced Glyph.char rest otherRest) (visible : first ≠ char '\r')
    (noQuote : first ≠ char '"')
    (noComment : first = char '/' →
      ∀ next more, rest = next :: more → next ≠ char '/' ∧ next ≠ char '*')
    (steady : ∀ segment ∈ split (first :: rest), segment.Steady) :
    Advances (first :: rest) (first :: otherRest) := by
  rcases tails.word with ⟨word, gap, otherGap, rfl, rfl, noReturn, starts, otherStarts, gaps⟩
  have plain : first = char '/' →
      ∀ next more, word = next :: more → next ≠ char '/' ∧ next ≠ char '*' := by
    rintro slash next more rfl
    exact noComment slash next (more ++ gap) rfl
  rcases extent_append noQuote plain starts with ⟨same, within⟩
  rcases extent_append noQuote plain otherStarts with ⟨otherSame, -⟩
  have shorter : char '\r' ∉ word.drop (extent first word).2 :=
    fun member => noReturn (List.mem_of_mem_drop member)
  refine @advances_of_extent _ _ _ (extent first word).2 ?_ ?_ ?_ steady
  · rw [same, otherSame]
  · intro _
    rw [same, List.take_append_of_le_length within, List.take_append_of_le_length within]
    refine ⟨rfl, Respaced.same ?_, fun _ => rfl⟩
    rw [List.mem_cons, not_or]
    exact ⟨Ne.symm visible, fun member => noReturn (List.mem_of_mem_take member)⟩
  · rw [same, List.drop_append_of_le_length within, List.drop_append_of_le_length within]
    exact Respaced.keepAll shorter gaps

theorem advances_blockComment {rest otherRest : List Glyph}
    (tails : Respaced Glyph.char rest otherRest)
    (steady : ∀ segment ∈ split (char '/' :: char '*' :: rest), segment.Steady) :
    Advances (char '/' :: char '*' :: rest) (char '/' :: char '*' :: otherRest) := by
  have slashes (glyphs : List Glyph) {length : Nat}
      (closed : commentLength? 1 glyphs = some length) :
      extent (char '/') (char '*' :: glyphs) = (.comment, 1 + length) := by
    simp [extent_slash, afterSlash, is, scalar, closed]
  have closes := (steady_head steady).commentCloses
  cases closed : commentLength? 1 rest with
  | none => simp [extent_slash, afterSlash, is, scalar, closed] at closes
  | some length =>
      rcases commentLength?_respaced tails closed with ⟨otherLength, otherClosed, behinds⟩
      refine @advances_of_extent _ _ _ (1 + otherLength) ?_ ?_ ?_ steady
      · rw [slashes rest closed, slashes otherRest otherClosed]
      · rw [slashes rest closed]
        intro noComment
        exact absurd rfl noComment
      · rw [slashes rest closed, Nat.add_comm, Nat.add_comm 1]
        exact behinds

theorem advances_lineComment {rest otherRest : List Glyph}
    (tails : Respaced Glyph.char rest otherRest)
    (steady : ∀ segment ∈ split (char '/' :: char '/' :: rest), segment.Steady) :
    Advances (char '/' :: char '/' :: rest) (char '/' :: char '/' :: otherRest) := by
  have slashes (glyphs : List Glyph) : extent (char '/') (char '/' :: glyphs) =
      (.comment, 1 + run (fun glyph => !glyph.is '\n') glyphs) := by
    simp [extent_slash, afterSlash, is, scalar]
  have whole (glyphs : List Glyph) : split (char '/' :: char '/' :: glyphs) =
      [⟨.comment, spell "//" ++ glyphs.takeWhile fun glyph => !glyph.is '\n'⟩] ++
        split (glyphs.dropWhile fun glyph => !glyph.is '\n') := by
    rw [split_cons, slashes, ← drop_run, ← take_run, Nat.add_comm]
    rfl
  -- Only what stands behind a line comment matters.
  have behind (glyphs : List Glyph) : (split (char '/' :: char '/' :: glyphs)).filter matters =
      (split (glyphs.dropWhile fun glyph => !glyph.is '\n')).filter matters := by
    rw [whole]
    rfl
  have harmless : Harmless (rest.takeWhile fun glyph => !glyph.is '\n') := by
    apply (steady_head steady).harmless
    rw [slashes, ← take_run, Nat.add_comm]
    rfl
  have onLine : char '\n' ∉ rest.takeWhile fun glyph => !glyph.is '\n' := by
    intro member
    have passes := List.mem_takeWhile_imp member
    cases passes
  have ends : (rest.dropWhile fun glyph => !glyph.is '\n') = [] ∨
      ∃ later, (rest.dropWhile fun glyph => !glyph.is '\n') = char '\n' :: later := by
    rw [← drop_run]
    rcases drop_run_cases (fun glyph => !glyph.is '\n') rest with
      ended | ⟨next, later, found, fails⟩
    · exact .inl ended
    · rw [Bool.not_eq_false', is_iff (by decide)] at fails
      exact .inr ⟨later, fails ▸ found⟩
  have laterSteady := steady_tail steady
  rw [slashes, Nat.add_comm, List.drop_succ_cons, drop_run] at laterSteady
  rcases harmless.exists_tail onLine ends laterSteady with
    ⟨front, tail, parts, plain, starts, tailSteady, sameTail, isFollowing⟩
  rw [List.takeWhile_append_dropWhile] at parts
  refine ⟨tail, otherRest.dropWhile fun glyph => !glyph.is '\n', ?_,
    respaced_line (parts ▸ tails) plain starts, tailSteady, ?_, ?_⟩
  · rw [parts]
    simp only [List.length_cons, List.length_append]
    omega
  · intro correspond
    rw [Correspond, behind, behind, ← sameTail]
    exact correspond
  · intro noReturn
    have kept : char '\r' ∉ rest.takeWhile fun glyph => !glyph.is '\n' := by
      intro member
      exact noReturn (.tail _ (.tail _ ((List.takeWhile_sublist _).mem member)))
    rw [isFollowing kept]
    exact .silent (whole rest) (whole otherRest) (by simp [matters])

theorem advances_string {rest otherRest : List Glyph} (tails : Respaced Glyph.char rest otherRest)
    (steady : ∀ segment ∈ split (char '"' :: rest), segment.Steady) :
    Advances (char '"' :: rest) (char '"' :: otherRest) := by
  have closed := (steady_head steady).stringCloses
  rw [extent_quote] at closed
  rcases exists_of_afterQuote closed with ⟨content, more, rfl, unquoted⟩
  rcases Respaced.split_at (not_blank_char (by decide)) tails with
    ⟨otherContent, otherMore, rfl, behinds, contents, members⟩
  have otherUnquoted : ∀ glyph ∈ otherContent, glyph ≠ char '"' := by
    rintro glyph member rfl
    rcases members _ member with inContent | blank
    · exact unquoted _ inContent rfl
    · exact not_blank_char (by decide) blank
  have taken (front back : List Glyph) :
      (front ++ char '"' :: back).take (front.length + 1) = front ++ [char '"'] := by
    rw [List.append_cons, List.take_left' (by simp)]
  have dropped (front back : List Glyph) :
      (front ++ char '"' :: back).drop (front.length + 1) = back := by
    rw [List.append_cons, List.drop_left' (by simp)]
  refine @advances_of_extent _ _ _ (otherContent.length + 1) ?_ ?_ ?_ steady
  · rw [extent_quote, extent_quote, afterQuote_of_closed unquoted,
      afterQuote_of_closed otherUnquoted]
  · rw [extent_quote, afterQuote_of_closed unquoted, taken, taken]
    intro _
    exact ⟨rfl, .keep (by simp) contents, fun noString => absurd rfl noString⟩
  · rw [extent_quote, afterQuote_of_closed unquoted, dropped, dropped]
    exact behinds

theorem advances_blank {first : Glyph} {rest other : List Glyph}
    (respaced : Respaced Glyph.char (first :: rest) other) (blank : Blank Glyph.char first)
    (steady : ∀ segment ∈ split (first :: rest), segment.Steady) :
    Advances (first :: rest) other := by
  have starts {glyph : Glyph} (blank : Blank Glyph.char glyph) (glyphs : List Glyph) :
      split (glyph :: glyphs) = [⟨.blank, [glyph]⟩] ++ split glyphs := by
    rw [split_cons, extent_of_blank blank]
    rfl
  have passed : ∃ otherTail, Respaced Glyph.char rest otherTail ∧
      Leaves (first :: rest) other rest otherTail := by
    cases respaced with
    | keep noReturn tail =>
        exact ⟨_, tail, .silent (starts blank _) (starts blank _) (by simp [matters])⟩
    | trim isGap lineEnds tail =>
        exact ⟨_, tail, .silent (starts blank _) (List.nil_append _).symm (by simp [matters])⟩
    | joined tail =>
        exact ⟨_, .keep (by simp) tail,
          .silent (starts blank _) (List.nil_append _).symm (by simp [matters])⟩
    | turned tail =>
        exact ⟨_, tail, .silent (starts blank _) (starts blank_lineFeed _) (by simp [matters])⟩
    | ending allBlank otherBlank =>
        exact ⟨other, .ending (fun glyph member => allBlank glyph (.tail _ member)) otherBlank,
          .silent (starts blank _) (List.nil_append _).symm (by simp [matters])⟩
  rcases passed with ⟨otherTail, tails, leaves⟩
  have laterSteady := steady_tail steady
  rw [extent_of_blank blank] at laterSteady
  exact leaves.advances (by simp) tails laterSteady

/-- What is left of a source is compared segment by segment. -/
theorem advances {first : Glyph} {rest other : List Glyph}
    (respaced : Respaced Glyph.char (first :: rest) other)
    (steady : ∀ segment ∈ split (first :: rest), segment.Steady) :
    Advances (first :: rest) other := by
  by_cases blank : Blank Glyph.char first
  · exact advances_blank respaced blank steady
  rcases respaced.cons_of_not_blank blank with ⟨otherRest, rfl, tails⟩
  by_cases quote : first = char '"'
  · subst quote
    exact advances_string tails steady
  by_cases lineComment : first = char '/' ∧ ∃ more, rest = char '/' :: more
  · rcases lineComment with ⟨rfl, more, rfl⟩
    rcases tails.cons_of_not_blank blank with ⟨otherMore, rfl, behinds⟩
    exact advances_lineComment behinds steady
  by_cases blockComment : first = char '/' ∧ ∃ more, rest = char '*' :: more
  · rcases blockComment with ⟨rfl, more, rfl⟩
    rcases tails.cons_of_not_blank (not_blank_char (by decide)) with ⟨otherMore, rfl, behinds⟩
    exact advances_blockComment behinds steady
  refine advances_word tails ?_ quote ?_ steady
  · rintro rfl
    exact blank blank_carriageReturn
  · rintro slash next more rfl
    constructor
    · rintro rfl
      exact lineComment ⟨slash, more, rfl⟩
    · rintro rfl
      exact blockComment ⟨slash, more, rfl⟩

/-- The segments that matter stay as they are, apart from the blanks inside strings. -/
theorem correspond_of_respaced {glyphs other : List Glyph}
    (respaced : Respaced Glyph.char glyphs other)
    (steady : ∀ segment ∈ split glyphs, segment.Steady) : Correspond glyphs other := by
  induction bound : glyphs.length using Nat.strong_induction_on generalizing glyphs other with
  | h length ih =>
      cases glyphs with
      | nil =>
          rw [Correspond, filter_split_of_blank respaced.nil_left, split]
          exact .nil
      | cons first rest =>
          rcases advances respaced steady with
            ⟨tail, otherTail, shorter, tails, later, advance, -⟩
          exact advance (ih tail.length (bound ▸ shorter) tails later rfl)

end Segment

end Scriptlet
