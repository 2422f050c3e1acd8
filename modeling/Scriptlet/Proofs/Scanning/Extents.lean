import Mathlib.Data.List.TakeWhile
import Scriptlet.Proofs.Scanning.Lexemes

/-!
# How far segments reach

Whatever the scanner takes for the next segment may stand there: it is what the lexicon says, and
no lexeme reaches further. There is one statement for each class of first glyph, and
`Segment.stands_extent` puts them together.
-/

namespace Scriptlet

open Glyph

namespace Segment

theorem take_run (test : Glyph → Bool) (glyphs : List Glyph) :
    glyphs.take (run test glyphs) = glyphs.takeWhile test :=
  (List.prefix_iff_eq_take.mp (List.takeWhile_prefix test)).symm

theorem drop_run (test : Glyph → Bool) (glyphs : List Glyph) :
    glyphs.drop (run test glyphs) = glyphs.dropWhile test := by
  have parts : glyphs.take (run test glyphs) ++ glyphs.drop (run test glyphs) =
      glyphs.takeWhile test ++ glyphs.dropWhile test := by
    rw [List.take_append_drop, List.takeWhile_append_dropWhile]
  rw [take_run] at parts
  exact List.append_cancel_left parts

theorem run_append {test : Glyph → Bool} {front : List Glyph}
    (passes : ∀ glyph ∈ front, test glyph) (rest : List Glyph) :
    run test (front ++ rest) = front.length + run test rest := by
  rw [run, List.takeWhile_append_of_pos passes, List.length_append, run]

theorem length_le_run {test : Glyph → Bool} {front glyphs : List Glyph}
    (passes : ∀ glyph ∈ front, test glyph) (starts : front <+: glyphs) :
    front.length ≤ run test glyphs := by
  rcases starts with ⟨rest, rfl⟩
  rw [run_append passes]
  exact Nat.le_add_right _ _

theorem passes_of_mem_take_run {test : Glyph → Bool} {glyphs : List Glyph} :
    ∀ glyph ∈ glyphs.take (run test glyphs), test glyph := by
  intro glyph member
  rw [take_run] at member
  exact List.mem_takeWhile_imp member

theorem drop_run_cases (test : Glyph → Bool) (glyphs : List Glyph) :
    glyphs.drop (run test glyphs) = [] ∨
      ∃ next rest, glyphs.drop (run test glyphs) = next :: rest ∧ test next = false := by
  rw [drop_run]
  cases stopped : glyphs.dropWhile test with
  | nil => exact .inl rfl
  | cons next rest =>
      have nonempty : glyphs.dropWhile test ≠ [] := by simp [stopped]
      have fails := List.head_dropWhile_not test nonempty
      simp only [stopped, List.head_cons] at fails
      exact .inr ⟨next, rest, rfl, fails⟩

theorem lexeme_numberLength {first : Glyph} {rest : List Glyph} (digit : first.isDigit) :
    Lexeme .number (first :: rest.take (numberLength rest)) := by
  simp only [numberLength]
  split
  · rename_i point place more dropped
    split
    · rename_i fraction
      rw [Bool.and_eq_true, is_iff (show '.' ≠ '\uFFFD' by decide)] at fraction
      rcases fraction with ⟨rfl, placed⟩
      have taken : rest.take (run Glyph.isDigit rest + 2 + run Glyph.isDigit more) =
          rest.take (run Glyph.isDigit rest) ++
            char '.' :: place :: more.take (run Glyph.isDigit more) := by
        rw [Nat.add_assoc, List.take_add, dropped, Nat.add_comm 2]
        rfl
      rw [taken]
      exact .fraction digit passes_of_mem_take_run placed passes_of_mem_take_run
    · exact .whole digit passes_of_mem_take_run
  · exact .whole digit passes_of_mem_take_run

theorem run_le_numberLength (rest : List Glyph) : run Glyph.isDigit rest ≤ numberLength rest := by
  simp only [numberLength]
  split
  · split
    · omega
    · exact Nat.le_refl _
  · exact Nat.le_refl _

theorem length_le_numberLength {kind : TokenKind} {first : Glyph} {tail rest : List Glyph}
    (digit : first.isDigit) (isLexeme : Lexeme kind (first :: tail)) (starts : tail <+: rest) :
    tail.length ≤ numberLength rest := by
  rcases isLexeme.tail_of_digit digit with
    allDigits | ⟨digits, place, places, rfl, areDigits, placed, ends⟩
  · exact Nat.le_trans (length_le_run allDigits starts) (run_le_numberLength rest)
  · rcases starts with ⟨later, rfl⟩
    have stops : run Glyph.isDigit (digits ++ char '.' :: place :: (places ++ later)) =
        digits.length := by
      rw [run_append areDigits]
      rfl
    have reaches := length_le_run ends (List.prefix_append places later)
    simp only [List.append_assoc, List.cons_append, numberLength, stops, List.drop_left']
    simp only [placed, is, scalar, decide_true, Bool.and_true, if_true, List.length_append,
      List.length_cons]
    omega

/-- A token stands where nothing that starts with its first glyph reaches further. -/
theorem stands_token {kind : TokenKind} {first : Glyph} {rest : List Glyph} {length : Nat}
    (isLexeme : Lexeme kind (first :: rest.take length))
    (noComment : ¬spell "//" <+: first :: rest ∧ ¬spell "/*" <+: first :: rest)
    (longest : ∀ other tail, Lexeme other (first :: tail) → tail <+: rest →
      tail.length ≤ length ∨
        SplitsNotIn (first :: rest.take length) (first :: tail) (rest.drop length))
    (whole : kind = .bangIn →
      ∀ next more, rest.drop length = next :: more → ¬next.continuesName) :
    Stands ⟨.token kind, first :: rest.take length⟩ (rest.drop length) := by
  have joined : first :: rest.take length ++ rest.drop length = first :: rest := by simp
  refine .token isLexeme (by rwa [joined]) ?_ whole
  intro other longer isOther starts
  rw [joined] at starts
  cases longer with
  | nil => exact absurd rfl isOther.ne_nil
  | cons head tail =>
      rcases List.cons_prefix_cons.mp starts with ⟨rfl, within⟩
      rcases longest other tail isOther within with short | splits
      · have fits := within.length_le
        left
        simp only [List.length_cons, List.length_take]
        omega
      · exact .inr splits

theorem noComment_of_ne_slash {first : Glyph} {rest : List Glyph} (noSlash : first ≠ char '/') :
    ¬spell "//" <+: first :: rest ∧ ¬spell "/*" <+: first :: rest := by
  constructor
  · intro starts
    exact noSlash (List.cons_prefix_cons.mp starts).1.symm
  · intro starts
    exact noSlash (List.cons_prefix_cons.mp starts).1.symm

theorem stands_number {first : Glyph} {rest : List Glyph} (digit : first.isDigit) :
    Stands ⟨.token .number, first :: rest.take (numberLength rest)⟩
      (rest.drop (numberLength rest)) := by
  refine stands_token (lexeme_numberLength digit) (noComment_of_ne_slash ?_) ?_ ?_
  · rintro rfl
    cases digit
  · intro other tail isOther starts
    exact .inl (length_le_numberLength digit isOther starts)
  · intro same
    cases same

theorem nameKind_ne_bangIn (name : Text) : nameKind name ≠ .bangIn := by
  unfold nameKind
  split <;> simp

theorem stands_name {first : Glyph} {rest : List Glyph} (starts : first.startsName) :
    Stands ⟨.token (nameKind (Glyph.join (first :: rest.take (run Glyph.continuesName rest)))),
      first :: rest.take (run Glyph.continuesName rest)⟩
      (rest.drop (run Glyph.continuesName rest)) := by
  refine stands_token (lexeme_nameKind starts passes_of_mem_take_run)
    (noComment_of_ne_slash ?_) ?_ ?_
  · rintro rfl
    exact absurd starts (by decide +kernel)
  · intro other tail isOther within
    exact .inl (length_le_run (isOther.tail_of_startsName starts) within)
  · intro same
    exact absurd same (nameKind_ne_bangIn _)

theorem stands_afterQuote (rest : List Glyph) :
    Stands ⟨(afterQuote rest).1, char '"' :: rest.take (afterQuote rest).2⟩
      (rest.drop (afterQuote rest).2) := by
  have isQuote (glyph : Glyph) : (!glyph.is '"') = true ↔ glyph ≠ char '"' := by
    rw [Bool.not_eq_true', ← Bool.not_eq_true, is_iff (by decide)]
  have unquoted : ∀ glyph ∈ rest.take (run (fun glyph => !glyph.is '"') rest), glyph ≠ char '"' :=
    fun glyph member => (isQuote glyph).mp (passes_of_mem_take_run glyph member)
  simp only [afterQuote]
  split
  · rename_i closed
    rcases drop_run_cases (fun glyph => !glyph.is '"') rest with ended | ⟨next, more, behind, fails⟩
    · rw [List.drop_eq_nil_iff] at ended
      omega
    have quote : next = char '"' := by
      by_contra other
      rw [(isQuote next).mpr other] at fails
      cases fails
    subst quote
    have taken : rest.take (run (fun glyph => !glyph.is '"') rest + 1) =
        rest.take (run (fun glyph => !glyph.is '"') rest) ++ [char '"'] := by
      rw [List.take_add, behind]
      rfl
    refine stands_token ?_ (noComment_of_ne_slash (by decide)) ?_ (by simp)
    · rw [taken]
      exact .string unquoted
    · intro other tail isOther starts
      rcases isOther.tail_of_quote with ⟨content, rfl, isContent⟩
      have passes : ∀ glyph ∈ content, (!glyph.is '"') = true :=
        fun glyph member => (isQuote glyph).mpr (isContent glyph member)
      have short := length_le_run passes ((List.prefix_append content _).trans starts)
      left
      simp only [List.length_append, List.length_singleton]
      omega
  · rename_i unclosed
    have ended : rest.drop (run (fun glyph => !glyph.is '"') rest) = [] := by
      rw [List.drop_eq_nil_iff]
      omega
    rw [ended]
    exact .openString unquoted

theorem stands_slash {rest : List Glyph}
    (noComment : ¬spell "//" <+: char '/' :: rest ∧ ¬spell "/*" <+: char '/' :: rest) :
    Stands ⟨.token .slash, char '/' :: rest.take 0⟩ (rest.drop 0) := by
  refine stands_token (@Lexeme.mark_ofList .slash ['/'] (by decide)) noComment ?_ (by simp)
  intro other tail isOther starts
  rcases isOther.tail_of_mark_head (by decide) (by decide) (by decide +kernel) with
    ⟨known, -⟩ | ⟨known, -⟩ | ⟨-, rfl⟩ | ⟨known, -⟩
  · cases known
  · cases known
  · exact .inl (Nat.le_refl 0)
  · cases known

theorem not_blockComment_of_unclosed {content glyphs : List Glyph}
    (unclosed : commentLength? 1 content = none) (starts : glyphs <+: spell "/*" ++ content) :
    ¬BlockComment glyphs := by
  rintro ⟨inner, balanced, opens⟩
  rcases exists_of_delimiters_eq_opening opens with ⟨front, rfl⟩
  have within : front <+: content := (List.prefix_append_right_inj _).mp starts
  have closed : commentLength? 1 content = some front.length := by
    rw [commentLength?_eq_some_iff, ← List.prefix_iff_eq_take.mp within]
    exact ⟨within.length_le, blockComment_iff.mp ⟨inner, balanced, opens⟩⟩
  rw [unclosed] at closed
  cases closed

theorem stands_afterSlash (rest : List Glyph) :
    Stands ⟨(afterSlash rest).1, char '/' :: rest.take (afterSlash rest).2⟩
      (rest.drop (afterSlash rest).2) := by
  cases rest with
  | nil => exact stands_slash (by decide)
  | cons next more =>
      simp only [afterSlash]
      split
      · rename_i slash
        rw [is_iff (by decide)] at slash
        subst slash
        rw [Nat.add_comm, List.take_succ_cons, List.drop_succ_cons]
        refine .lineComment ?_ ?_
        · intro glyph member newline
          have passes := passes_of_mem_take_run glyph member
          subst newline
          cases passes
        · rcases drop_run_cases (fun glyph => !glyph.is '\n') more with
            ended | ⟨after, later, behind, fails⟩
          · exact .inl ended
          · rw [Bool.not_eq_false', is_iff (by decide)] at fails
            subst fails
            exact .inr ⟨later, behind⟩
      split
      · rename_i star
        rw [is_iff (by decide)] at star
        subst star
        split
        · rename_i length found
          rw [commentLength?_eq_some_iff] at found
          rw [Nat.add_comm, List.take_succ_cons, List.drop_succ_cons]
          exact .blockComment (blockComment_iff.mpr found.2)
        · rename_i unclosed
          rw [Nat.add_comm, List.take_succ_cons, List.drop_succ_cons, List.take_length,
            List.drop_length]
          exact .openComment fun glyphs => not_blockComment_of_unclosed unclosed
      · rename_i noSlash noStar
        rw [is_iff (by decide)] at noSlash noStar
        refine stands_slash ⟨?_, ?_⟩
        · intro starts
          exact noSlash (List.cons_prefix_cons.mp (List.cons_prefix_cons.mp starts).2).1.symm
        · intro starts
          exact noStar (List.cons_prefix_cons.mp (List.cons_prefix_cons.mp starts).2).1.symm

theorem tail_of_bang {kind : TokenKind} {tail : List Glyph}
    (isLexeme : Lexeme kind (char '!' :: tail)) :
    tail = [] ∨ tail = [char '='] ∨ tail = [char 'i', char 'n'] := by
  rcases isLexeme.tail_of_mark_head (by decide) (by decide) (by decide +kernel) with
    ⟨known, -⟩ | ⟨known, -⟩ | ⟨known, -⟩ | ⟨-, possible⟩
  · cases known
  · cases known
  · cases known
  · exact possible

theorem stands_bang {rest : List Glyph} (noEqual : ∀ more, rest ≠ char '=' :: more)
    (noIn : ∀ after, rest = char 'i' :: char 'n' :: after →
      ∃ next later, after = next :: later ∧ next.continuesName) :
    Stands ⟨.token .bang, char '!' :: rest.take 0⟩ (rest.drop 0) := by
  refine stands_token (@Lexeme.mark_ofList .bang ['!'] (by decide))
    (noComment_of_ne_slash (by decide)) ?_ (by simp)
  rintro other tail isOther ⟨behind, rfl⟩
  rcases tail_of_bang isOther with rfl | rfl | rfl
  · exact .inl (Nat.le_refl 0)
  · exact absurd rfl (noEqual behind)
  · rcases noIn behind rfl with ⟨next, later, rfl, continues⟩
    exact .inr ⟨rfl, rfl, next, later, rfl, continues⟩

theorem stands_afterBang (rest : List Glyph) :
    Stands ⟨.token (afterBang rest).1, char '!' :: rest.take (afterBang rest).2⟩
      (rest.drop (afterBang rest).2) := by
  fun_cases afterBang rest with
  | case1 first more equal =>
      rw [is_iff (by decide)] at equal
      subst equal
      refine stands_token (@Lexeme.mark_ofList .bangEqual ['!', '='] (by decide))
        (noComment_of_ne_slash (by decide)) ?_ (by simp)
      intro other tail isOther starts
      rcases tail_of_bang isOther with rfl | rfl | rfl
      · simp
      · simp
      · have equalHead := (List.cons_prefix_cons.mp starts).1
        simp at equalHead
  | case2 first noEqual second after word =>
      simp only [Bool.and_eq_true, Bool.not_eq_true', is_iff (show 'i' ≠ '\uFFFD' by decide),
        is_iff (show 'n' ≠ '\uFFFD' by decide)] at word
      rcases word with ⟨⟨rfl, rfl⟩, ends⟩
      refine stands_token (@Lexeme.mark_ofList .bangIn ['!', 'i', 'n'] (by decide))
        (noComment_of_ne_slash (by decide)) ?_ ?_
      · intro other tail isOther starts
        rcases tail_of_bang isOther with rfl | rfl | rfl <;> simp
      · rintro - next more rfl
        simpa using ends
  | case3 first noEqual second after noWord =>
      refine stands_bang ?_ ?_
      · rintro more same
        cases same
        exact noEqual rfl
      · rintro behind same
        cases same
        cases after with
        | nil => exact absurd rfl noWord
        | cons next later =>
            refine ⟨next, later, rfl, ?_⟩
            simpa [is, scalar] using noWord
  | case4 first noEqual =>
      refine stands_bang ?_ ?_
      · rintro more same
        cases same
        exact noEqual rfl
      · rintro behind same
        cases same
  | case5 =>
      refine stands_bang ?_ ?_
      · rintro more same
        cases same
      · rintro behind same
        cases same

theorem mark?_alone {character : Char} {kind : TokenKind}
    (found : mark? character = some kind) : comparison? character = none ∧ kind ≠ .bangIn := by
  unfold mark? at found
  split at found
  all_goals cases found
  all_goals exact ⟨rfl, by decide⟩

theorem comparison?_ne_bangIn {character : Char} {alone withEqual : TokenKind}
    (found : comparison? character = some (alone, withEqual)) :
    alone ≠ .bangIn ∧ withEqual ≠ .bangIn := by
  unfold comparison? at found
  split at found
  all_goals cases found
  all_goals decide

/-- What a glyph is not that can only be a mark, alone or in front of an equals sign. -/
structure Remaining (first : Glyph) : Prop where
  noBang : first ≠ char '!'
  noSlash : first ≠ char '/'
  noQuote : first ≠ char '"'
  noDigit : first.isDigit = false
  noName : first.startsName = false

theorem Remaining.tail_of_lexeme {kind : TokenKind} {first : Glyph} {tail : List Glyph}
    (remaining : Remaining first) (isLexeme : Lexeme kind (first :: tail)) :
    (mark? first.scalar).isSome ∧ tail = [] ∨
      (comparison? first.scalar).isSome ∧ (tail = [] ∨ tail = [char '=']) := by
  rcases isLexeme.tail_of_mark_head remaining.noDigit remaining.noQuote remaining.noName with
    isMark | isComparison | ⟨slash, -⟩ | ⟨bang, -⟩
  · exact .inl isMark
  · exact .inr isComparison
  · exact absurd slash remaining.noSlash
  · exact absurd bang remaining.noBang

theorem eq_char_of_scalar_ne {glyph : Glyph} (known : glyph.scalar ≠ '\uFFFD') :
    glyph = char glyph.scalar := by
  cases glyph with
  | char character => rfl
  | stray byte => exact absurd rfl known

theorem stands_mark {first : Glyph} {kind : TokenKind} {rest : List Glyph}
    (remaining : Remaining first) (found : mark? first.scalar = some kind) :
    Stands ⟨.token kind, first :: rest.take 0⟩ (rest.drop 0) := by
  have isChar : first = char first.scalar := by
    apply eq_char_of_scalar_ne
    intro replaced
    rw [replaced] at found
    cases found
  have isLexeme := lexeme_of_mark? found
  rw [← isChar] at isLexeme
  rcases mark?_alone found with ⟨noComparison, noBangIn⟩
  refine stands_token isLexeme (noComment_of_ne_slash remaining.noSlash) ?_
    (fun same => absurd same noBangIn)
  intro other tail isOther starts
  rcases remaining.tail_of_lexeme isOther with ⟨-, rfl⟩ | ⟨known, -⟩
  · exact .inl (Nat.le_refl 0)
  · rw [noComparison] at known
    cases known

theorem stands_comparison {first : Glyph} {alone withEqual : TokenKind} {rest : List Glyph}
    (remaining : Remaining first) (found : comparison? first.scalar = some (alone, withEqual)) :
    if rest.head?.any (Glyph.is '=') then
      Stands ⟨.token withEqual, first :: rest.take 1⟩ (rest.drop 1)
    else
      Stands ⟨.token alone, first :: rest.take 0⟩ (rest.drop 0) := by
  have isChar : first = char first.scalar := by
    apply eq_char_of_scalar_ne
    intro replaced
    rw [replaced] at found
    cases found
  have isLexeme := lexeme_of_comparison? found
  rw [← isChar] at isLexeme
  have noBangIn := comparison?_ne_bangIn found
  have tails {other : TokenKind} {tail : List Glyph} (isOther : Lexeme other (first :: tail)) :
      tail = [] ∨ tail = [char '='] := by
    rcases remaining.tail_of_lexeme isOther with ⟨-, rfl⟩ | ⟨-, possible⟩
    · exact .inl rfl
    · exact possible
  cases rest with
  | nil =>
      refine stands_token isLexeme.1 (noComment_of_ne_slash remaining.noSlash) ?_
        (fun same => absurd same noBangIn.1)
      intro other tail isOther starts
      exact .inl (Nat.le_of_eq (congrArg List.length (List.prefix_nil.mp starts)))
  | cons next more =>
      simp only [List.head?_cons, Option.any_some, is_iff (show '=' ≠ '\uFFFD' by decide)]
      split
      · rename_i equal
        subst equal
        refine stands_token isLexeme.2 (noComment_of_ne_slash remaining.noSlash) ?_
          (fun same => absurd same noBangIn.2)
        intro other tail isOther starts
        rcases tails isOther with rfl | rfl <;> simp
      · rename_i noEqual
        refine stands_token isLexeme.1 (noComment_of_ne_slash remaining.noSlash) ?_
          (fun same => absurd same noBangIn.1)
        intro other tail isOther starts
        rcases tails isOther with rfl | rfl
        · simp
        · exact absurd (List.cons_prefix_cons.mp starts).1.symm noEqual

theorem isBlank_iff {character : Char} :
    isBlank character ↔ character ∈ [' ', '\t', '\r', '\n'] := by
  simp [isBlank, or_assoc]

theorem stands_blank {first : Glyph} {rest : List Glyph} (blank : isBlank first.scalar) :
    Stands ⟨.blank, first :: rest.take 0⟩ (rest.drop 0) := by
  have isChar : first = char first.scalar := by
    apply eq_char_of_scalar_ne
    intro replaced
    rw [replaced] at blank
    cases blank
  rw [isChar]
  exact .blank (isBlank_iff.mp blank)

theorem stands_unexpected {first : Glyph} {rest : List Glyph} (remaining : Remaining first)
    (noBlank : isBlank first.scalar = false) (noMark : mark? first.scalar = none)
    (noComparison : comparison? first.scalar = none) :
    Stands ⟨.unexpected, first :: rest.take 0⟩ (rest.drop 0) := by
  refine .unexpected ?_ (noComment_of_ne_slash remaining.noSlash) remaining.noQuote ?_
  · rintro character member rfl
    rw [← isBlank_iff] at member
    rw [scalar, member] at noBlank
    cases noBlank
  · intro kind lexeme isLexeme starts
    cases lexeme with
    | nil => exact absurd rfl isLexeme.ne_nil
    | cons head tail =>
        rcases List.cons_prefix_cons.mp starts with ⟨rfl, -⟩
        rcases remaining.tail_of_lexeme isLexeme with ⟨known, -⟩ | ⟨known, -⟩
        · rw [noMark] at known
          cases known
        · rw [noComparison] at known
          cases known

/-- Whatever the scanner takes for the next segment may stand there. -/
theorem stands_extent (first : Glyph) (rest : List Glyph) :
    Stands ⟨(extent first rest).1, first :: rest.take (extent first rest).2⟩
      (rest.drop (extent first rest).2) := by
  unfold extent
  split
  · rename_i blank
    exact stands_blank blank
  rename_i noBlank
  split
  · rename_i bang
    rw [is_iff (by decide)] at bang
    subst bang
    exact stands_afterBang rest
  rename_i noBang
  split
  · rename_i slash
    rw [is_iff (by decide)] at slash
    subst slash
    exact stands_afterSlash rest
  rename_i noSlash
  split
  · rename_i quote
    rw [is_iff (by decide)] at quote
    subst quote
    exact stands_afterQuote rest
  rename_i noQuote
  split
  · rename_i digit
    exact stands_number digit
  rename_i noDigit
  split
  · rename_i name
    exact stands_name name
  rename_i noName
  rw [is_iff (by decide)] at noBang noSlash noQuote
  rw [Bool.not_eq_true] at noBlank noDigit noName
  have remaining : Remaining first := ⟨noBang, noSlash, noQuote, noDigit, noName⟩
  split
  · rename_i kind other found
    exact stands_mark remaining found
  · rename_i alone withEqual noMark found
    have stands := @stands_comparison _ _ _ rest remaining found
    split
    · rename_i equal
      rwa [if_pos equal] at stands
    · rename_i noEqual
      rwa [if_neg noEqual] at stands
  · rename_i noMark noComparison
    exact stands_unexpected remaining noBlank noMark noComparison

end Segment

end Scriptlet
