import Mathlib.Data.List.DropRight
import Scriptlet.Proofs.Text.Lines
import Scriptlet.Proofs.Text.Units
import Scriptlet.Server.Word

/-!
# The word at a place

Editors name a place by an offset in code units, which may lie outside the line or inside a
character; it counts as the next boundary between characters, or as an end of the line. The word
found there is the longest run of word characters that touches the place, on either side. Behind a
line that ends with another character it is the run that touches the place before that character.
-/

namespace Scriptlet.Word

/-- The offset in UTF-16 code units behind some characters. -/
def units (characters : List Char) : Nat :=
  (characters.flatMap Text.utf16OfChar).length

theorem units_append (front back : List Char) :
    units (front ++ back) = units front + units back := by
  simp only [units, List.flatMap_append, List.length_append]

theorem units_cons (character : Char) (rest : List Char) :
    units (character :: rest) = (Glyph.char character).units + units rest := by
  have here : (Text.utf16OfChar character).length = (Glyph.char character).units := by
    unfold Text.utf16OfChar Glyph.units Glyph.scalar
    dsimp only
    split <;> rfl
  rw [units, List.flatMap_cons, List.length_append, here, units]

theorem units_pos {characters : List Char} (filled : characters ≠ []) : 0 < units characters := by
  cases characters with
  | nil => exact absurd rfl filled
  | cons character rest =>
      have positive : 0 < (Glyph.char character).units := by
        unfold Glyph.units
        split <;> decide
      rw [units_cons]
      omega

theorem units_le_of_prefix {front characters : List Char} (starts : front <+: characters) :
    units front ≤ units characters := by
  rcases starts with ⟨back, rfl⟩
  rw [units_append]
  omega

/-- Boundaries between characters lie in their order. -/
theorem units_le_iff {front other characters : List Char} (starts : front <+: characters)
    (otherStarts : other <+: characters) :
    units front ≤ units other ↔ front.length ≤ other.length := by
  rcases List.prefix_or_prefix_of_prefix starts otherStarts with ⟨more, rfl⟩ | ⟨more, rfl⟩
  · rw [units_append, List.length_append]
    omega
  · rw [units_append, List.length_append]
    rcases eq_or_ne more [] with rfl | filled
    · simp [units]
    · have positive := units_pos filled
      have some := List.length_pos_iff.mpr filled
      omega

section

variable {front characters : List Char} {index : Nat}

theorem units_le_take_iff (starts : front <+: characters) (within : index ≤ characters.length) :
    units front ≤ units (characters.take index) ↔ front.length ≤ index := by
  rw [units_le_iff starts (List.take_prefix index characters), List.length_take,
    Nat.min_eq_left within]

theorem units_take_le_iff (starts : front <+: characters) (within : index ≤ characters.length) :
    units (characters.take index) ≤ units front ↔ index ≤ front.length := by
  rw [units_le_iff (List.take_prefix index characters) starts, List.length_take,
    Nat.min_eq_left within]

theorem units_eq_take_iff (starts : front <+: characters) (within : index ≤ characters.length) :
    units front = units (characters.take index) ↔ front.length = index := by
  rw [Nat.le_antisymm_iff, units_le_take_iff starts within, units_take_le_iff starts within,
    ← Nat.le_antisymm_iff]

end

/-- The place that an offset names among some characters: the first boundary between them that is
not before the offset, if this is brought between the ends of the line. -/
structure IsPlace (characters : List Char) (offset : Int) (place : Nat) : Prop where
  boundary : ∃ front, front <+: characters ∧ units front = place
  reached : max 0 (min offset (units characters)) ≤ place
  least : ∀ front, front <+: characters →
    max 0 (min offset (units characters)) ≤ units front → place ≤ units front

theorem boundary_le (offset : Int) (used : Nat) (characters : List Char) :
    boundary offset used characters ≤ characters.length := by
  induction characters generalizing used with
  | nil => exact Nat.le_refl 0
  | cons character rest ih =>
      have later := ih (used + (Glyph.char character).units)
      rw [boundary, List.length_cons]
      split <;> omega

theorem lt_of_lt_boundary {offset : Int} {used index : Nat} {characters : List Char}
    (before : index < boundary offset used characters) :
    (used + units (characters.take index) : Int) < offset := by
  induction characters generalizing used index with
  | nil => exact absurd before (Nat.not_lt_zero index)
  | cons character rest ih =>
      rw [boundary] at before
      split at before
      · rename_i goesOn
        cases index with
        | zero => simpa [units] using goesOn
        | succ index =>
            have later := @ih (used + (Glyph.char character).units) index (by omega)
            rw [List.take_succ_cons, units_cons]
            omega
      · exact absurd before (Nat.not_lt_zero index)

theorem le_of_boundary_lt {offset : Int} {used : Nat} {characters : List Char}
    (inside : boundary offset used characters < characters.length) :
    offset ≤ used + units (characters.take (boundary offset used characters)) := by
  induction characters generalizing used with
  | nil => exact absurd inside (Nat.not_lt_zero _)
  | cons character rest ih =>
      rw [boundary] at inside ⊢
      split
      · rename_i goesOn
        rw [if_pos goesOn, List.length_cons] at inside
        have later := @ih (used + (Glyph.char character).units) (by omega)
        rw [Nat.add_comm 1, List.take_succ_cons, units_cons]
        omega
      · rename_i stops
        rw [List.take_zero]
        simp only [units, List.flatMap_nil, List.length_nil]
        omega

theorem isPlace_boundary (characters : List Char) (offset : Int) :
    IsPlace characters offset (units (characters.take (boundary offset 0 characters))) := by
  have starts := List.take_prefix (boundary offset 0 characters) characters
  have length_le := boundary_le offset 0 characters
  refine ⟨⟨_, starts, rfl⟩, ?_, ?_⟩
  · rcases Nat.lt_or_eq_of_le length_le with inside | whole
    · have reached := le_of_boundary_lt inside
      omega
    · rw [whole, List.take_length]
      omega
  · intro front frontStarts reached
    by_contra before
    have within := units_le_of_prefix starts
    have earlier := before
    rw [units_take_le_iff frontStarts length_le, Nat.not_le] at earlier
    have unreached := lt_of_lt_boundary earlier
    rw [← List.prefix_iff_eq_take.mp frontStarts] at unreached
    omega

/-- A longest run of word characters, between what stands before and behind it. -/
structure IsRun (characters before word after : List Char) : Prop where
  parts : characters = before ++ word ++ after
  filled : word ≠ []
  isWord : ∀ character ∈ word, isPart character
  starts : ∀ character, before.getLast? = some character → ¬isPart character
  ends : ∀ character, after.head? = some character → ¬isPart character

theorem IsRun.any_isPart {characters before word after : List Char} {index : Nat}
    (run : IsRun characters before word after) (behind : before.length ≤ index)
    (inside : index < before.length + word.length) : (characters[index]?).any isPart := by
  rw [run.parts, List.append_assoc, List.getElem?_append_right behind,
    List.getElem?_append_left (by omega), List.getElem?_eq_getElem (by omega)]
  exact run.isWord _ (List.getElem_mem _)

/-- The run that holds the character at an index is the word around it. -/
theorem IsRun.around_eq {characters before word after : List Char} {index : Nat}
    (run : IsRun characters before word after) (behind : before.length ≤ index)
    (inside : index < before.length + word.length) : around characters index = word := by
  rcases Nat.exists_eq_add_of_le behind with ⟨place, rfl⟩
  have front : characters.take (before.length + place) = before ++ word.take place := by
    rw [run.parts, List.append_assoc, List.take_length_add_append,
      List.take_append_of_le_length (by omega)]
  have back : characters.drop (before.length + place) = word.drop place ++ after := by
    rw [run.parts, List.append_assoc, List.drop_length_add_append,
      List.drop_append_of_le_length (by omega)]
  have frontIsWord : ∀ character ∈ (word.take place).reverse, isPart character :=
    fun character member =>
      run.isWord character (List.mem_of_mem_take (List.mem_reverse.mp member))
  have backIsWord : ∀ character ∈ word.drop place, isPart character :=
    fun character member => run.isWord character (List.mem_of_mem_drop member)
  have startsThere : before.reverse.takeWhile isPart = [] := by
    rw [List.takeWhile_eq_nil_iff]
    intro nonempty
    apply run.starts
    rw [← List.head?_reverse, List.head?_eq_getElem?, List.getElem?_eq_getElem]
    rfl
  have endsThere : after.takeWhile isPart = [] := by
    rw [List.takeWhile_eq_nil_iff]
    intro nonempty
    apply run.ends
    rw [List.head?_eq_getElem?, List.getElem?_eq_getElem]
    rfl
  rw [around, front, back, List.reverse_append, List.takeWhile_append_of_pos frontIsWord,
    List.takeWhile_append_of_pos backIsWord, startsThere, endsThere, List.append_nil,
    List.append_nil, List.reverse_reverse, List.take_append_drop]

/-- Every word character lies in a run. -/
theorem exists_isRun {characters : List Char} {character : Char} {index : Nat}
    (found : characters[index]? = some character) (part : isPart character) :
    ∃ before word after, IsRun characters before word after ∧ before.length ≤ index ∧
      index < before.length + word.length := by
  rcases List.getElem?_eq_some_iff.mp found with ⟨inside, rfl⟩
  have parts := List.take_append_drop index characters
  have length_take : (characters.take index).length = index := by
    rw [List.length_take]
    omega
  have here : (characters.drop index).takeWhile isPart =
      characters[index] :: (characters.drop (index + 1)).takeWhile isPart := by
    rw [List.drop_eq_getElem_cons inside, List.takeWhile_cons_of_pos part]
  generalize characters.take index = front, characters.drop index = back
    at parts length_take here
  have frontParts : front.rdropWhile isPart ++ front.rtakeWhile isPart = front :=
    List.rdropWhile_append_rtakeWhile
  have lengths := congrArg List.length frontParts
  rw [List.length_append, length_take] at lengths
  refine ⟨front.rdropWhile isPart, front.rtakeWhile isPart ++ back.takeWhile isPart,
    back.dropWhile isPart, ⟨?_, ?_, ?_, ?_, ?_⟩, by omega, ?_⟩
  · rw [← List.append_assoc, frontParts, List.append_assoc, List.takeWhile_append_dropWhile, parts]
  · simp [here]
  · intro character member
    rcases List.mem_append.mp member with inFront | inBack
    · exact List.mem_rtakeWhile_imp inFront
    · exact List.mem_takeWhile_imp inBack
  · intro character last
    exact Text.not_of_getLast?_rdropWhile last
  · intro character first
    have stops := List.head?_dropWhile_not isPart back
    rw [first] at stops
    simpa using stops
  · rw [List.length_append, here, List.length_cons]
    omega

/-- Only one run touches a place. -/
theorem IsRun.unique {characters before word after otherBefore otherWord otherAfter : List Char}
    (run : IsRun characters before word after)
    (other : IsRun characters otherBefore otherWord otherAfter)
    (touches : units otherBefore ≤ units (before ++ word))
    (otherTouches : units before ≤ units (otherBefore ++ otherWord)) : word = otherWord := by
  wlog ordered : before.length ≤ otherBefore.length generalizing before word after otherBefore
    otherWord otherAfter
  · exact (this other run otherTouches touches (Nat.le_of_not_le ordered)).symm
  have wordStarts : before ++ word <+: characters := ⟨after, run.parts.symm⟩
  have otherStarts : otherBefore <+: characters :=
    ⟨otherWord ++ otherAfter, by rw [other.parts, List.append_assoc]⟩
  have reaches := (units_le_iff otherStarts wordStarts).mp touches
  have otherFilled := List.length_pos_iff.mpr other.filled
  rw [List.length_append] at reaches
  rcases Nat.lt_or_eq_of_le reaches with inside | adjacent
  · rw [← run.around_eq ordered inside, ← other.around_eq (Nat.le_refl _) (by omega)]
  · -- The first character of the other run would follow this one.
    exfalso
    have parts := run.parts.symm.trans other.parts
    rw [List.append_assoc otherBefore] at parts
    have follows := (List.append_inj parts (by rw [List.length_append, adjacent])).2
    rcases List.exists_cons_of_ne_nil other.filled with ⟨first, rest, starts⟩
    refine run.ends first ?_ (other.isWord first (by simp [starts]))
    rw [follows, starts]
    rfl

/-- A word character that ends or starts at a place. -/
def Adjoins (characters : List Char) (place : Nat) : Prop :=
  ∃ front character back, characters = front ++ character :: back ∧ isPart character ∧
    (units front = place ∨ units (front ++ [character]) = place)

/-- What is found at a place: the longest run of word characters that touches it, or nothing if no
word character does. -/
structure Finds (characters : List Char) (place : Nat) (found : Text) : Prop where
  run : Adjoins characters place → ∃ before word after, IsRun characters before word after ∧
    units before ≤ place ∧ place ≤ units (before ++ word) ∧ found = Text.ofChars word
  only : ∀ before word after, IsRun characters before word after → units before ≤ place →
    place ≤ units (before ++ word) → found = Text.ofChars word
  nothing : ¬Adjoins characters place → found = []

section

variable {characters : List Char} {index place : Nat}

theorem adjoins_of_part {character : Char} (found : characters[index]? = some character)
    (part : isPart character) (touches : index = place ∨ index + 1 = place) :
    Adjoins characters (units (characters.take place)) := by
  rcases List.getElem?_eq_some_iff.mp found with ⟨inside, here⟩
  have parts := List.take_append_drop index characters
  rw [List.drop_eq_getElem_cons inside, here] at parts
  refine ⟨_, _, _, parts.symm, part, ?_⟩
  rcases touches with rfl | rfl
  · exact .inl rfl
  · rw [← here, List.take_append_getElem]
    exact .inr rfl

theorem finds_of_part {character : Char} (found : characters[index]? = some character)
    (part : isPart character) (touches : index = place ∨ index + 1 = place) :
    Finds characters (units (characters.take place)) (Text.ofChars (around characters index)) := by
  have inside := (List.getElem?_eq_some_iff.mp found).1
  have within : place ≤ characters.length := by omega
  rcases exists_isRun found part with ⟨before, word, after, isRun, behind, holds⟩
  have wordStarts : before ++ word <+: characters := ⟨after, isRun.parts.symm⟩
  have beforeStarts : before <+: characters := (List.prefix_append before word).trans wordStarts
  have reached : units before ≤ units (characters.take place) := by
    rw [units_le_take_iff beforeStarts within]
    omega
  have reaches : units (characters.take place) ≤ units (before ++ word) := by
    rw [units_take_le_iff wordStarts within, List.length_append]
    omega
  have answer := isRun.around_eq behind holds
  refine ⟨fun _ => ⟨before, word, after, isRun, reached, reaches, by rw [answer]⟩, ?_,
    fun alone => absurd (adjoins_of_part found part touches) alone⟩
  intro otherBefore otherWord otherAfter other otherReached otherReaches
  rw [answer, isRun.unique other (Nat.le_trans otherReached reaches)
    (Nat.le_trans reached otherReaches)]

theorem not_adjoins (within : place ≤ characters.length)
    (noneBehind : ¬(characters[place]?).any isPart)
    (noneBefore : place ≠ 0 → ¬(characters[place - 1]?).any isPart) :
    ¬Adjoins characters (units (characters.take place)) := by
  rintro ⟨front, character, back, rfl, part, touches⟩
  rcases touches with starting | ending
  · have here := (units_eq_take_iff (List.prefix_append _ _) within).mp starting
    apply noneBehind
    rw [← here, List.getElem?_append_right (Nat.le_refl _), Nat.sub_self]
    exact part
  · have frontStarts : front ++ [character] <+: front ++ character :: back :=
      ⟨back, by rw [List.append_assoc, List.singleton_append]⟩
    have here := (units_eq_take_iff frontStarts within).mp ending
    rw [List.length_append, List.length_singleton] at here
    apply noneBefore (by omega)
    rw [← here, Nat.add_sub_cancel, List.getElem?_append_right (Nat.le_refl _), Nat.sub_self]
    exact part

theorem finds_nothing (within : place ≤ characters.length)
    (noneBehind : ¬(characters[place]?).any isPart)
    (noneBefore : place ≠ 0 → ¬(characters[place - 1]?).any isPart) :
    Finds characters (units (characters.take place)) [] := by
  have alone := not_adjoins within noneBehind noneBefore
  refine ⟨fun adjoins => absurd adjoins alone, ?_, fun _ => rfl⟩
  intro before word after run reached reaches
  exfalso
  have wordStarts : before ++ word <+: characters := ⟨after, run.parts.symm⟩
  have beforeStarts : before <+: characters := (List.prefix_append before word).trans wordStarts
  rw [units_le_take_iff beforeStarts within] at reached
  rw [units_take_le_iff wordStarts within, List.length_append] at reaches
  have filled := List.length_pos_iff.mpr run.filled
  rcases Nat.lt_or_eq_of_le reaches with inside | atEnd
  · exact noneBehind (run.any_isPart reached inside)
  · exact noneBefore (by omega) (run.any_isPart (by omega) (by omega))

end

/-- The boundary that is looked at: the one before the last character behind a line that ends with
no word character, and any other itself. -/
def seen (characters : List Char) (index : Nat) : Nat :=
  if index = characters.length ∧ ¬(characters.getLast?).any isPart then characters.length - 1
  else index

/-- The character that is found is the one behind the boundary that is looked at, or else the one
before it. -/
theorem touching?_eq {characters : List Char} {place : Nat} (within : place ≤ characters.length) :
    touching? characters place =
      let index := seen characters place
      if (characters[index]?).any isPart then some index
      else if index ≠ 0 ∧ (characters[index - 1]?).any isPart then some (index - 1)
      else none := by
  rw [touching?]
  dsimp only
  rcases Nat.lt_or_eq_of_le within with inside | rfl
  · have here : min place (characters.length - 1) = place := by omega
    have isSeen : seen characters place = place := if_neg fun both => by omega
    rw [here, isSeen]
  · have here : min characters.length (characters.length - 1) = characters.length - 1 := by omega
    rw [here]
    by_cases last : (characters[characters.length - 1]?).any isPart
    · have isSeen : seen characters characters.length = characters.length := by
        rw [seen, if_neg fun both => both.2 (by rwa [List.getLast?_eq_getElem?])]
      have beyond : characters[characters.length]? = none := List.getElem?_eq_none (Nat.le_refl _)
      have filled : characters.length ≠ 0 := by
        intro empty
        rw [List.length_eq_zero_iff.mp empty] at last
        cases last
      rw [isSeen, if_pos last, beyond, Option.any_none, if_neg Bool.false_ne_true,
        if_pos ⟨filled, last⟩]
    · have isSeen : seen characters characters.length = characters.length - 1 := by
        rw [seen, if_pos ⟨rfl, by rwa [List.getLast?_eq_getElem?]⟩]
      rw [isSeen]

/-- The word at an offset is found at the boundary that is looked at. -/
theorem finds_atPosition {source content : Text} {line : Nat} (offset : Int)
    (found : source.lines[line]? = some content) :
    Finds content.scalars
      (units (content.scalars.take
        (seen content.scalars (boundary offset 0 content.scalars))))
      (atPosition source line offset) := by
  have within := boundary_le offset 0 content.scalars
  rw [atPosition, if_neg (by omega), Int.toNat_natCast, found, Option.getD_some]
  dsimp only
  rw [touching?_eq within]
  generalize content.scalars = characters at within ⊢
  have seenWithin : seen characters (boundary offset 0 characters) ≤ characters.length := by
    unfold seen
    split <;> omega
  generalize seen characters (boundary offset 0 characters) = index at seenWithin ⊢
  dsimp only
  by_cases behind : (characters[index]?).any isPart
  · rw [if_pos behind]
    rcases (Option.any_eq_true _ _).mp behind with ⟨character, here, part⟩
    exact finds_of_part here part (.inl rfl)
  · rw [if_neg behind]
    by_cases before : index ≠ 0 ∧ (characters[index - 1]?).any isPart
    · rw [if_pos before]
      rcases (Option.any_eq_true _ _).mp before.2 with ⟨character, here, part⟩
      exact finds_of_part here part (.inr (by omega))
    · rw [if_neg before]
      exact finds_nothing seenWithin behind (not_and.mp before)

/-- The word under a cursor is the longest run of word characters that touches the place, on either
side, and there is none if no word character does; whatever the offset is, it names one place of the
line. Only behind a line that ends with no word character the place before that character counts
instead. -/
theorem atPosition_finds_run (source content : Text) (line : Nat) (offset : Int)
    (found : source.lines[line]? = some content) :
    let characters := content.scalars
    let word := atPosition source line offset
    ∃ place, IsPlace characters offset place ∧
      (place < units characters ∨ (characters.getLast?).any isPart →
        Finds characters place word) ∧
      (place = units characters → ¬(characters.getLast?).any isPart →
        Finds characters (units characters.dropLast) word) := by
  intro characters word
  have finds : Finds characters
      (units (characters.take (seen characters (boundary offset 0 characters)))) word :=
    finds_atPosition offset found
  refine ⟨_, isPlace_boundary characters offset, ?_, ?_⟩
  · intro unended
    have isSeen : seen characters (boundary offset 0 characters) =
        boundary offset 0 characters := by
      apply if_neg
      rintro ⟨whole, noPart⟩
      rw [whole, List.take_length] at unended
      exact unended.elim (Nat.lt_irrefl _) noPart
    rwa [isSeen] at finds
  · intro ended noPart
    have within := boundary_le offset 0 characters
    have whole : characters.length = boundary offset 0 characters :=
      (units_eq_take_iff (List.prefix_refl characters) within).mp ended.symm
    have isSeen : seen characters (boundary offset 0 characters) = characters.length - 1 :=
      if_pos ⟨whole.symm, noPart⟩
    rwa [isSeen, ← List.dropLast_eq_take] at finds

theorem atPosition_finds_run_surrogates :
    let source := text "print \"😀\" +\n😀b-c"
    let content := text "😀b-c"
    source.lines[1]? = some content ∧ atPosition source 1 1 = text "b" ∧
      atPosition source 1 5 = text "c" ∧
      ∃ place, IsPlace content.scalars 1 place ∧
        (place < units content.scalars ∨ (content.scalars.getLast?).any isPart →
          Finds content.scalars place (atPosition source 1 1)) ∧
        (place = units content.scalars → ¬(content.scalars.getLast?).any isPart →
          Finds content.scalars (units content.scalars.dropLast) (atPosition source 1 1)) := by
  intro source content
  have found : source.lines[1]? = some content := by decide +kernel
  exact ⟨found, by decide +kernel, by decide +kernel, atPosition_finds_run source content 1 1 found⟩

/-- Behind a mark at the end of a line the word before the mark is found, which does not touch the
place. -/
theorem atPosition_misses_place :
    let source := text "total;"
    source.lines[0]? = some source ∧ IsPlace source.scalars 6 6 ∧ ¬Adjoins source.scalars 6 ∧
      atPosition source 0 6 = text "total" := by
  intro source
  have isPlace := isPlace_boundary source.scalars 6
  have place : units (source.scalars.take (boundary 6 0 source.scalars)) = 6 := by decide +kernel
  have alone : ¬Adjoins source.scalars (units (source.scalars.take 6)) :=
    not_adjoins (by decide +kernel) (by decide +kernel) (by decide +kernel)
  have width : units (source.scalars.take 6) = 6 := by decide +kernel
  rw [place] at isPlace
  rw [width] at alone
  exact ⟨by decide +kernel, isPlace, alone, by decide +kernel⟩

end Scriptlet.Word
