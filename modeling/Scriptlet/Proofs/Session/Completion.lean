import Scriptlet.Proofs.Scanning.Lexemes
import Scriptlet.Proofs.Session.Orderly
import Scriptlet.Proofs.Text.Lines

/-!
# Completing a word

Completion looks for the last word of the field, cuts it off and puts the reserved word in its
place. The field ends with the last word exactly if it ends with no white space. Then everything
before the word is kept and only the word is replaced. A field that ends with a space is left alone;
behind any other white space nothing is cut off, and the reserved word is added as a word of its
own.
-/

namespace Scriptlet

namespace Text

open Glyph

/-- What a glyph adds to the words behind it: the word that starts here, and the others. -/
def gather (glyph : Glyph) (behind : Text × List Text) : Text × List Text :=
  if glyph.isSpace then ([], if behind.1.isEmpty then behind.2 else behind.1 :: behind.2)
  else (glyph.bytes ++ behind.1, behind.2)

theorem words_eq (source : Text) :
    words source =
      let gathered := source.glyphs.foldr gather ([], [])
      if gathered.1.isEmpty then gathered.2 else gathered.1 :: gathered.2 :=
  rfl

theorem foldr_gather (glyphs : List Glyph) (behind : List Text) :
    glyphs.foldr gather ([], behind) =
      ((glyphs.foldr gather ([], [])).1, (glyphs.foldr gather ([], [])).2 ++ behind) := by
  induction glyphs with
  | nil => rfl
  | cons glyph rest ih =>
      rw [List.foldr_cons, ih, List.foldr_cons]
      unfold gather
      split
      · split <;> rfl
      · rfl

theorem ofChars_append (front back : List Char) :
    ofChars (front ++ back) = ofChars front ++ ofChars back :=
  List.flatMap_append

/-- White space separates words. -/
theorem words_append_space {space : Char} (isSpace : Category.isSpace space)
    (front back : List Char) :
    words (ofChars (front ++ space :: back)) = words (ofChars front) ++ words (ofChars back) := by
  have isSpaceGlyph : (Glyph.char space).isSpace := isSpace
  simp only [words_eq, glyphs_ofChars, List.map_append, List.map_cons, List.foldr_append,
    List.foldr_cons]
  rw [gather, if_pos isSpaceGlyph, foldr_gather]
  dsimp only
  split <;> rfl

theorem words_of_spaces {spaces : List Char} (blank : ∀ space ∈ spaces, Category.isSpace space) :
    words (ofChars spaces) = [] := by
  induction spaces with
  | nil => rfl
  | cons space rest ih =>
      rw [List.forall_mem_cons] at blank
      have parts := words_append_space blank.1 [] rest
      rw [ih blank.2] at parts
      exact parts

theorem ofChars_ne_nil {characters : List Char} (filled : characters ≠ []) :
    ofChars characters ≠ [] := by
  rcases List.exists_cons_of_ne_nil filled with ⟨character, rest, rfl⟩
  simp [ofChars, String.utf8EncodeChar_ne_nil]

theorem words_of_letters {letters : List Char} (filled : letters ≠ [])
    (solid : ∀ letter ∈ letters, ¬Category.isSpace letter) :
    words (ofChars letters) = [ofChars letters] := by
  have gathered : (letters.map Glyph.char).foldr gather ([], []) = (ofChars letters, []) := by
    clear filled
    induction letters with
    | nil => rfl
    | cons letter rest ih =>
        rw [List.forall_mem_cons] at solid
        have noSpace : ¬(Glyph.char letter).isSpace := solid.1
        rw [List.map_cons, List.foldr_cons, ih solid.2, gather, if_neg noSpace]
        rfl
  rw [words_eq, glyphs_ofChars, gathered]
  simp [ofChars_ne_nil filled]

/-- Characters with a last word: what stands before it, its letters, and white space behind it. -/
structure EndsWord (front letters spaces : List Char) : Prop where
  separated : ∀ character, front.getLast? = some character → Category.isSpace character
  filled : letters ≠ []
  solid : ∀ letter ∈ letters, ¬Category.isSpace letter
  blank : ∀ space ∈ spaces, Category.isSpace space

theorem EndsWord.words_eq {front letters spaces : List Char}
    (ends : EndsWord front letters spaces) :
    words (ofChars (front ++ letters ++ spaces)) = words (ofChars front) ++ [ofChars letters] := by
  have trimmed : words (ofChars (front ++ letters ++ spaces)) =
      words (ofChars (front ++ letters)) := by
    cases spaces with
    | nil => rw [List.append_nil]
    | cons space rest =>
        have blank := List.forall_mem_cons.mp ends.blank
        rw [words_append_space blank.1, words_of_spaces blank.2, List.append_nil]
  rw [trimmed, ← words_of_letters ends.filled ends.solid]
  rcases List.eq_nil_or_concat front with rfl | ⟨rest, space, rfl⟩
  · rfl
  · have isSpace : Category.isSpace space := ends.separated space (by simp)
    have behind := words_append_space isSpace rest letters
    have alone := words_append_space isSpace rest []
    have nothing : words (ofChars []) = [] := rfl
    rw [nothing, List.append_nil] at alone
    rw [List.concat_eq_append, List.append_assoc, List.singleton_append, behind, alone]

/-- The last word of a text of characters. -/
theorem exists_endsWord {characters : List Char} {word : Text}
    (found : (words (ofChars characters)).getLast? = some word) :
    ∃ front letters spaces, characters = front ++ letters ++ spaces ∧ word = ofChars letters ∧
      EndsWord front letters spaces := by
  have trimmed : characters.rdropWhile Category.isSpace ++
      characters.rtakeWhile Category.isSpace = characters := List.rdropWhile_append_rtakeWhile
  have blank : ∀ space ∈ characters.rtakeWhile Category.isSpace, Category.isSpace space :=
    fun _ member => List.mem_rtakeWhile_imp member
  have visible : ∀ last, (characters.rdropWhile Category.isSpace).getLast? = some last →
      ¬Category.isSpace last := fun _ => not_of_getLast?_rdropWhile
  generalize characters.rdropWhile Category.isSpace = kept,
    characters.rtakeWhile Category.isSpace = spaces at trimmed blank visible
  have cut : kept.rdropWhile (fun letter => !Category.isSpace letter) ++
      kept.rtakeWhile (fun letter => !Category.isSpace letter) = kept :=
    List.rdropWhile_append_rtakeWhile
  have ends : EndsWord (kept.rdropWhile fun letter => !Category.isSpace letter)
      (kept.rtakeWhile fun letter => !Category.isSpace letter) spaces := by
    refine ⟨?_, ?_, ?_, blank⟩
    · intro character last
      simpa using not_of_getLast?_rdropWhile last
    · intro nothing
      -- Without letters there is white space only, and then there is no word.
      have empty : kept = [] := by
        by_contra filled
        have isSpace := List.rtakeWhile_eq_nil_iff.mp nothing filled
        have noSpace := visible _ (List.getLast?_eq_some_getLast filled)
        simp [noSpace] at isSpace
      rw [← trimmed, empty, List.nil_append, words_of_spaces blank] at found
      cases found
    · intro letter member
      simpa using List.mem_rtakeWhile_imp member
  refine ⟨_, _, spaces, by rw [cut, trimmed], ?_, ends⟩
  rw [← trimmed, ← cut, ends.words_eq, List.getLast?_concat] at found
  exact (Option.some.inj found).symm

/-- A text ends with its last word exactly if no white space stands behind it. -/
theorem EndsWord.isSuffix_iff {front letters spaces : List Char}
    (ends : EndsWord front letters spaces) :
    ofChars letters <:+ ofChars (front ++ letters ++ spaces) ↔ spaces = [] := by
  constructor
  · rintro ⟨before, parts⟩
    by_contra blank
    have starts : StartsCharacter (ofChars letters) := by
      rcases List.exists_cons_of_ne_nil ends.filled with ⟨letter, rest, rfl⟩
      exact ⟨letter, _, rfl⟩
    have glyphs := congrArg Text.glyphs parts
    rw [glyphs_append_of_startsCharacter before starts, glyphs_ofChars, glyphs_ofChars] at glyphs
    have last := congrArg List.getLast? glyphs
    rw [List.getLast?_append_of_ne_nil _ (by simpa using ends.filled), List.map_append,
      List.getLast?_append_of_ne_nil _ (by simpa using blank), List.getLast?_map,
      List.getLast?_map, List.getLast?_eq_some_getLast ends.filled,
      List.getLast?_eq_some_getLast blank] at last
    have same : letters.getLast ends.filled = spaces.getLast blank := by simpa using last
    apply ends.solid _ (List.getLast_mem ends.filled)
    rw [same]
    exact ends.blank _ (List.getLast_mem blank)
  · rintro rfl
    rw [List.append_nil, ofChars_append]
    exact List.suffix_append _ _

theorem EndsWord.isSpace_of_getLast? {front letters spaces : List Char}
    (ends : EndsWord front letters spaces) (behind : spaces ≠ []) :
    ∀ character, (front ++ letters ++ spaces).getLast? = some character →
      Category.isSpace character := by
  intro character last
  rw [List.getLast?_append_of_ne_nil _ behind] at last
  exact ends.blank character (List.mem_of_getLast? last)

/-- The last character tells whether a text ends with its last word. -/
theorem EndsWord.spaces_eq_nil_iff {front letters spaces : List Char}
    (ends : EndsWord front letters spaces) :
    spaces = [] ↔ ∀ last, (front ++ letters ++ spaces).getLast? = some last →
      ¬Category.isSpace last := by
  constructor
  · rintro rfl last isLast
    rw [List.append_nil, List.getLast?_append_of_ne_nil _ ends.filled] at isLast
    exact ends.solid last (List.mem_of_getLast? isLast)
  · intro visible
    by_contra behind
    have isLast := List.getLast?_eq_some_getLast (List.append_ne_nil_of_right_ne_nil
      (front ++ letters) behind)
    exact visible _ isLast (ends.isSpace_of_getLast? behind _ isLast)

end Text

namespace Keyword

theorem text_eq_ofChars (keyword : Keyword) :
    keyword.text = Text.ofChars keyword.spelling.toList := by
  have joined := Glyph.join_map_char keyword.spelling.toList
  rw [String.ofList_toList, Glyph.join, List.flatMap_map] at joined
  exact joined.symm

theorem spelling_ne_nil (keyword : Keyword) : keyword.spelling.toList ≠ [] := by
  cases keyword <;> decide

theorem solid_spelling (keyword : Keyword) :
    ∀ letter ∈ keyword.spelling.toList, Field.IsEntered letter ∧ ¬Category.isSpace letter := by
  have passes : keyword.spelling.toList.all fun letter =>
      letter ≠ '\uFFFD' && !Category.isControl letter && !Category.isSpace letter := by
    cases keyword <;> decide +kernel
  intro letter member
  simpa [Field.IsEntered, and_assoc] using List.all_eq_true.mp passes letter member

end Keyword

namespace Session

/-- A reserved word behind white space, or behind nothing, is the last word. -/
theorem words_append_keyword {front : List Char} (keyword : Keyword)
    (separated : ∀ character, front.getLast? = some character → Category.isSpace character) :
    Text.words (Text.ofChars front ++ keyword.text) =
      Text.words (Text.ofChars front) ++ [keyword.text] := by
  have solid : ∀ letter ∈ keyword.spelling.toList, ¬Category.isSpace letter :=
    fun letter member => (keyword.solid_spelling letter member).2
  have ends : Text.EndsWord front keyword.spelling.toList [] :=
    ⟨separated, keyword.spelling_ne_nil, solid, by simp⟩
  have words := ends.words_eq
  rwa [List.append_nil, Text.ofChars_append, ← keyword.text_eq_ofChars] at words

/-- Whether a word starts one reserved word and no other. -/
def Starts (word : Text) (keyword : Keyword) : Prop :=
  ∀ other : Keyword, word <+: other.text ↔ other = keyword

theorem Starts.completions_eq {word : Text} {keyword : Keyword} (starts : Starts word keyword) :
    completions word = [keyword] := by
  have same : completions word = Keyword.all.filter (· = keyword) := by
    refine List.filter_congr fun other _ => ?_
    rw [Bool.eq_iff_iff, List.isPrefixOf_iff_prefix, decide_eq_true_iff]
    exact starts other
  rw [same]
  cases keyword <;> rfl

theorem withoutEnding_append (before word : Text) :
    withoutEnding word (before ++ word) = before := by
  rw [withoutEnding, if_pos (List.isSuffixOf_iff_suffix.mpr (List.suffix_append _ _)),
    List.length_append, Nat.add_sub_cancel, List.take_left]

theorem withoutEnding_of_not_suffix {word input : Text} (noSuffix : ¬word <:+ input) :
    withoutEnding word input = input :=
  if_neg fun isSuffix => noSuffix (List.isSuffixOf_iff_suffix.mp isSuffix)

theorem complete_eq {session : Session} {word : Text} {keyword : Keyword}
    (isLast : session.field.content.words.getLast? = some word)
    (noSpace : session.field.content.getLast? ≠ some (byte ' ')) (starts : Starts word keyword) :
    session.complete =
      { session with
        field := session.field.setToEnd
          (withoutEnding word session.field.content ++ keyword.text).scalars } := by
  unfold complete
  dsimp only
  rw [isLast]
  dsimp only
  rw [if_neg noSpace, starts.completions_eq]

/-- A field that takes a reserved word behind some of its characters. -/
theorem setToEnd_keyword {field : Field} (fits : field.Fits) (keyword : Keyword)
    {front : List Char} (kept : front <+: field.value)
    (separated : ∀ character, front.getLast? = some character → Category.isSpace character)
    (room : (Text.ofChars front ++ keyword.text).scalars.length ≤ Field.capacity) :
    let completed := field.setToEnd (Text.ofChars front ++ keyword.text).scalars
    completed.content = Text.ofChars front ++ keyword.text ∧
      completed.content.words = Text.words (Text.ofChars front) ++ [keyword.text] ∧
      completed.position = completed.value.length := by
  have words := words_append_keyword keyword separated
  have whole : Text.ofChars front ++ keyword.text =
      Text.ofChars (front ++ keyword.spelling.toList) := by
    rw [Text.ofChars_append, keyword.text_eq_ofChars]
  rw [whole] at words
  rw [whole, Text.scalars_ofChars] at room ⊢
  have entered : ∀ character ∈ front ++ keyword.spelling.toList, Field.IsEntered character := by
    intro character member
    rcases List.mem_append.mp member with old | new
    · exact fits.entered character (kept.subset old)
    · exact (keyword.solid_spelling character new).1
  rcases field.setToEnd_of_fits room entered with ⟨value, position⟩
  dsimp only
  rw [Field.content, position, value]
  exact ⟨rfl, words, rfl⟩

/-- Completion touches the last word only. If one reserved word starts with the last word of the
field and the field ends with the word, the reserved word takes its place: all before the word is
kept, the other words are as they were, and the cursor is at the end. The field ends with the word
unless it ends with white space. White space other than a space is not told from a word that is
still typed: then everything is kept, and the reserved word follows as a word of its own. -/
theorem completes_last_word (prompt : Text) (engine : Engine) (messages : List Message) :
    let session := updates { prompt, engine } messages
    let input := session.field.content
    let completed := session.update .completed
    ∀ word keyword, input.words.getLast? = some word → input.getLast? ≠ some (byte ' ') →
      Starts word keyword →
        completed = { session with field := completed.field } ∧
        (word <:+ input ↔ ∀ last, input.scalars.getLast? = some last → ¬Category.isSpace last) ∧
        (∀ before, input = before ++ word →
          (before ++ keyword.text).scalars.length ≤ Field.capacity →
            completed.field.content = before ++ keyword.text ∧
              completed.field.content.words = input.words.dropLast ++ [keyword.text] ∧
              completed.field.position = completed.field.value.length) ∧
        (¬word <:+ input → (input ++ keyword.text).scalars.length ≤ Field.capacity →
          completed.field.content = input ++ keyword.text ∧
            completed.field.content.words = input.words ++ [keyword.text] ∧
            completed.field.position = completed.field.value.length) := by
  intro session input completed word keyword isLast noSpace starts
  have fits : session.field.Fits :=
    ((Continues.updates { prompt, engine } messages).orderly
      (isOrderly_start prompt engine)).fits
  have completedEq : completed = _ := complete_eq isLast noSpace starts
  have fieldEq : completed.field = session.field.setToEnd
      (withoutEnding word input ++ keyword.text).scalars := by rw [completedEq]
  have inputEq : input = Text.ofChars session.field.value := rfl
  rcases Text.exists_endsWord isLast with ⟨front, letters, spaces, value, rfl, ends⟩
  have wordsEq := ends.words_eq
  have isSuffix := ends.isSuffix_iff
  rw [← value, ← inputEq] at wordsEq isSuffix
  refine ⟨by rw [completedEq], ?_, ?_, ?_⟩
  · rw [isSuffix, ends.spaces_eq_nil_iff, ← value, inputEq, Text.scalars_ofChars]
  · intro before parts room
    have noBlank : spaces = [] := isSuffix.mp ⟨before, parts.symm⟩
    rw [noBlank, List.append_nil] at value
    have beforeEq : before = Text.ofChars front := by
      rw [inputEq, value, Text.ofChars_append] at parts
      exact (List.append_cancel_right parts).symm
    have kept : front <+: session.field.value := value ▸ List.prefix_append front letters
    rw [beforeEq] at room
    rw [fieldEq, parts, withoutEnding_append, ← parts, beforeEq, wordsEq, List.dropLast_concat]
    exact setToEnd_keyword fits keyword kept ends.separated room
  · intro noSuffix room
    have blank : spaces ≠ [] := fun noBlank => noSuffix (isSuffix.mpr noBlank)
    have separated := ends.isSpace_of_getLast? blank
    rw [← value] at separated
    rw [inputEq] at room
    rw [fieldEq, withoutEnding_of_not_suffix noSuffix, inputEq]
    exact setToEnd_keyword fits keyword (List.prefix_refl _) separated room

theorem completes_last_word_unicodeSpace :
    let session := updates { prompt := text "> ", engine := {} }
      [.typed "print\u00a01 +\t\u3000nil; pri".toList]
    let input := session.field.content
    let completed := session.update .completed
    let before := text "print\u00a01 + \u3000nil; "
    input = before ++ text "pri" ∧
      (input.words.getLast? = some (text "pri") ∧ input.getLast? ≠ some (byte ' ') ∧
        Starts (text "pri") .printWord ∧
        (before ++ text "print").scalars.length ≤ Field.capacity) ∧
      completed.field.content = before ++ text "print" ∧
      completed.field.content.words =
        [text "print", text "1", text "+", text "nil;", text "print"] ∧
      completed.field.position = completed.field.value.length := by
  intro session input completed before
  have parts : input = before ++ text "pri" := by decide +kernel
  have isLast : input.words.getLast? = some (text "pri") := by decide +kernel
  have noSpace : input.getLast? ≠ some (byte ' ') := by decide +kernel
  have starts : Starts (text "pri") .printWord := by
    intro other
    cases other <;> decide
  have room : (before ++ text "print").scalars.length ≤ Field.capacity := by decide +kernel
  rcases completes_last_word (text "> ") {} [.typed "print\u00a01 +\t\u3000nil; pri".toList]
    (text "pri") .printWord isLast noSpace starts with ⟨-, -, replaces, -⟩
  rcases replaces before parts room with ⟨content, words, -⟩
  refine ⟨parts, ⟨isLast, noSpace, starts, room⟩, content, ?_, by decide +kernel⟩
  rw [words]
  decide +kernel

/-- Behind a no-break space a reserved word is added, and the word before it stays. -/
theorem completion_adds_word :
    let session := updates { prompt := text "> ", engine := {} } [.typed "pri\u00a0".toList]
    let input := session.field.content
    let completed := session.update .completed
    input.words = [text "pri"] ∧ input.getLast? ≠ some (byte ' ') ∧
      Starts (text "pri") .printWord ∧
      completed.field.content = text "pri\u00a0print" ∧
      completed.field.content.words = [text "pri", text "print"] := by
  intro session input completed
  refine ⟨by decide +kernel, by decide +kernel, ?_, by decide +kernel, by decide +kernel⟩
  intro other
  cases other <;> decide

end Session

end Scriptlet
