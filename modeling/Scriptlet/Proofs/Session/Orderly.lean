import Mathlib.Data.List.DropRight
import Scriptlet.Proofs.Session.Field
import Scriptlet.Proofs.Text.Units
import Scriptlet.Session.Basic

/-!
# Sessions stay orderly

A session keeps the lines that ran, the index of the one that is recalled, and its field. Messages
change them one without the other, but the index always points at a line, no line is ever dropped or
changed, and the field keeps its limits. What gets among the lines was in the field, so every line
can be recalled into it. A session that is quitting goes on quitting.
-/

namespace Scriptlet

namespace Text

theorem trim_ofChars (characters : List Char) :
    (ofChars characters).trim =
      ofChars ((characters.dropWhile Category.isSpace).rdropWhile Category.isSpace) := by
  have spaces : Glyph.isSpace ∘ Glyph.char = Category.isSpace := rfl
  rw [trim, glyphs_ofChars, List.dropWhile_map, spaces, ← List.map_reverse, List.dropWhile_map,
    spaces, ← List.map_reverse, Glyph.join, List.flatMap_map]
  rfl

theorem head?_ofChars_eq_colon {character : Char} {rest : List Char} :
    (ofChars (character :: rest)).head? = some (byte ':') ↔ character = ':' := by
  constructor
  · intro starts
    by_contra other
    have fresh : byte ':' ∉ String.utf8EncodeChar character := by
      apply Glyph.not_mem_utf8EncodeChar (by decide)
      intro same
      exact other (Glyph.utf8EncodeChar_injective same)
    rw [ofChars, List.flatMap_cons,
      List.head?_append_of_ne_nil _ String.utf8EncodeChar_ne_nil] at starts
    exact fresh (List.mem_of_mem_head? starts)
  · rintro rfl
    rfl

/-- Trimming looks at characters: what it leaves starts with a colon exactly if the first character
that is no white space is one. -/
theorem head?_trim_ofChars {characters : List Char} :
    (ofChars characters).trim.head? = some (byte ':') ↔
      (characters.dropWhile Category.isSpace).head? = some ':' := by
  rw [trim_ofChars]
  cases starts : characters.dropWhile Category.isSpace with
  | nil => simp [ofChars]
  | cons character rest =>
      have visible : ¬Category.isSpace character := by
        have first := List.head?_dropWhile_not Category.isSpace characters
        rw [starts, List.head?_cons] at first
        simpa using first
      -- The first character stops the trimming from the end as well.
      have kept : (character :: rest).rdropWhile Category.isSpace <+: character :: rest :=
        List.rdropWhile_prefix _ _
      have nonempty : (character :: rest).rdropWhile Category.isSpace ≠ [] := by
        rw [ne_eq, List.rdropWhile_eq_nil_iff]
        intro blank
        exact visible (blank character List.mem_cons_self)
      generalize (character :: rest).rdropWhile Category.isSpace = front at kept nonempty
      cases front with
      | nil => exact absurd rfl nonempty
      | cons first more =>
          rw [List.cons_prefix_cons] at kept
          rw [head?_ofChars_eq_colon, List.head?_cons, Option.some.injEq, kept.1]

end Text

namespace Session

/-- A line that can be recalled. -/
structure IsLine (line : List Char) : Prop where
  filled : line ≠ []
  length_le : line.length ≤ Field.capacity
  entered : ∀ character ∈ line, Field.IsEntered character
  /-- White space left out, it does not start like a command. -/
  plain : (line.dropWhile Category.isSpace).head? ≠ some ':'

/-- A session whose field keeps its limits, whose lines can be recalled, and whose index points at
one of them, if it points anywhere. -/
structure IsOrderly (session : Session) : Prop where
  fits : session.field.Fits
  lines : ∀ line ∈ session.lines, IsLine line
  recalled : ∀ index, session.recalled = some index → index < session.lines.length

theorem isOrderly_start (prompt : Text) (engine : Engine) : IsOrderly { prompt, engine } where
  fits := ⟨Nat.le_refl _, Nat.zero_le _, by simp⟩
  lines := by simp
  recalled := by simp

/-- What every message keeps of a session: its order, its lines, and that it quits. -/
structure Continues (session later : Session) : Prop where
  orderly : session.IsOrderly → later.IsOrderly
  lines : session.lines <+: later.lines
  quitting : session.quitting → later.quitting

namespace Continues

variable {session later : Session}

theorem refl (session : Session) : Continues session session :=
  ⟨id, List.prefix_refl _, id⟩

theorem trans {last : Session} (first : Continues session later) (second : Continues later last) :
    Continues session last :=
  ⟨second.orderly ∘ first.orderly, first.lines.trans second.lines,
    second.quitting ∘ first.quitting⟩

/-- Where the lines and the index stay, all that matters is the field. -/
theorem of_field (lines : later.lines = session.lines)
    (recalled : later.recalled = session.recalled)
    (fits : session.field.Fits → later.field.Fits)
    (quitting : session.quitting → later.quitting) : Continues session later where
  orderly orderly := ⟨fits orderly.fits, by rw [lines]; exact orderly.lines,
    by rw [lines, recalled]; exact orderly.recalled⟩
  lines := lines.symm ▸ List.prefix_refl session.lines
  quitting := quitting

theorem record (session : Session) (entry : Entry) : Continues session (session.record entry) :=
  .of_field rfl rfl id id

theorem run (session : Session) (input : Text) : Continues session (session.run input) :=
  .of_field rfl rfl id id

theorem evaluate (session : Session) (input argument : Text) :
    Continues session (session.evaluate input argument) :=
  .of_field rfl rfl id id

theorem command (session : Session) (input : Text) :
    Continues session (session.command input) := by
  unfold Session.command
  dsimp only
  split
  · exact .of_field rfl rfl id id
  · split
    · exact .of_field rfl rfl id id
    · split
      · exact .record session _
      · split
        · exact .evaluate session input _
        · split
          · exact .of_field rfl rfl id fun _ => rfl
          · exact .record session _

theorem reset (session : Session) : Continues session session.reset where
  orderly orderly := ⟨Field.Fits.set _ _, orderly.lines, by simp [Session.reset]⟩
  lines := List.prefix_refl _
  quitting := id

theorem revisit {index : Nat} (inside : session.IsOrderly → index < session.lines.length) :
    Continues session (session.revisit index) where
  orderly orderly := ⟨Field.Fits.setToEnd _ _, orderly.lines,
    fun _ found => Option.some.inj found ▸ inside orderly⟩
  lines := List.prefix_refl _
  quitting := id

theorem recallPrevious (session : Session) : Continues session session.recallPrevious := by
  unfold Session.recallPrevious
  split
  · exact .refl session
  · rename_i filled
    rw [List.isEmpty_iff, ← List.length_eq_zero_iff] at filled
    split
    · exact .revisit fun _ => by omega
    · rename_i index found
      apply revisit
      intro orderly
      have inside := orderly.recalled index found
      omega

theorem recallNext (session : Session) : Continues session session.recallNext := by
  unfold Session.recallNext
  split
  · exact .refl session
  · split
    · rename_i inside
      exact .revisit fun _ => inside
    · exact ⟨fun orderly => ⟨Field.Fits.setToEnd _ _, orderly.lines, by simp⟩,
        List.prefix_refl _, id⟩

theorem complete (session : Session) : Continues session session.complete := by
  unfold Session.complete
  dsimp only
  split
  · exact .refl session
  · split
    · exact .refl session
    · split
      · exact .refl session
      · exact .of_field rfl rfl (fun _ => Field.Fits.setToEnd _ _) id
      · exact .record session _

/-- The line that runs joins the lines; it was in the field and is no command. -/
theorem submit (session : Session) : Continues session session.submit := by
  unfold Session.submit
  dsimp only
  split
  · exact .of_field rfl rfl id fun _ => rfl
  · rename_i filled
    split
    · exact (command session _).trans (.reset _)
    · rename_i plain
      refine trans ?_ (.reset _)
      refine ⟨?_, List.prefix_append _ _, id⟩
      intro orderly
      have isLine : IsLine session.field.value := by
        refine ⟨?_, orderly.fits.length_le, orderly.fits.entered, ?_⟩
        · intro empty
          simp [Field.content, empty, Text.ofChars] at filled
        · rwa [ne_eq, ← Text.head?_trim_ofChars]
      refine ⟨orderly.fits, ?_, ?_⟩
      · intro line member
        rcases List.mem_append.mp member with old | new
        · exact orderly.lines line old
        · rw [List.mem_singleton.mp new]
          exact isLine
      · intro index found
        have inside := orderly.recalled index found
        rw [List.length_append]
        omega

theorem update (session : Session) (message : Message) :
    Continues session (session.update message) := by
  cases message with
  | set characters => exact .of_field rfl rfl (fun _ => Field.Fits.set _ _) id
  | typed characters => exact .of_field rfl rfl (fun fits => fits.type characters) id
  | edited key => exact .of_field rfl rfl (fun fits => fits.press key) id
  | submitted => exact .submit session
  | previous => exact .recallPrevious session
  | next => exact .recallNext session
  | completed => exact .complete session
  | cleared => exact .of_field rfl rfl id id
  | toggledHelp => exact .of_field rfl rfl id id
  | quit => exact .of_field rfl rfl id fun _ => rfl
  | resized width height =>
      exact .of_field rfl rfl (fun fits => ⟨fits.position_le, fits.length_le, fits.entered⟩) id

theorem updates (session : Session) (messages : List Message) :
    Continues session (session.updates messages) := by
  induction messages generalizing session with
  | nil => exact .refl session
  | cons message rest ih => exact (update session message).trans (ih (session.update message))

end Continues

/-- Whatever happens to a new session, it stays orderly: the index of the recalled line is that of a
line, all lines can be recalled, and the field keeps its limits. Whatever happens then, lines are
only ever added behind those that there are, and a session that quits goes on quitting. -/
theorem sessions_stay_orderly (prompt : Text) (engine : Engine) (messages more : List Message) :
    let session := updates { prompt, engine } messages
    let later := session.updates more
    session.IsOrderly ∧ session.lines <+: later.lines ∧ (session.quitting → later.quitting) := by
  intro session later
  have started := Continues.updates { prompt, engine } messages
  have continued := Continues.updates session more
  exact ⟨started.orderly (isOrderly_start prompt engine), continued.lines, continued.quitting⟩

theorem sessions_stay_orderly_quit :
    let session := updates { prompt := text "> ", engine := {} }
      [.typed "print 1;".toList, .submitted, .typed ":e 2".toList, .submitted, .previous, .quit]
    let later := session.updates [.typed "2".toList, .submitted]
    session.quitting ∧ session.recalled = some 0 ∧ session.lines = ["print 1;".toList] ∧
      session.IsOrderly ∧ later.lines = ["print 1;".toList, "print 1;2".toList] ∧
      session.lines <+: later.lines ∧ later.quitting := by
  intro session later
  have quits : session.quitting := by decide +kernel
  rcases sessions_stay_orderly (text "> ") {}
    [.typed "print 1;".toList, .submitted, .typed ":e 2".toList, .submitted, .previous, .quit]
    [.typed "2".toList, .submitted] with ⟨orderly, kept, stays⟩
  exact ⟨quits, by decide +kernel, by decide +kernel, orderly, by decide +kernel, kept, stays quits⟩

end Session

end Scriptlet
