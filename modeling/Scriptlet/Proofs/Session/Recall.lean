import Scriptlet.Proofs.Session.Orderly

/-!
# Lines are recalled as they were

Going back through the lines stops at the first one, going on past the last one empties the field.
In between the field shows one of them, exactly as it was when it ran: every line of a session can
be entered again, and so none is cut or changed on its way back into the field.
-/

namespace Scriptlet.Session

/-- A session that has come to an index among some lines: the field shows the line there, with the
cursor behind it, and behind the last line it shows nothing. -/
inductive Shows (lines : List (List Char)) (index : Nat) (session : Session) : Prop where
  | line {shown : List Char} (found : lines[index]? = some shown) (kept : session.lines = lines)
      (recalled : session.recalled = some index) (value : session.field.value = shown)
      (position : session.field.position = shown.length)
  | nothing (beyond : lines.length ≤ index) (kept : session.lines = lines)
      (recalled : session.recalled = none) (value : session.field.value = [])
      (position : session.field.position = 0)

section

variable {lines : List (List Char)} {index : Nat} {session : Session}

theorem shows_revisit (recallable : ∀ line ∈ lines, IsLine line) (kept : session.lines = lines)
    (inside : index < lines.length) : Shows lines index (session.revisit index) := by
  have found : lines[index]? = some lines[index] := List.getElem?_eq_getElem inside
  have isLine := recallable _ (List.getElem_mem inside)
  have field : (session.revisit index).field = session.field.setToEnd lines[index] := by
    rw [revisit, kept, found, Option.getD_some]
  rcases session.field.setToEnd_of_fits isLine.length_le isLine.entered with ⟨value, position⟩
  exact .line found kept rfl (by rw [field, value]) (by rw [field, position])

theorem shows_last (recallable : ∀ line ∈ lines, IsLine line) (kept : session.lines = lines)
    (fresh : session.recalled = none) (filled : lines ≠ []) :
    Shows lines (lines.length - 1) session.recallPrevious := by
  have inside : lines.length - 1 < lines.length := by
    have positive := List.length_pos_iff.mpr filled
    omega
  rw [recallPrevious, kept, if_neg (by simpa using filled), fresh]
  exact shows_revisit recallable kept inside

/-- Going back from a line shows the one before it, and stays at the first. -/
theorem Shows.previous (shows : Shows lines index session)
    (recallable : ∀ line ∈ lines, IsLine line) (inside : index < lines.length) :
    Shows lines (index - 1) session.recallPrevious := by
  cases shows with
  | line found kept recalled value position =>
      have filled : lines ≠ [] := List.ne_nil_of_length_pos (by omega)
      rw [recallPrevious, kept, if_neg (by simpa using filled), recalled]
      exact shows_revisit recallable kept (by omega)
  | nothing beyond => omega

/-- Going on from a line shows the one after it, and from the last one nothing. -/
theorem Shows.next (shows : Shows lines index session)
    (recallable : ∀ line ∈ lines, IsLine line) : Shows lines (index + 1) session.recallNext := by
  cases shows with
  | line found kept recalled value position =>
      rw [recallNext, recalled]
      dsimp only
      rw [kept]
      split
      · rename_i inside
        exact shows_revisit recallable kept inside
      · rename_i last
        rcases session.field.setToEnd_of_fits (Nat.zero_le _)
          (fun _ member => absurd member List.not_mem_nil) with ⟨value, position⟩
        exact .nothing (Nat.le_of_not_lt last) rfl rfl value position
  | nothing beyond kept recalled value position =>
      rw [recallNext, recalled]
      exact .nothing (Nat.le_succ_of_le beyond) kept recalled value position

theorem updates_replicate_succ (session : Session) (count : Nat) (message : Message) :
    session.updates (List.replicate (count + 1) message) =
      (session.update message).updates (List.replicate count message) :=
  rfl

theorem Shows.previous_repeated (shows : Shows lines index session)
    (recallable : ∀ line ∈ lines, IsLine line) (inside : index < lines.length) (count : Nat) :
    Shows lines (index - count) (session.updates (List.replicate count .previous)) := by
  induction count generalizing index session with
  | zero => exact shows
  | succ count ih =>
      rw [updates_replicate_succ, Nat.add_comm, Nat.sub_add_eq]
      exact ih (shows.previous recallable inside) (by omega)

theorem Shows.next_repeated (shows : Shows lines index session)
    (recallable : ∀ line ∈ lines, IsLine line) (count : Nat) :
    Shows lines (index + count) (session.updates (List.replicate count .next)) := by
  induction count generalizing index session with
  | zero => exact shows
  | succ count ih =>
      rw [updates_replicate_succ, Nat.add_comm count, ← Nat.add_assoc]
      exact ih (shows.next recallable)

end

/-- Lines are recalled exactly. After some steps back from where no line is recalled, and some steps
on, the field shows the line that is as far from the last one, as it was submitted and with the
cursor at its end. Steps back past the first line do not count; steps on past the last line leave
the field empty and no line recalled. -/
theorem lines_are_recalled (prompt : Text) (engine : Engine) (messages : List Message)
    (back on : Nat) :
    let session := updates { prompt, engine } messages
    let moved := session.updates (List.replicate back .previous ++ List.replicate on .next)
    let index := session.lines.length - back + on
    session.recalled = none → session.lines ≠ [] → 1 ≤ back →
      (index < session.lines.length →
        session.lines[index]? = some moved.field.value ∧
          moved.field.position = moved.field.value.length ∧ moved.recalled = some index) ∧
      (session.lines.length ≤ index →
        moved.field.value = [] ∧ moved.field.position = 0 ∧ moved.recalled = none) := by
  intro session moved index fresh filled positive
  have orderly : session.IsOrderly :=
    (Continues.updates { prompt, engine } messages).orderly (isOrderly_start prompt engine)
  have recallable := orderly.lines
  have shows : Shows session.lines index moved := by
    rcases Nat.exists_eq_add_of_le' positive with ⟨steps, rfl⟩
    have inside : session.lines.length - 1 < session.lines.length := by
      have some := List.length_pos_iff.mpr filled
      omega
    have last := shows_last recallable rfl fresh filled
    have earlier := last.previous_repeated recallable inside steps
    have later := earlier.next_repeated recallable on
    rw [Nat.sub_sub, Nat.add_comm 1] at later
    change Shows session.lines index
      ((session.updates (List.replicate (steps + 1) .previous)).updates
        (List.replicate on .next)) at later
    rwa [updates, updates, ← List.foldl_append] at later
  cases shows with
  | line found kept recalled value position =>
      refine ⟨fun _ => ⟨by rw [value, found], by rw [value, position], recalled⟩, ?_⟩
      intro beyond
      rw [List.getElem?_eq_none beyond] at found
      cases found
  | nothing beyond kept recalled value position =>
      exact ⟨fun inside => absurd inside (Nat.not_lt_of_le beyond),
        fun _ => ⟨value, position, recalled⟩⟩

theorem lines_are_recalled_twoLines :
    let session := updates { prompt := text "> ", engine := {} }
      [.typed "print 1;".toList, .submitted, .typed " 2;\t".toList, .submitted]
    let moved (back on : Nat) :=
      session.updates (List.replicate back .previous ++ List.replicate on .next)
    (session.recalled = none ∧ session.lines ≠ []) ∧
      (moved 5 0).field.value = "print 1;".toList ∧ (moved 5 1).field.value = " 2; ".toList ∧
      (moved 5 1).recalled = some 1 ∧ (moved 1 1).field.value = [] ∧
      (moved 1 1).recalled = none := by
  intro session moved
  have lines : session.lines = ["print 1;".toList, " 2; ".toList] := by decide +kernel
  have fresh : session.recalled = none := by decide +kernel
  have filled : session.lines ≠ [] := by simp [lines]
  have recalls (back on : Nat) := lines_are_recalled (text "> ") {}
    [.typed "print 1;".toList, .submitted, .typed " 2;\t".toList, .submitted] back on fresh filled
  have length : session.lines.length = 2 := by rw [lines]; rfl
  have clamped : session.lines.length - 5 + 0 < session.lines.length := by omega
  have between : session.lines.length - 5 + 1 < session.lines.length := by omega
  have beyond : session.lines.length ≤ session.lines.length - 1 + 1 := by omega
  rcases (recalls 5 0 (by decide)).1 clamped with ⟨first, -, -⟩
  rcases (recalls 5 1 (by decide)).1 between with ⟨second, -, recalled⟩
  rcases (recalls 1 1 (by decide)).2 beyond with ⟨nothing, -, unrecalled⟩
  change session.lines[session.lines.length - 5 + 0]? = some (moved 5 0).field.value at first
  change session.lines[session.lines.length - 5 + 1]? = some (moved 5 1).field.value at second
  rw [lines] at first second
  exact ⟨⟨fresh, filled⟩, (Option.some.inj first).symm, (Option.some.inj second).symm, recalled,
    nothing, unrecalled⟩

end Scriptlet.Session
