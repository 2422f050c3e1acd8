import Scriptlet.Proofs.Command.Targets

/-!
# What laying out in place writes

Scripts are laid out one after the other, in the order of their paths, until one has a fault. Files
before that one are laid out, that one and those after it are left alone, and so is everything that
is no script or that no target leads to.
-/

namespace Scriptlet

namespace FileTree

/-- Where the shape is kept, a file is known by what it holds. -/
theorem SameShape.file?_eq {tree other : FileTree} (same : tree.SameShape other) (path : Path) :
    other.file? path = (tree.file? path).map fun _ => other.source path := by
  have held := same.isSome_file? path
  cases found : tree.file? path with
  | none =>
      rw [found, Option.isSome_none, Option.isSome_eq_false_iff, Option.isNone_iff_eq_none] at held
      rw [held, Option.map_none]
  | some content =>
      rw [found, Option.isSome_some] at held
      rw [file?_eq_source held, Option.map_some]

end FileTree

namespace Formatting

section

variable {tree other : FileTree} {taken left : List Path} {path later : Path}

namespace LaidOut

theorem file?_of_taken (laidOut : LaidOut tree other taken left) (member : path ∈ taken)
    {original : Text} (found : tree.file? path = some original) :
    other.file? path = some (Layout.format original) := by
  rw [laidOut.shape.file?_eq, found, Option.map_some, laidOut.source, if_pos member,
    FileTree.source_eq_of_file? found]

theorem file?_of_not_taken (laidOut : LaidOut tree other taken left) (fresh : path ∉ taken) :
    other.file? path = tree.file? path := by
  rw [laidOut.shape.file?_eq, laidOut.source, if_neg fresh]
  cases found : tree.file? path with
  | none => rfl
  | some content => rw [Option.map_some, FileTree.source_eq_of_file? found]

/-- What is left has a fault or comes after something that has one. -/
theorem exists_faulty (laidOut : LaidOut tree other taken left)
    (sorted : (taken ++ left).Pairwise fun first second => first.text ≤ second.text)
    (member : path ∈ left) :
    ∃ faulty ∈ left, faulty.text ≤ path.text ∧ Layout.verify (tree.source faulty) ≠ none := by
  cases left with
  | nil => cases member
  | cons first rest =>
      refine ⟨first, List.mem_cons_self, ?_, laidOut.faulty first rfl⟩
      rcases List.mem_cons.mp member with rfl | later
      · exact List.le_refl _
      · exact List.rel_of_pairwise_cons (List.pairwise_append.mp sorted).2.1 later

end LaidOut

/-- Nothing that comes after something left was taken. -/
theorem not_mem_taken (named : ∀ path ∈ taken ++ left, path.IsNamed)
    (sorted : (taken ++ left).Pairwise fun first second => first.text ≤ second.text)
    (distinct : (taken ++ left).Nodup) (member : path ∈ left) (after : path.text ≤ later.text) :
    later ∉ taken := by
  intro early
  have before := (List.pairwise_append.mp sorted).2.2 later early path member
  have same : later = path := Path.text_injective
    (named later (List.mem_append_left left early))
    (named path (List.mem_append_right taken member)) (List.le_antisymm before after)
  rw [same] at early
  exact List.disjoint_of_nodup_append distinct early member

end

variable {task : Task} {environment : Environment} {targets others : List Text}
  {scripts : List Path}

theorem status_perform_eq_badData_iff (found : allScripts environment targets = .ok scripts) :
    (perform task environment targets).status = .badData ↔
      (takeAll task { tree := environment.tree } (ordered scripts)).2 ≠ none := by
  simp only [perform, found]
  split
  · rename_i stopped
    simp [stopped]
  · rename_i done
    rw [done]
    split <;> simp

/-- Where a target leads nowhere, the command stops before anything is done. -/
theorem tree_perform_of_nowhere (task : Task)
    (nowhere : ∃ target ∈ targets, ∀ node,
      environment.tree.find environment.folder target ≠ .ok node) :
    (perform task environment targets).tree = environment.tree := by
  rcases allScripts_cases environment targets with ⟨problem, stopped, -⟩ | ⟨-, -, exist, -⟩
  · simp only [perform, stopped]
    rfl
  · rcases nowhere with ⟨target, member, nowhere⟩
    rcases exist target member with ⟨node, found⟩
    exact absurd found (nowhere node)

/-- The same targets give the same outcome, in whatever order and however often they are given. -/
theorem perform_congr (task : Task) (named : environment.tree.IsNamed)
    (exist : ∀ target ∈ targets, ∃ node,
      environment.tree.find environment.folder target = .ok node)
    (same : ∀ target, target ∈ others ↔ target ∈ targets) :
    perform task environment others = perform task environment targets := by
  rcases exists_allScripts exist with ⟨scripts, found, holds_iff⟩
  rcases exists_allScripts fun target member => exist target ((same target).mp member) with
    ⟨otherScripts, otherFound, otherHolds_iff⟩
  have members : ∀ path, path ∈ otherScripts ↔ path ∈ scripts := by
    intro path
    have both : Holds environment others path (environment.tree.source path) ↔
        Holds environment targets path (environment.tree.source path) := Holds.congr same
    rwa [holds_iff, otherHolds_iff, and_iff_left rfl, and_iff_left rfl] at both
  have scriptsNamed : ∀ path ∈ scripts, path.IsNamed := by
    intro path member
    exact ((holds_iff path _).mpr ⟨member, rfl⟩).isNamed named
  simp only [perform, found, otherFound, ordered_congr members scriptsNamed]

/-- Where all targets lead somewhere, the scripts that they lead to fall into those that are taken
and those that are left, in the order of their paths. Some are left exactly if the command ends with
bad data. -/
theorem exists_laidOut (inPlace : task.inPlace)
    (exist : ∀ target ∈ targets, ∃ node,
      environment.tree.find environment.folder target = .ok node) :
    ∃ taken left,
      (∀ path original, Holds environment targets path original ↔
        path ∈ taken ++ left ∧ environment.tree.source path = original) ∧
      (taken ++ left).Pairwise (fun first second => first.text ≤ second.text) ∧
      (taken ++ left).Nodup ∧
      ((perform task environment targets).status = .badData ↔ left ≠ []) ∧
      LaidOut environment.tree (perform task environment targets).tree taken left := by
  rcases exists_allScripts exist with ⟨scripts, found, holds_iff⟩
  rcases takeAll_parts inPlace { tree := environment.tree } (nodup_ordered scripts) with
    ⟨taken, left, parts, done, laidOut⟩
  refine ⟨taken, left, ?_, ?_, ?_, ?_, ?_⟩
  · intro path original
    rw [holds_iff, ← parts, mem_ordered]
  · rw [← parts]
    exact pairwise_ordered scripts
  · rw [← parts]
    exact nodup_ordered scripts
  · rw [status_perform_eq_badData_iff found, ne_eq, done]
  · rwa [tree_perform found]

end Formatting

namespace Command

open Formatting

/-- Laying out in place touches only what it may, in every tree whose names are as file systems have
them. It changes no file but scripts that targets lead to and that have no fault, and it changes
these into their layouts. A script with a fault and all files after it are left alone, and the
command ends with status 65; all scripts before the first one with a fault are laid out. The order
and the repetition of targets do not matter. Where a target leads nowhere, no file is changed. The
tree has no links, and every file in it can be read and written. -/
theorem write_touches_only_reached (environment : Environment) (onlyCheck : Bool)
    (targets : List Text) (named : environment.tree.IsNamed) :
    let outcome := perform environment (.format true onlyCheck targets)
    let before := environment.tree.file?
    let after := outcome.tree.file?
    ((∃ target ∈ targets, ∀ node,
        environment.tree.find environment.folder target ≠ .ok node) →
      outcome.tree = environment.tree) ∧
    ((∀ target ∈ targets, ∃ node,
        environment.tree.find environment.folder target = .ok node) →
      outcome.tree.folders = environment.tree.folders ∧
      (∀ path, after path ≠ before path → ∃ original, Holds environment targets path original ∧
        Layout.verify original = none ∧ after path = some (Layout.format original)) ∧
      (∀ path original, Holds environment targets path original →
        Layout.verify original ≠ none →
          outcome.status.code = 65 ∧
            ∀ later : Path, path.text ≤ later.text → after later = before later) ∧
      (∀ path original, Holds environment targets path original →
        (∀ earlier content, Holds environment targets earlier content →
          earlier.text ≤ path.text → Layout.verify content = none) →
          after path = some (Layout.format original)) ∧
      ∀ others : List Text, (∀ target, target ∈ others ↔ target ∈ targets) →
        perform environment (.format true onlyCheck others) = outcome) := by
  intro outcome before after
  refine ⟨tree_perform_of_nowhere ⟨true, onlyCheck⟩, ?_⟩
  intro exist
  have inPlace : Task.inPlace ⟨true, onlyCheck⟩ := rfl
  rcases exists_laidOut inPlace exist with
    ⟨taken, left, holds_iff, sorted, distinct, status_iff, laidOut⟩
  change LaidOut environment.tree outcome.tree taken left at laidOut
  refine ⟨laidOut.shape.folders, ?_, ?_, ?_, fun others => perform_congr _ named exist⟩
  · intro path changed
    have member : path ∈ taken := by
      by_contra fresh
      exact changed (laidOut.file?_of_not_taken fresh)
    have holds := (holds_iff path _).mpr ⟨List.mem_append_left left member, rfl⟩
    exact ⟨_, holds, laidOut.faultless path member, laidOut.file?_of_taken member holds.content⟩
  · intro path original holds faulty
    rcases (holds_iff path original).mp holds with ⟨member, rfl⟩
    have isLeft : path ∈ left := by
      rcases List.mem_append.mp member with early | isLeft
      · exact absurd (laidOut.faultless path early) faulty
      · exact isLeft
    have status : outcome.status = .badData := status_iff.mpr (List.ne_nil_of_mem isLeft)
    have allNamed : ∀ path ∈ taken ++ left, path.IsNamed := by
      intro path member
      exact ((holds_iff path _).mpr ⟨member, rfl⟩).isNamed named
    refine ⟨by rw [status]; rfl, ?_⟩
    intro later follows
    exact laidOut.file?_of_not_taken (not_mem_taken allNamed sorted distinct isLeft follows)
  · intro path original holds faultless
    rcases (holds_iff path original).mp holds with ⟨member, rfl⟩
    refine laidOut.file?_of_taken ?_ holds.content
    by_contra fresh
    have isLeft : path ∈ left := (List.mem_append.mp member).resolve_left fresh
    rcases laidOut.exists_faulty sorted isLeft with ⟨first, firstLeft, precedes, faulty⟩
    have firstHolds := (holds_iff first _).mpr ⟨List.mem_append_right taken firstLeft, rfl⟩
    exact faulty (faultless first _ firstHolds precedes)

/-- A folder with two scripts that need layout, and one with a fault between them. -/
def faultyFolder : Environment where
  tree := { files := [([text "d", text "c.lax"], text "print 3; \n"),
    ([text "d", text "b.lax"], text "print 2 \n"), ([text "d", text "a.lax"], text "print 1; \n"),
    ([text "d", text "notes"], text "a \n")] }

theorem write_touches_only_reached_faultyFolder :
    let targets := [text "d/c.lax", text "d"]
    let outcome := perform faultyFolder (.format true false targets)
    (faultyFolder.tree.IsNamed ∧
      (∀ target ∈ targets, ∃ node,
        faultyFolder.tree.find faultyFolder.folder target = .ok node) ∧
      Holds faultyFolder targets [text "d", text "b.lax"] (text "print 2 \n") ∧
      Layout.verify (text "print 2 \n") ≠ none) ∧
      outcome.status.code = 65 ∧
      outcome.tree.file? [text "d", text "a.lax"] = some (text "print 1;\n") ∧
      outcome.tree.file? [text "d", text "b.lax"] = some (text "print 2 \n") ∧
      outcome.tree.file? [text "d", text "c.lax"] = some (text "print 3; \n") ∧
      perform faultyFolder (.format true false [text "d", text "d/c.lax", text "d"]) =
        outcome ∧
      (perform faultyFolder (.format true false [text "d", text "e"])).tree =
        faultyFolder.tree := by
  intro targets outcome
  have named : faultyFolder.tree.IsNamed := by
    unfold FileTree.IsNamed Path.IsNamed
    decide
  have exist : ∀ target ∈ targets, ∃ node,
      faultyFolder.tree.find faultyFolder.folder target = .ok node :=
    List.forall_mem_cons.mpr ⟨⟨_, rfl⟩, List.forall_mem_cons.mpr ⟨⟨_, rfl⟩, by simp⟩⟩
  have computed : allScripts faultyFolder targets =
      .ok [[text "d", text "c.lax"], [text "d", text "c.lax"], [text "d", text "b.lax"],
        [text "d", text "a.lax"]] := rfl
  rcases exists_allScripts exist with ⟨scripts, found, holds_iff⟩
  rw [computed, Except.ok.injEq] at found
  subst found
  have faulty : Layout.verify (text "print 2 \n") ≠ none := by decide +kernel
  have holdsFirst : Holds faultyFolder targets [text "d", text "a.lax"] (text "print 1; \n") :=
    (holds_iff _ _).mpr ⟨by simp, by decide +kernel⟩
  have holdsSecond : Holds faultyFolder targets [text "d", text "b.lax"] (text "print 2 \n") :=
    (holds_iff _ _).mpr ⟨by simp, by decide +kernel⟩
  have faultless : ∀ earlier content, Holds faultyFolder targets earlier content →
      earlier.text ≤ Path.text [text "d", text "a.lax"] → Layout.verify content = none := by
    intro earlier content holds precedes
    rcases (holds_iff earlier content).mp holds with ⟨member, rfl⟩
    simp only [List.mem_cons, List.not_mem_nil, or_false] at member
    rcases member with rfl | rfl | rfl | rfl
    · exact absurd precedes (by decide +kernel)
    · exact absurd precedes (by decide +kernel)
    · exact absurd precedes (by decide +kernel)
    · decide +kernel
  rcases (write_touches_only_reached faultyFolder false targets named).2 exist with
    ⟨-, -, stops, laysOut, others⟩
  rcases stops _ _ holdsSecond faulty with ⟨status, leaves⟩
  refine ⟨⟨named, exist, holdsSecond, faulty⟩, status, ?_, ?_, ?_, ?_, ?_⟩
  · rw [laysOut _ _ holdsFirst faultless]
    decide +kernel
  · rw [leaves _ (List.le_refl _)]
    rfl
  · rw [leaves _ (by decide +kernel)]
    rfl
  · apply others
    intro target
    simp only [targets, List.mem_cons, List.not_mem_nil, or_false]
    rw [or_left_comm, or_self]
  · have missing : faultyFolder.tree.find faultyFolder.folder (text "e") = .error .missing := rfl
    exact (write_touches_only_reached faultyFolder false [text "d", text "e"] named).1
      ⟨text "e", by simp, by simp [missing]⟩

end Command

end Scriptlet
