import Scriptlet.Proofs.Command.Targets

/-!
# Checks of layout

A check counts the scripts that layout would change. Each script is taken once, so taking one does
not touch what a later one holds, even where scripts are laid out as they are checked. What is
counted are therefore the scripts that are not canonical before the check.
-/

namespace Scriptlet

namespace Formatting

/-- The scripts that layout changes. -/
def unsettled (tree : FileTree) (paths : List Path) : List Path :=
  paths.filter fun path => Layout.format (tree.source path) ≠ tree.source path

theorem mem_unsettled {tree : FileTree} {paths : List Path} {path : Path} :
    path ∈ unsettled tree paths ↔ path ∈ paths ∧ ¬Layout.Canonical (tree.source path) := by
  rw [unsettled, List.mem_filter, decide_eq_true_eq, ne_eq, Layout.format_eq_self_iff]

theorem unsettled_congr {tree other : FileTree} {paths : List Path}
    (same : ∀ path ∈ paths, other.source path = tree.source path) :
    unsettled other paths = unsettled tree paths := by
  apply List.filter_congr
  intro path member
  rw [same path member]

theorem source_take_of_ne (task : Task) (progress : Progress) {path other : Path}
    (different : other ≠ path) (source : Text) :
    (progress.take task path source).tree.source other = progress.tree.source other := by
  simp only [Progress.take]
  split
  · rw [FileTree.source, FileTree.file?_write, if_neg different]
    rfl
  · rfl

theorem changed_take (task : Task) (progress : Progress) (path : Path) :
    (progress.take task path (progress.tree.source path)).changed =
      progress.changed + (unsettled progress.tree [path]).length := by
  simp only [Progress.take, unsettled, List.filter_cons, List.filter_nil, decide_eq_true_eq]
  split <;> rfl

/-- Scripts without faults are all taken, and those count that layout changes. -/
theorem takeAll_of_faultless (task : Task) (progress : Progress) {paths : List Path}
    (distinct : paths.Nodup)
    (faultless : ∀ path ∈ paths, Layout.verify (progress.tree.source path) = none) :
    (takeAll task progress paths).2 = none ∧
      (takeAll task progress paths).1.changed =
        progress.changed + (unsettled progress.tree paths).length := by
  induction paths generalizing progress with
  | nil => exact ⟨rfl, rfl⟩
  | cons first rest ih =>
      rw [List.nodup_cons] at distinct
      rw [List.forall_mem_cons] at faultless
      -- No later script is the first one, so none has changed when its turn comes.
      have untouched : ∀ path ∈ rest,
          (progress.take task first (progress.tree.source first)).tree.source path =
            progress.tree.source path := by
        intro path member
        apply source_take_of_ne
        rintro rfl
        exact distinct.1 member
      have restFaultless : ∀ path ∈ rest, Layout.verify
          ((progress.take task first (progress.tree.source first)).tree.source path) = none := by
        intro path member
        rw [untouched path member, faultless.2 path member]
      rcases ih _ distinct.2 restFaultless with ⟨done, counted⟩
      rw [takeAll_cons, faultless.1]
      refine ⟨done, ?_⟩
      have parts : unsettled progress.tree (first :: rest) =
          unsettled progress.tree [first] ++ unsettled progress.tree rest :=
        List.filter_append [first] rest
      rw [counted, changed_take, unsettled_congr untouched, parts, List.length_append,
        Nat.add_assoc]

/-- A check that takes all scripts tells how many of them layout changes. -/
theorem perform_of_done {environment : Environment} {targets : List Text} {scripts : List Path}
    {inPlace : Bool} {final : Progress} (found : allScripts environment targets = .ok scripts)
    (done : takeAll ⟨inPlace, true⟩ { tree := environment.tree } (ordered scripts) =
      (final, none)) :
    let outcome := perform ⟨inPlace, true⟩ environment targets
    outcome.status = (if final.changed = 0 then .success else .failure) ∧
      outcome.notes = if final.changed = 0 then [] else
        text "lax fmt: " ++ Text.ofNat final.changed ++ text " file(s) need formatting\n" := by
  simp only [perform, found, done, Bool.true_and, decide_eq_true_eq]
  by_cases nothing : final.changed = 0
  · rw [if_neg (not_not_intro nothing), if_pos nothing, if_pos nothing]
    exact ⟨rfl, rfl⟩
  · rw [if_pos nothing, if_neg nothing, if_neg nothing]
    exact ⟨rfl, rfl⟩

end Formatting

namespace Command

open Formatting

/-- Layout is idempotent, and it leaves the canonical texts alone and no others. So a check of
scripts without faults flags exactly those that are not canonical: it fails if there are some, and
its note tells how many. -/
theorem check_flags_uncanonical :
    (∀ source, Layout.format (Layout.format source) = Layout.format source) ∧
    (∀ source, Layout.format source = source ↔ Layout.Canonical source) ∧
    ∀ (environment : Environment) (inPlace : Bool) (targets : List Text),
      (∀ target ∈ targets, ∃ node,
        environment.tree.find environment.folder target = .ok node) →
      (∀ path original, Holds environment targets path original →
        Layout.verify original = none) →
      ∃ flagged : List Path, flagged.Nodup ∧
        (∀ path, path ∈ flagged ↔ ∃ original, Holds environment targets path original ∧
          ¬Layout.Canonical original) ∧
        let outcome := perform environment (.format inPlace true targets)
        outcome.status = (if flagged.length = 0 then .success else .failure) ∧
        outcome.notes = if flagged.length = 0 then [] else
          text "lax fmt: " ++ Text.ofNat flagged.length ++
            text " file(s) need formatting\n" := by
  refine ⟨Layout.format_format, fun source => Layout.format_eq_self_iff, ?_⟩
  intro environment inPlace targets exist faultless
  rcases exists_allScripts exist with ⟨scripts, found, holds_iff⟩
  have verified : ∀ path ∈ ordered scripts,
      Layout.verify (environment.tree.source path) = none := by
    intro path member
    exact faultless path _ ((holds_iff path _).mpr ⟨mem_ordered.mp member, rfl⟩)
  rcases takeAll_of_faultless ⟨inPlace, true⟩ { tree := environment.tree }
    (nodup_ordered scripts) verified with ⟨done, counted⟩
  refine ⟨unsettled environment.tree (ordered scripts), (nodup_ordered scripts).filter _, ?_, ?_⟩
  · intro path
    rw [mem_unsettled, mem_ordered]
    constructor
    · rintro ⟨member, uncanonical⟩
      exact ⟨_, (holds_iff path _).mpr ⟨member, rfl⟩, uncanonical⟩
    · rintro ⟨original, holds, uncanonical⟩
      rcases (holds_iff path original).mp holds with ⟨member, rfl⟩
      exact ⟨member, uncanonical⟩
  · rcases perform_of_done found (Prod.ext rfl done) with ⟨status, notes⟩
    rw [counted, Nat.zero_add] at status notes
    exact ⟨status, notes⟩

/-- A folder with a script that needs no layout, one that does, and something that is no script. -/
def partlyTidyFolder : Environment where
  tree := { files := [([text "d", text "a.lax"], text "print 1;\n"),
    ([text "d", text "b.lax"], text "print 2; \r\n"), ([text "d", text "notes"], text "a \n")] }

theorem check_flags_partlyTidyFolder :
    let targets := [text "d", text "d/./b.lax"]
    ((∀ target ∈ targets, ∃ node,
        partlyTidyFolder.tree.find partlyTidyFolder.folder target = .ok node) ∧
      ∀ path original, Holds partlyTidyFolder targets path original →
        Layout.verify original = none) ∧
      (∃ flagged : List Path, flagged.Nodup ∧ [text "d", text "a.lax"] ∉ flagged ∧
        [text "d", text "b.lax"] ∈ flagged ∧
        (perform partlyTidyFolder (.format false true targets)).notes =
          text "lax fmt: " ++ Text.ofNat flagged.length ++ text " file(s) need formatting\n") ∧
      (perform partlyTidyFolder (.format false true targets)).status = .failure := by
  intro targets
  have exist : ∀ target ∈ targets, ∃ node,
      partlyTidyFolder.tree.find partlyTidyFolder.folder target = .ok node :=
    List.forall_mem_cons.mpr ⟨⟨_, rfl⟩, List.forall_mem_cons.mpr ⟨⟨_, rfl⟩, by simp⟩⟩
  have computed : allScripts partlyTidyFolder targets =
      .ok [[text "d", text "a.lax"], [text "d", text "b.lax"], [text "d", text "b.lax"]] := rfl
  rcases exists_allScripts exist with ⟨scripts, found, holds_iff⟩
  rw [computed, Except.ok.injEq] at found
  subst found
  have faultless : ∀ path original, Holds partlyTidyFolder targets path original →
      Layout.verify original = none := by
    intro path original holds
    rcases (holds_iff path original).mp holds with ⟨member, rfl⟩
    simp only [List.mem_cons, List.not_mem_nil, or_false, or_self] at member
    rcases member with rfl | rfl
    · decide +kernel
    · decide +kernel
  rcases check_flags_uncanonical with ⟨-, settled, flags⟩
  rcases flags partlyTidyFolder false targets exist faultless with
    ⟨flagged, distinct, members, status, notes⟩
  have tidy : [text "d", text "a.lax"] ∉ flagged := by
    rw [members]
    rintro ⟨original, holds, uncanonical⟩
    rcases (holds_iff _ _).mp holds with ⟨-, rfl⟩
    exact uncanonical ((settled _).mp (by decide +kernel))
  have untidy : [text "d", text "b.lax"] ∈ flagged := by
    rw [members]
    refine ⟨text "print 2; \r\n", (holds_iff _ _).mpr ⟨by simp, by decide +kernel⟩, ?_⟩
    rw [← settled]
    decide +kernel
  have some : flagged.length ≠ 0 := List.length_pos_of_mem untidy |>.ne'
  rw [if_neg some] at status notes
  exact ⟨⟨exist, faultless⟩, ⟨flagged, distinct, tidy, untidy, notes⟩, status⟩

end Command

end Scriptlet
