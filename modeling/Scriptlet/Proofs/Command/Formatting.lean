import Mathlib.Data.List.Basic
import Scriptlet.Proofs.Layout.Canonical
import Scriptlet.Proofs.Validation

/-!
# Laying out scripts twice

Laying out in place keeps the shape of a tree (`FileTree.SameShape`), so the same targets stand for
the same scripts afterwards, each replaced by its layout. Layout does not change a layout, so a
second run changes nothing. A check reads every layout from scratch, and it may fail where a
carriage return cut a comment in two and uncovered what was behind it.
-/

namespace Scriptlet

namespace FileTree

/-- The source at a path; where there is no file it is empty. -/
def source (tree : FileTree) (path : Path) : Text :=
  (tree.file? path).getD []

/-- Two trees with files and folders at the same paths. -/
structure SameShape (tree other : FileTree) : Prop where
  paths : other.files.map Prod.fst = tree.files.map Prod.fst
  folders : other.folders = tree.folders

theorem isSome_file?_iff {tree : FileTree} {path : Path} :
    (tree.file? path).isSome ↔ path ∈ tree.files.map Prod.fst := by
  rw [file?, List.lookup_isSome_iff, List.mem_map]
  refine exists_congr fun entry => and_congr_right fun _ => ?_
  rw [beq_iff_eq, eq_comm]

theorem lookup_cons (here other : Path) (content : Text) (rest : List (Path × Text)) :
    List.lookup other ((here, content) :: rest) =
      if other = here then some content else rest.lookup other := by
  rw [List.lookup_cons]
  split
  · rename_i same
    rw [if_pos (eq_of_beq same)]
  · rename_i different
    rw [if_neg (ne_of_beq_false different)]

theorem lookup_replaced (files : List (Path × Text)) (path other : Path) (content : Text) :
    (files.map fun entry => if entry.1 = path then (path, content) else entry).lookup other =
      if other = path then (files.lookup path).map fun _ => content else files.lookup other := by
  induction files with
  | nil => simp
  | cons entry rest ih =>
      rcases entry with ⟨here, old⟩
      rw [List.map_cons]
      by_cases isHere : here = path
      · rw [if_pos isHere, lookup_cons, ih, lookup_cons, lookup_cons, isHere]
        split <;> simp
      · rw [if_neg isHere, lookup_cons, ih, lookup_cons, lookup_cons, if_neg (Ne.symm isHere)]
        split
        · rename_i same
          rw [same, if_neg isHere]
        · rfl

theorem file?_write (tree : FileTree) (path other : Path) (content : Text) :
    (tree.write path content).file? other =
      if other = path then some content else tree.file? other := by
  unfold write
  split
  · rename_i held
    rw [file?, lookup_replaced]
    rcases Option.isSome_iff_exists.mp held with ⟨old, found⟩
    change tree.files.lookup path = some old at found
    rw [found]
    rfl
  · rename_i missing
    rw [Option.not_isSome_iff_eq_none] at missing
    change tree.files.lookup path = none at missing
    rw [file?, List.lookup_append, lookup_cons, List.lookup_nil]
    split
    · rename_i same
      rw [same, missing]
      rfl
    · rw [Option.or_none]
      rfl

theorem sameShape_write {tree : FileTree} {path : Path} (held : (tree.file? path).isSome)
    (content : Text) : tree.SameShape (tree.write path content) := by
  rw [write, if_pos held]
  refine ⟨?_, rfl⟩
  rw [List.map_map]
  apply List.map_congr_left
  intro entry _
  simp only [Function.comp_apply]
  split
  · rename_i same
    exact same.symm
  · rfl

namespace SameShape

variable {tree other : FileTree}

theorem refl (tree : FileTree) : tree.SameShape tree :=
  ⟨rfl, rfl⟩

theorem trans {third : FileTree} (first : tree.SameShape other) (second : other.SameShape third) :
    tree.SameShape third :=
  ⟨second.paths.trans first.paths, second.folders.trans first.folders⟩

theorem isSome_file? (same : tree.SameShape other) (path : Path) :
    (other.file? path).isSome = (tree.file? path).isSome := by
  rw [Bool.eq_iff_iff, isSome_file?_iff, isSome_file?_iff, same.paths]

theorem hasFolder (same : tree.SameShape other) (path : Path) :
    other.hasFolder path = tree.hasFolder path := by
  have below : ∀ some : FileTree, (some.files.any fun entry => path.isBelow entry.1) =
      (some.files.map Prod.fst).any path.isBelow := by
    intro some
    rw [List.any_map]
    rfl
  simp only [FileTree.hasFolder, below, same.paths, same.folders]

theorem follow (same : tree.SameShape other) (folder : Path) (names : List Text) :
    other.follow folder names = tree.follow folder names := by
  have enters : other.enter = tree.enter := by
    funext path name
    simp only [enter, same.isSome_file?, same.hasFolder]
  rw [FileTree.follow, FileTree.follow, enters]

theorem filesBelow (same : tree.SameShape other) (folder : Path) :
    other.filesBelow folder = tree.filesBelow folder := by
  rw [FileTree.filesBelow, FileTree.filesBelow, same.paths]

/-- A written path leads to the same place in both trees, or to none in both. -/
theorem find_cases (same : tree.SameShape other) (folder : Path) (written : Text) :
    (∃ obstacle, tree.find folder written = .error obstacle ∧
      other.find folder written = .error obstacle) ∨
    (∃ path content changed, tree.find folder written = .ok (.file path content) ∧
      other.find folder written = .ok (.file path changed)) ∨
    ∃ path, tree.find folder written = .ok (.folder path) ∧
      other.find folder written = .ok (.folder path) := by
  unfold find
  by_cases empty : written.isEmpty
  · exact .inl ⟨.missing, by simp [empty], by simp [empty]⟩
  simp only [empty, Bool.false_eq_true, if_false, same.follow]
  cases tree.follow (if Path.isAbsolute written then [] else folder) (Path.names written) with
  | error obstacle => exact .inl ⟨obstacle, rfl, rfl⟩
  | ok path =>
      have held := same.isSome_file? path
      simp only [bind, Except.bind, same.hasFolder]
      cases found : tree.file? path with
      | none =>
          rw [found, Option.isSome_none, Option.isSome_eq_false_iff, Option.isNone_iff_eq_none]
            at held
          rw [held]
          cases tree.hasFolder path with
          | true => exact .inr (.inr ⟨path, rfl, rfl⟩)
          | false => exact .inl ⟨.missing, rfl, rfl⟩
      | some content =>
          rw [found, Option.isSome_some, Option.isSome_iff_exists] at held
          rcases held with ⟨changed, held⟩
          rw [held]
          exact .inr (.inl ⟨path, content, changed, rfl, rfl⟩)

theorem targetScripts {environment : Environment} (same : environment.tree.SameShape other)
    (target : Text) :
    Formatting.targetScripts { environment with tree := other } target =
      Formatting.targetScripts environment target := by
  rcases same.find_cases environment.folder target with ⟨obstacle, before, after⟩ |
    ⟨path, content, changed, before, after⟩ | ⟨path, before, after⟩
  · simp only [Formatting.targetScripts, before, after]
  · simp only [Formatting.targetScripts, before, after]
  · simp only [Formatting.targetScripts, before, after, same.filesBelow]

theorem allScripts {environment : Environment} (same : environment.tree.SameShape other)
    (targets : List Text) :
    Formatting.allScripts { environment with tree := other } targets =
      Formatting.allScripts environment targets := by
  induction targets with
  | nil => rfl
  | cons target rest ih => simp only [Formatting.allScripts, same.targetScripts, ih]

end SameShape

end FileTree

namespace Formatting

theorem nodup_eraseDups (paths : List Path) : paths.eraseDups.Nodup := by
  -- What is left behind the first path is filtered, so the induction is on the length.
  induction count : paths.length using Nat.strongRecOn generalizing paths with
  | ind length ih =>
    cases paths with
    | nil => simp
    | cons path rest =>
        rw [List.eraseDups_cons, List.nodup_cons]
        refine ⟨by simp [List.mem_eraseDups], ih _ ?_ _ rfl⟩
        rw [← count]
        exact Nat.lt_succ_of_le (List.length_filter_le _ _)

theorem nodup_ordered (paths : List Path) : (ordered paths).Nodup :=
  (List.mergeSort_perm _ _).nodup_iff.mpr (nodup_eraseDups paths)

theorem mem_ordered {paths : List Path} {path : Path} : path ∈ ordered paths ↔ path ∈ paths :=
  List.mem_mergeSort.trans List.mem_eraseDups

section Taking

variable {task : Task} {progress final : Progress} {paths : List Path}

theorem take_of_settled (task : Task) (progress : Progress) (path : Path) {source : Text}
    (settled : Layout.format source = source) :
    (progress.take task path source).tree = progress.tree ∧
      (progress.take task path source).changed = progress.changed := by
  simp [Progress.take, settled]

theorem sameShape_take (task : Task) (progress : Progress) (path : Path) :
    progress.tree.SameShape (progress.take task path (progress.tree.source path)).tree := by
  cases held : progress.tree.file? path with
  | none =>
      have empty : progress.tree.source path = [] := by rw [FileTree.source, held, Option.getD_none]
      rw [empty, (take_of_settled task progress path rfl).1]
      exact .refl _
  | some content =>
      simp only [Progress.take]
      split
      · exact FileTree.sameShape_write (by rw [held, Option.isSome_some]) _
      · exact .refl _

theorem source_take (inPlace : task.inPlace) (progress : Progress) (path other : Path) :
    (progress.take task path (progress.tree.source path)).tree.source other =
      if other = path then Layout.format (progress.tree.source path)
      else progress.tree.source other := by
  by_cases settled : Layout.format (progress.tree.source path) = progress.tree.source path
  · rw [(take_of_settled task progress path settled).1, settled]
    split
    · rename_i same
      rw [same]
    · rfl
  · have written : (progress.take task path (progress.tree.source path)).tree =
        progress.tree.write path (Layout.format (progress.tree.source path)) := by
      simp [Progress.take, inPlace, settled]
    rw [written, FileTree.source, FileTree.file?_write]
    split <;> rfl

theorem takeAll_cons (task : Task) (progress : Progress) (path : Path) (rest : List Path) :
    takeAll task progress (path :: rest) =
      match Layout.verify (progress.tree.source path) with
      | some failure => (progress, some (path, failure))
      | none => takeAll task (progress.take task path (progress.tree.source path)) rest :=
  rfl

/-- Scripts that are laid out already are all left alone, and none of them counts as changed. -/
theorem takeAll_of_settled (task : Task) (progress : Progress)
    (settled : ∀ path ∈ paths,
      Layout.format (progress.tree.source path) = progress.tree.source path) :
    (takeAll task progress paths).1.tree = progress.tree ∧
      (takeAll task progress paths).1.changed = progress.changed ∧
      ((takeAll task progress paths).2 = none ↔
        ∀ path ∈ paths, Layout.verify (progress.tree.source path) = none) := by
  induction paths generalizing progress with
  | nil => simp [takeAll]
  | cons path rest ih =>
      rw [List.forall_mem_cons] at settled
      rw [takeAll_cons]
      cases verified : Layout.verify (progress.tree.source path) with
      | some failure => simp [verified]
      | none =>
          rcases take_of_settled task progress path settled.1 with ⟨sameTree, sameCount⟩
          have next := ih (progress.take task path (progress.tree.source path))
          rw [sameTree, sameCount] at next
          rw [List.forall_mem_cons]
          simpa [verified] using next settled.2

/-- What laying out in place does to a tree: it replaces scripts by their layouts, and nothing else,
and it leaves off where one has a fault. -/
structure LaidOut (tree other : FileTree) (taken left : List Path) : Prop where
  faultless : ∀ path ∈ taken, Layout.verify (tree.source path) = none
  faulty : ∀ path ∈ left.head?, Layout.verify (tree.source path) ≠ none
  shape : tree.SameShape other
  source : ∀ path, other.source path =
    if path ∈ taken then Layout.format (tree.source path) else tree.source path

theorem takeAll_parts (inPlace : task.inPlace) (progress : Progress) (distinct : paths.Nodup) :
    ∃ taken left, paths = taken ++ left ∧ ((takeAll task progress paths).2 = none ↔ left = []) ∧
      LaidOut progress.tree (takeAll task progress paths).1.tree taken left := by
  induction paths generalizing progress with
  | nil => exact ⟨[], [], rfl, by simp [takeAll], by simp, by simp, .refl _, fun _ => rfl⟩
  | cons first rest ih =>
      -- The first script is not among the rest, so taking it changes none of what comes later.
      rw [List.nodup_cons] at distinct
      rw [takeAll_cons]
      cases verified : Layout.verify (progress.tree.source first) with
      | some failure =>
          refine ⟨[], first :: rest, rfl, by simp, by simp, ?_, .refl _, fun _ => rfl⟩
          simp [verified]
      | none =>
          rcases ih (progress.take task first (progress.tree.source first)) distinct.2 with
            ⟨taken, left, rfl, done, laidOut⟩
          have fresh : first ∉ taken := fun member => distinct.1 (List.mem_append_left left member)
          have source := source_take inPlace progress first
          have others : ∀ path ∈ taken ++ left,
              (progress.take task first (progress.tree.source first)).tree.source path =
                progress.tree.source path := by
            intro path member
            have other : path ≠ first := by
              rintro rfl
              exact distinct.1 member
            rw [source path, if_neg other]
          refine ⟨first :: taken, left, rfl, done, ?_, ?_, ?_, ?_⟩
          · rw [List.forall_mem_cons]
            refine ⟨verified, ?_⟩
            intro path member
            rw [← others path (List.mem_append_left left member)]
            exact laidOut.faultless path member
          · intro path member
            rw [← others path (List.mem_append_right taken (List.mem_of_mem_head? member))]
            exact laidOut.faulty path member
          · exact (sameShape_take task progress first).trans laidOut.shape
          · intro path
            rw [laidOut.source path, source path]
            by_cases isFirst : path = first
            · rw [isFirst]
              simp [fresh]
            · simp [isFirst]

/-- Where no script has a fault, all are laid out. -/
theorem takeAll_inPlace (inPlace : task.inPlace) (distinct : paths.Nodup)
    (done : takeAll task progress paths = (final, none)) :
    LaidOut progress.tree final.tree paths [] := by
  rcases takeAll_parts inPlace progress distinct with ⟨taken, left, rfl, ended, laidOut⟩
  have nothingLeft : left = [] := ended.mp (congrArg Prod.snd done)
  rw [done, nothingLeft] at laidOut
  rwa [nothingLeft, List.append_nil]

end Taking

variable {task : Task} {environment : Environment} {targets : List Text} {scripts : List Path}

theorem tree_perform (found : allScripts environment targets = .ok scripts) :
    (perform task environment targets).tree =
      (takeAll task { tree := environment.tree } (ordered scripts)).1.tree := by
  simp only [perform, found]
  split
  · rename_i stopped
    rw [stopped]
  · rename_i done
    rw [done]
    split <;> rfl

theorem status_perform_eq_success_iff :
    (perform task environment targets).status = .success ↔
      ∃ scripts, allScripts environment targets = .ok scripts ∧
        (takeAll task { tree := environment.tree } (ordered scripts)).2 = none ∧
        (task.onlyCheck →
          (takeAll task { tree := environment.tree } (ordered scripts)).1.changed = 0) := by
  cases found : allScripts environment targets with
  | error problem => simp [perform, found, Outcome.stopped]
  | ok scripts =>
      simp only [perform, found, Except.ok.injEq, exists_eq_left']
      split
      · rename_i stopped
        simp [stopped]
      · rename_i done
        rw [done]
        cases task.onlyCheck with
        | false => simp
        | true =>
            dsimp only
            split <;> simp_all

/-- A script that laying out some targets is about. -/
def IsTargeted (environment : Environment) (targets : List Text) (path : Path) : Prop :=
  ∃ scripts, allScripts environment targets = .ok scripts ∧ path ∈ scripts

theorem isTargeted_iff (found : allScripts environment targets = .ok scripts) {path : Path} :
    IsTargeted environment targets path ↔ path ∈ scripts := by
  simp [IsTargeted, found]

end Formatting

/-- What a command leaves behind is what the next one finds. -/
def Environment.after (environment : Environment) (outcome : Outcome) : Environment :=
  { environment with tree := outcome.tree }

namespace Formatting

/-- Where laying out in place succeeds, the targets stand for the same scripts afterwards, and each
of them is the layout of what it was. -/
theorem exists_scripts_of_written (inPlace : task.inPlace)
    (written : (perform task environment targets).status = .success) :
    ∃ scripts, allScripts environment targets = .ok scripts ∧
      allScripts (environment.after (perform task environment targets)) targets = .ok scripts ∧
      ∀ path ∈ scripts, Layout.verify (environment.tree.source path) = none ∧
        (environment.after (perform task environment targets)).tree.source path =
          Layout.format (environment.tree.source path) := by
  rcases status_perform_eq_success_iff.mp written with ⟨scripts, found, done, -⟩
  rcases takeAll_inPlace inPlace (nodup_ordered scripts) (Prod.ext rfl done) with
    ⟨verified, -, shape, sources⟩
  rw [← tree_perform found] at shape sources
  refine ⟨scripts, found, ?_, ?_⟩
  · rw [← found]
    exact shape.allScripts targets
  · intro path member
    have taken := mem_ordered.mpr member
    refine ⟨verified path taken, ?_⟩
    have source := sources path
    rwa [if_pos taken] at source

/-- Where all scripts are laid out already, the command changes nothing, and it succeeds exactly if
all of them are without faults. -/
theorem perform_of_settled (task : Task) (found : allScripts environment targets = .ok scripts)
    (settled : ∀ path ∈ scripts,
      Layout.format (environment.tree.source path) = environment.tree.source path) :
    (perform task environment targets).tree = environment.tree ∧
      ((perform task environment targets).status = .success ↔
        ∀ path ∈ scripts, Layout.verify (environment.tree.source path) = none) := by
  have taken := takeAll_of_settled task { tree := environment.tree }
    fun path member => settled path (mem_ordered.mp member)
  rcases taken with ⟨sameTree, sameCount, verified⟩
  refine ⟨by rw [tree_perform found, sameTree], ?_⟩
  rw [status_perform_eq_success_iff, found]
  simp [sameCount, verified, mem_ordered]

end Formatting

namespace Command

open Formatting

/-- After scripts were laid out in place, laying them out again changes no file. A check succeeds
exactly if every script that was laid out is still without faults; it does so if what line comments
hold behind a carriage return is again blanks and comments. -/
theorem check_after_write (environment : Environment) (targets : List Text)
    (written : (perform environment (.format true false targets)).status = .success) :
    let after := environment.after (perform environment (.format true false targets))
    (perform after (.format true false targets)).tree = after.tree ∧
      ((perform after (.format false true targets)).status = .success ↔
        ∀ path, IsTargeted environment targets path →
          Layout.verify (Layout.format (environment.tree.source path)) = none) ∧
      ((∀ path, IsTargeted environment targets path →
          Layout.CommentsHarmless (environment.tree.source path)) →
        (perform after (.format false true targets)).status = .success) := by
  intro after
  rcases exists_scripts_of_written rfl written with ⟨scripts, found, foundAgain, laidOut⟩
  change ∀ path ∈ scripts, _ ∧ after.tree.source path = _ at laidOut
  have settled : ∀ path ∈ scripts,
      Layout.format (after.tree.source path) = after.tree.source path := by
    intro path member
    rw [(laidOut path member).2, Layout.format_format]
  have rewritten := perform_of_settled ⟨true, false⟩ foundAgain settled
  have checked := perform_of_settled ⟨false, true⟩ foundAgain settled
  have succeeds : (perform after (.format false true targets)).status = .success ↔
      ∀ path ∈ scripts, Layout.verify (Layout.format (environment.tree.source path)) = none := by
    refine checked.2.trans (forall₂_congr ?_)
    intro path member
    rw [← (laidOut path member).2]
    rfl
  simp only [isTargeted_iff found]
  refine ⟨rewritten.1, succeeds, ?_⟩
  intro harmless
  apply succeeds.mpr
  intro path member
  exact Layout.verify_format (laidOut path member).1 (harmless path member)

/-- A folder with a script that needs layout, and with something that is no script. -/
def untidyFolder : Environment where
  tree := { files := [([text "d", text "a.lax"], Layout.commented),
    ([text "d", text "notes"], text "a \r\n")] }

theorem check_after_write_untidyFolder :
    let targets := [text "d/../d", text "d/a.lax"]
    let after := untidyFolder.after (perform untidyFolder (.format true false targets))
    ((perform untidyFolder (.format true false targets)).status = .success ∧
      ∀ path, IsTargeted untidyFolder targets path →
        Layout.CommentsHarmless (untidyFolder.tree.source path)) ∧
      after.tree.source [text "d", text "a.lax"] ≠ Layout.commented ∧
      (perform after (.format true false targets)).tree = after.tree ∧
      (perform after (.format false true targets)).status = .success := by
  intro targets after
  have found : allScripts untidyFolder targets =
      .ok [[text "d", text "a.lax"], [text "d", text "a.lax"]] := rfl
  have harmless : ∀ path, IsTargeted untidyFolder targets path →
      Layout.CommentsHarmless (untidyFolder.tree.source path) := by
    intro path targeted
    rw [isTargeted_iff found] at targeted
    simp only [List.mem_cons, List.not_mem_nil, or_false, or_self] at targeted
    subst targeted
    exact Layout.commentsHarmless_commented
  have written : (perform untidyFolder (.format true false targets)).status = .success := by
    decide +kernel
  have changed : after.tree.source [text "d", text "a.lax"] ≠ Layout.commented := by
    decide +kernel
  rcases check_after_write untidyFolder targets written with ⟨same, -, succeeds⟩
  exact ⟨⟨written, harmless⟩, changed, same, succeeds harmless⟩

/-- A script that is all comment until its carriage return becomes a line feed. -/
def coveredScript : Environment where
  tree := { files := [([text "a.lax"], text "// a\rprint")] }

theorem check_fails_after_write :
    (perform coveredScript (.format true false [text "a.lax"])).status = .success ∧
      (perform
        (coveredScript.after (perform coveredScript (.format true false [text "a.lax"])))
        (.format false true [text "a.lax"])).status = .badData := by
  decide +kernel

end Command

end Scriptlet
