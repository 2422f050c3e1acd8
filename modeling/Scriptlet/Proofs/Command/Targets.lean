import Scriptlet.Proofs.Command.Formatting

/-!
# Targets of layout

A target is a written path. It leads to a script, or to a folder with scripts in it and below. The
scripts of all targets are taken by the texts of their paths, each once. Where names are as file
systems have them, a path is known by its text. Which scripts there are then settles their order:
neither the order of the targets nor how often they reach a script matters.
-/

namespace Scriptlet

/-- Whether names are as file systems have them: not empty, and without separators. -/
def Path.IsNamed (path : Path) : Prop :=
  ∀ name ∈ path, name ≠ [] ∧ separator ∉ name

/-- Whether the names of all files are as file systems have them. -/
def FileTree.IsNamed (tree : FileTree) : Prop :=
  ∀ entry ∈ tree.files, Path.IsNamed entry.1

namespace Path

/-- A path is the cut of its text at separators. -/
theorem splitOn_joinWith {path : Path} (named : path.IsNamed) (nonempty : path ≠ []) :
    (Text.joinWith [separator] path).splitOn separator = path :=
  List.splitOn_intercalate separator (fun name member => (named name member).2) nonempty

theorem joinWith_ne_nil {path : Path} (named : path.IsNamed) (nonempty : path ≠ []) :
    Text.joinWith [separator] path ≠ [] := by
  intro empty
  -- A cut of nothing is one empty name.
  have parts := splitOn_joinWith named nonempty
  rw [empty, List.splitOn_nil] at parts
  have first : [] ∈ path := by
    rw [← parts]
    exact List.mem_singleton_self []
  exact (named [] first).1 rfl

theorem text_injective {first second : Path} (named : first.IsNamed) (otherNamed : second.IsNamed)
    (same : first.text = second.text) : first = second := by
  have joined : Text.joinWith [separator] first = Text.joinWith [separator] second :=
    List.tail_eq_of_cons_eq same
  by_cases empty : first = []
  · by_cases otherEmpty : second = []
    · rw [empty, otherEmpty]
    · rw [empty] at joined
      exact absurd joined.symm (joinWith_ne_nil otherNamed otherEmpty)
  · by_cases otherEmpty : second = []
    · rw [otherEmpty] at joined
      exact absurd joined (joinWith_ne_nil named empty)
    · rw [← splitOn_joinWith named empty, joined, splitOn_joinWith otherNamed otherEmpty]

end Path

namespace FileTree

theorem IsNamed.of_held {tree : FileTree} (named : tree.IsNamed) {path : Path}
    (held : (tree.file? path).isSome) : path.IsNamed := by
  rw [isSome_file?_iff, List.mem_map] at held
  rcases held with ⟨entry, member, rfl⟩
  exact named entry member

theorem source_eq_of_file? {tree : FileTree} {path : Path} {content : Text}
    (found : tree.file? path = some content) : tree.source path = content := by
  rw [source, found, Option.getD_some]

theorem file?_eq_source {tree : FileTree} {path : Path} (held : (tree.file? path).isSome) :
    tree.file? path = some (tree.source path) := by
  rcases Option.isSome_iff_exists.mp held with ⟨content, found⟩
  rw [source_eq_of_file? found, found]

end FileTree

namespace Formatting

/-- The files that a target leads to: the target itself, or the files in the folder that it is. -/
inductive Reaches (environment : Environment) (target : Text) (path : Path) : Prop where
  | itself {content : Text}
      (found : environment.tree.find environment.folder target = .ok (.file path content))
  | inside {folder : Path}
      (found : environment.tree.find environment.folder target = .ok (.folder folder))
      (held : (environment.tree.file? path).isSome) (below : folder.isBelow path)

/-- A script that targets lead to, and what it holds. -/
structure Holds (environment : Environment) (targets : List Text) (path : Path) (original : Text) :
    Prop where
  script : isScript path
  reached : ∃ target ∈ targets, Reaches environment target path
  content : environment.tree.file? path = some original

variable {environment : Environment} {target : Text} {targets others : List Text} {path : Path}

theorem Holds.isNamed {original : Text} (holds : Holds environment targets path original)
    (named : environment.tree.IsNamed) : path.IsNamed :=
  named.of_held (by rw [holds.content, Option.isSome_some])

theorem Holds.congr (same : ∀ target, target ∈ others ↔ target ∈ targets) {original : Text} :
    Holds environment others path original ↔ Holds environment targets path original := by
  constructor
  · rintro ⟨script, ⟨target, member, reaches⟩, content⟩
    exact ⟨script, ⟨target, (same target).mp member, reaches⟩, content⟩
  · rintro ⟨script, ⟨target, member, reaches⟩, content⟩
    exact ⟨script, ⟨target, (same target).mpr member, reaches⟩, content⟩

theorem Reaches.isSome (reaches : Reaches environment target path) :
    (environment.tree.file? path).isSome := by
  cases reaches with
  | itself found => rw [FileTree.file?_of_find found, Option.isSome_some]
  | inside found held below => exact held

theorem reaches_iff_of_file {place : Path} {content : Text}
    (found : environment.tree.find environment.folder target = .ok (.file place content)) :
    Reaches environment target path ↔ path = place := by
  constructor
  · rintro (otherFound | ⟨otherFound, -, -⟩)
    · rw [found] at otherFound
      cases otherFound
      rfl
    · rw [found] at otherFound
      cases otherFound
  · rintro rfl
    exact .itself found

theorem reaches_iff_of_folder {place : Path}
    (found : environment.tree.find environment.folder target = .ok (.folder place)) :
    Reaches environment target path ↔ path ∈ environment.tree.filesBelow place := by
  rw [FileTree.filesBelow, List.mem_filter, ← FileTree.isSome_file?_iff]
  constructor
  · rintro (otherFound | ⟨otherFound, held, below⟩)
    · rw [found] at otherFound
      cases otherFound
    · rw [found] at otherFound
      cases otherFound
      exact ⟨held, below⟩
  · rintro ⟨held, below⟩
    exact .inside found held below

/-- A target stands for the scripts that it leads to, if it leads anywhere. -/
theorem targetScripts_cases (environment : Environment) (target : Text) :
    (∃ obstacle, environment.tree.find environment.folder target = .error obstacle ∧
      targetScripts environment target = .error obstacle) ∨
    ∃ node scripts, environment.tree.find environment.folder target = .ok node ∧
      targetScripts environment target = .ok scripts ∧
      ∀ path, path ∈ scripts ↔ isScript path ∧ Reaches environment target path := by
  cases found : environment.tree.find environment.folder target with
  | error obstacle => exact .inl ⟨obstacle, rfl, by simp only [targetScripts, found]⟩
  | ok node =>
      cases node with
      | file place content =>
          refine .inr ⟨_, [place].filter isScript, rfl, by simp only [targetScripts, found], ?_⟩
          intro path
          rw [List.mem_filter, List.mem_singleton, reaches_iff_of_file found, and_comm]
      | folder place =>
          refine .inr ⟨_, (environment.tree.filesBelow place).filter isScript, rfl,
            by simp only [targetScripts, found], ?_⟩
          intro path
          rw [List.mem_filter, reaches_iff_of_folder found, and_comm]

/-- All targets stand for the scripts that they lead to, if each of them leads somewhere. -/
theorem allScripts_cases (environment : Environment) (targets : List Text) :
    (∃ problem, allScripts environment targets = .error problem ∧
      ∃ target ∈ targets, ∀ node, environment.tree.find environment.folder target ≠ .ok node) ∨
    ∃ scripts, allScripts environment targets = .ok scripts ∧
      (∀ target ∈ targets, ∃ node, environment.tree.find environment.folder target = .ok node) ∧
      ∀ path, path ∈ scripts ↔
        isScript path ∧ ∃ target ∈ targets, Reaches environment target path := by
  induction targets with
  | nil => exact .inr ⟨[], rfl, by simp, by simp⟩
  | cons target rest ih =>
      rcases targetScripts_cases environment target with ⟨obstacle, found, stopped⟩ |
        ⟨node, scripts, found, here, members⟩
      · refine .inl ⟨(target, obstacle), by simp only [allScripts, stopped], target, ?_, ?_⟩
        · exact List.mem_cons_self
        · simp [found]
      · rcases ih with ⟨problem, stopped, missing, member, nowhere⟩ |
          ⟨more, later, exist, moreMembers⟩
        · exact .inl ⟨problem, by simp only [allScripts, here, stopped], missing,
            List.mem_cons_of_mem _ member, nowhere⟩
        · refine .inr ⟨scripts ++ more, by simp only [allScripts, here, later], ?_, ?_⟩
          · exact List.forall_mem_cons.mpr ⟨⟨node, found⟩, exist⟩
          · intro path
            rw [List.mem_append, members, moreMembers, List.exists_mem_cons_iff, and_or_left]

/-- Where all targets lead somewhere, the scripts that they stand for are those that they lead
to. -/
theorem exists_allScripts
    (exist : ∀ target ∈ targets, ∃ node,
      environment.tree.find environment.folder target = .ok node) :
    ∃ scripts, allScripts environment targets = .ok scripts ∧ ∀ path original,
      Holds environment targets path original ↔
        path ∈ scripts ∧ environment.tree.source path = original := by
  rcases allScripts_cases environment targets with ⟨-, -, target, member, nowhere⟩ |
    ⟨scripts, found, -, members⟩
  · rcases exist target member with ⟨node, found⟩
    exact absurd found (nowhere node)
  · refine ⟨scripts, found, ?_⟩
    intro path original
    constructor
    · rintro ⟨script, reached, content⟩
      exact ⟨(members path).mpr ⟨script, reached⟩, FileTree.source_eq_of_file? content⟩
    · rintro ⟨member, rfl⟩
      rcases (members path).mp member with ⟨script, target, targeted, reaches⟩
      refine ⟨script, ⟨target, targeted, reaches⟩, ?_⟩
      exact FileTree.file?_eq_source reaches.isSome

theorem comesBefore_trans (first second third : Path) (before : comesBefore first second)
    (later : comesBefore second third) : comesBefore first third :=
  decide_eq_true (List.le_trans (of_decide_eq_true before) (of_decide_eq_true later))

theorem comesBefore_total (first second : Path) :
    comesBefore first second || comesBefore second first := by
  rw [Bool.or_eq_true, comesBefore, comesBefore, decide_eq_true_eq, decide_eq_true_eq]
  exact List.le_total _ _

theorem pairwise_ordered (paths : List Path) :
    (ordered paths).Pairwise fun first second => first.text ≤ second.text :=
  (List.pairwise_mergeSort comesBefore_trans comesBefore_total _).imp of_decide_eq_true

/-- The same scripts are taken in the same order, however they are listed. -/
theorem ordered_congr {paths others : List Path} (same : ∀ path, path ∈ others ↔ path ∈ paths)
    (named : ∀ path ∈ paths, path.IsNamed) : ordered others = ordered paths := by
  have permuted : (ordered others).Perm (ordered paths) := by
    rw [List.perm_ext_iff_of_nodup (nodup_ordered others) (nodup_ordered paths)]
    intro path
    rw [mem_ordered, mem_ordered, same]
  refine permuted.eq_of_pairwise ?_ (pairwise_ordered others) (pairwise_ordered paths)
  intro first second inOthers inPaths before after
  rw [mem_ordered, same] at inOthers
  rw [mem_ordered] at inPaths
  exact Path.text_injective (named first inOthers) (named second inPaths)
    (List.le_antisymm before after)

end Formatting

end Scriptlet
