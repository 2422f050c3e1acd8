import Scriptlet.NodeGrammar.Generation
import Scriptlet.Proofs.Command.Formatting

/-!
# Generating from faulty grammars

A grammar is valid if its package is named and both of its families are well formed, and checking a
family accepts it exactly if it is well formed. Generation, though, does not check a grammar as a
whole before it writes: it takes the families in turn, and one is checked when the file of the one
before is there already. So a fault of the package or of the expressions leaves every file as it
was, but a fault of the statements alone is found too late for the file of the expressions. No file
but that one is ever touched by a generation that finds a fault, and one that succeeds has written
both. What the formatter objects to is found when its file is laid out, just before that is written,
and so it comes too late for the file of the expressions in the same way.
-/

namespace Scriptlet

namespace Path

/-- A name that leads on into a folder, and that holds no separator. -/
structure IsPlain (name : Text) : Prop where
  single : separator ∉ name
  ne_nil : name ≠ []
  ne_here : name ≠ here
  ne_parent : name ≠ parent

variable {name : Text}

theorem names_append_separator (front back : Text) :
    names (front ++ separator :: back) = names front ++ names back := by
  simp only [names, Text.pieces_eq_splitOn, List.splitOn_append_cons_self]

theorem IsPlain.names_eq (plain : IsPlain name) : names name = [name] := by
  rw [names, Text.pieces_eq_splitOn, List.splitOn_eq_singleton plain.single]

theorem IsPlain.enter_eq (plain : IsPlain name) (path : Path) :
    path.enter name = path ++ [name] := by
  simp [enter, plain.ne_nil, plain.ne_here, plain.ne_parent]

theorem IsPlain.enterRelative_eq (plain : IsPlain name) (done : List Text) :
    enterRelative done name = done ++ [name] := by
  simp [enterRelative, plain.ne_nil, plain.ne_here, plain.ne_parent]

theorem IsPlain.getLast?_names_joinWith (plain : IsPlain name) (front : List Text) :
    (names (Text.joinWith [separator] (front ++ [name]))).getLast? = some name := by
  induction front with
  | nil =>
      rw [List.nil_append, Text.joinWith, List.intercalate_singleton, plain.names_eq,
        List.getLast?_singleton]
  | cons first rest ih =>
      have joined : Text.joinWith [separator] (first :: (rest ++ [name])) =
          first ++ separator :: Text.joinWith [separator] (rest ++ [name]) := by
        rw [Text.joinWith, List.intercalate_cons_of_ne_nil (by simp), List.append_assoc]
        rfl
      rw [List.cons_append, joined, names_append_separator, List.getLast?_append, ih,
        Option.some_or]

/-- Cleaning a written path keeps its last name. -/
theorem IsPlain.getLast?_names_clean (plain : IsPlain name) (front : Text) :
    (names (clean (front ++ separator :: name))).getLast? = some name := by
  have parts : names (front ++ separator :: name) = names front ++ [name] := by
    rw [names_append_separator, plain.names_eq]
  unfold clean
  split
  · rw [absolute, parts, List.foldl_append, List.foldl_cons, List.foldl_nil, plain.enter_eq, text,
      ← List.nil_append (separator :: _), names_append_separator, List.getLast?_append,
      plain.getLast?_names_joinWith, Option.some_or]
  · rw [parts, List.foldl_append, List.foldl_cons, List.foldl_nil, plain.enterRelative_eq]
    dsimp only
    rw [if_neg (by simp)]
    exact plain.getLast?_names_joinWith _

theorem IsPlain.getLast?_absolute (plain : IsPlain name) (folder : Path) {written : Text}
    (last : (names written).getLast? = some name) :
    (absolute folder written).getLast? = some name := by
  rcases List.getLast?_eq_some_iff.mp last with ⟨before, parts⟩
  rw [absolute, parts, List.foldl_append, List.foldl_cons, List.foldl_nil, plain.enter_eq,
    List.getLast?_concat]

end Path

namespace FileTree

variable {tree next : FileTree} {folder path : Path}

theorem enter_eq_ok {name : Text} (entered : tree.enter folder name = .ok path) :
    path = folder.enter name := by
  unfold enter at entered
  split at entered
  · cases entered
  · split at entered
    · exact (Except.ok.inj entered).symm
    · cases entered

theorem follow_eq_ok {names : List Text} (followed : tree.follow folder names = .ok path) :
    path = names.foldl Path.enter folder := by
  induction names generalizing folder with
  | nil => exact (Except.ok.inj followed).symm
  | cons name rest ih =>
      rw [follow, List.foldlM_cons] at followed
      cases entered : tree.enter folder name with
      | error obstacle =>
          rw [entered] at followed
          cases followed
      | ok further =>
          rw [entered] at followed
          rw [List.foldl_cons, ← enter_eq_ok entered]
          exact ih followed

/-- A written path leads to what its names spell. -/
theorem find_eq_file {written content : Text}
    (found : tree.find folder written = .ok (.file path content)) :
    path = Path.absolute folder written := by
  unfold find at found
  split at found
  · cases found
  · cases followed : tree.follow (if Path.isAbsolute written then [] else folder)
        (Path.names written) with
    | error obstacle =>
        rw [followed] at found
        cases found
    | ok reached =>
        rw [Path.absolute, ← follow_eq_ok followed]
        rw [followed] at found
        simp only [bind, Except.bind] at found
        split at found
        · cases found
          rfl
        · split at found
          · cases found
          · cases found

/-- A file that is saved is written at the path that is spelled. -/
theorem save_eq_ok {written content : Text} (saved : tree.save folder written content = .ok next) :
    next = tree.write (Path.absolute folder written) content := by
  unfold save at saved
  split at saved
  · rename_i reached old found
    rw [← find_eq_file found]
    exact (Except.ok.inj saved).symm
  · cases saved
  · cases followed : tree.follow (if Path.isAbsolute written then [] else folder)
        (Path.names written).dropLast with
    | error obstacle =>
        simp only [followed] at saved
        cases saved
    | ok around =>
        simp only [followed, bind, Except.bind] at saved
        cases entered : tree.enter around ((Path.names written).getLastD []) with
        | error obstacle =>
            rw [entered] at saved
            cases saved
        | ok reached =>
            rw [entered] at saved
            have nonempty : Path.names written ≠ [] := by
              rw [Path.names, Text.pieces_eq_splitOn]
              exact List.splitOn_ne_nil _ _
            have spelled : Path.absolute folder written = reached := by
              rw [Path.absolute, ← List.dropLast_concat_getLast nonempty, List.foldl_append,
                ← follow_eq_ok followed, enter_eq_ok entered, List.getLastD_eq_getLast?,
                List.getLast?_eq_some_getLast nonempty]
              rfl
            rw [spelled]
            exact (Except.ok.inj saved).symm

/-- Making folders leaves all files alone. -/
theorem files_makeFolder {written : Text} (made : tree.makeFolder folder written = .ok next) :
    next.files = tree.files := by
  simp only [makeFolder, bind, Except.bind] at made
  split at made
  · cases made
  · split at made
    · cases made
    · split at made
      · cases made
      · rw [← Except.ok.inj made, addFolder]

theorem files_ensureFolder {written : Text} (made : tree.ensureFolder folder written = .ok next) :
    next.files = tree.files := by
  unfold ensureFolder at made
  split at made
  · rename_i added
    rw [← Except.ok.inj made, files_makeFolder added]
  · split at made
    · rw [Except.ok.inj made]
    · cases made

theorem files_makeFolders (tree : FileTree) (folder : Path) (missing : List Text) :
    (tree.makeFolders folder missing).1.files = tree.files := by
  induction missing generalizing tree with
  | nil => rfl
  | cons written rest ih =>
      unfold makeFolders
      split
      · rename_i next made
        rw [ih, files_ensureFolder made]
      · rfl

theorem file?_ensureFolders (tree : FileTree) (folder path : Path) (written : Text) :
    (tree.ensureFolders folder written).1.file? path = tree.file? path := by
  have files : (tree.ensureFolders folder written).1.files = tree.files := by
    unfold ensureFolders
    split
    · rfl
    · split
      · exact files_makeFolders tree folder _
      · rfl
  rw [file?, files, file?]

end FileTree

namespace NodeGrammar

/-- A field as it has to be written: a name and a type. -/
def IsField (written : Text) : Prop :=
  ∃ name type, written.words = [name, type] ∧ isIdentifier name

/-- The kinds of nodes of a family as they have to be written: there is one, and each has a name of
its own, and fields that are names and types. -/
structure WellFormed (specs : List NodeSpec) : Prop where
  nonempty : specs ≠ []
  named : ∀ spec ∈ specs, isIdentifier spec.name
  distinct : (specs.map NodeSpec.name).Nodup
  typed : ∀ spec ∈ specs, ∀ written ∈ spec.fields, IsField written

/-- A grammar that can be generated from. -/
structure Valid (grammar : NodeGrammar) : Prop where
  package : isIdentifier grammar.package
  wellFormed : ∀ family, WellFormed (grammar.specs family)

theorem checkField_accepts_iff (type written : Text) :
    (∃ field, checkField type written = .ok field) ↔ IsField written := by
  unfold checkField IsField
  constructor
  · rintro ⟨field, checked⟩
    split at checked
    · rename_i name fieldType parts
      split at checked
      · rename_i named
        exact ⟨name, fieldType, parts, named⟩
      · cases checked
    · cases checked
  · rintro ⟨name, fieldType, parts, named⟩
    rw [parts]
    dsimp only
    rw [if_pos named]
    exact ⟨_, rfl⟩

theorem checkFields_accepts_iff (type : Text) (fields : List Text) :
    (∃ checked, fields.mapM (checkField type) = .ok checked) ↔
      ∀ written ∈ fields, IsField written := by
  induction fields with
  | nil => simp [pure, Except.pure]
  | cons first rest ih =>
      rw [List.forall_mem_cons, ← ih, ← checkField_accepts_iff type, List.mapM_cons]
      cases checkField type first with
      | error problem => simp [bind, Except.bind]
      | ok field =>
          cases rest.mapM (checkField type) <;> simp [bind, Except.bind, pure, Except.pure]

theorem checkSpec_accepts_iff (family : NodeFamily) (earlier : List Text) (spec : NodeSpec) :
    (∃ kind, checkSpec family earlier spec = .ok kind) ↔
      isIdentifier spec.name ∧ spec.name ++ family.suffix ∉ earlier ∧
        ∀ written ∈ spec.fields, IsField written := by
  rw [← checkFields_accepts_iff (spec.name ++ family.suffix)]
  simp only [checkSpec]
  cases isIdentifier spec.name with
  | false => simp
  | true =>
      by_cases taken : spec.name ++ family.suffix ∈ earlier
      · simp [taken]
      · cases spec.fields.mapM (checkField (spec.name ++ family.suffix)) <;> simp [taken]

theorem type_of_checkSpec {family : NodeFamily} {earlier : List Text} {spec : NodeSpec}
    {kind : NodeKind} (checked : checkSpec family earlier spec = .ok kind) :
    kind.type = spec.name ++ family.suffix := by
  unfold checkSpec at checked
  dsimp only at checked
  split at checked
  · cases checked
  · split at checked
    · cases checked
    · split at checked
      · cases checked
      · cases checked
        rfl

/-- Checking accepts kinds with new types, each one once, that are well formed by themselves. -/
theorem checkSpecs_accepts_iff (family : NodeFamily) (earlier : List Text)
    (specs : List NodeSpec) :
    (∃ kinds, checkSpecs family earlier specs = .ok kinds) ↔
      (∀ spec ∈ specs, isIdentifier spec.name ∧ spec.name ++ family.suffix ∉ earlier ∧
        ∀ written ∈ spec.fields, IsField written) ∧ (specs.map NodeSpec.name).Nodup := by
  induction specs generalizing earlier with
  | nil => simp [checkSpecs]
  | cons spec rest ih =>
      have oneByOne : (∃ kinds, checkSpecs family earlier (spec :: rest) = .ok kinds) ↔
          (∃ kind, checkSpec family earlier spec = .ok kind) ∧
            ∃ kinds, checkSpecs family ((spec.name ++ family.suffix) :: earlier) rest =
              .ok kinds := by
        rw [checkSpecs]
        cases checked : checkSpec family earlier spec with
        | error problem => simp
        | ok kind =>
            rw [← type_of_checkSpec checked]
            dsimp only
            cases checkSpecs family (kind.type :: earlier) rest <;> simp
      -- Types differ exactly if the names before the common ending do.
      have fresh : ∀ other : NodeSpec, other.name ++ family.suffix ∉
          (spec.name ++ family.suffix) :: earlier ↔
            spec.name ≠ other.name ∧ other.name ++ family.suffix ∉ earlier := by
        intro other
        rw [List.mem_cons, not_or, List.append_left_inj, eq_comm]
      rw [oneByOne, checkSpec_accepts_iff, ih, List.forall_mem_cons, List.map_cons, List.nodup_cons,
        List.mem_map]
      simp only [fresh]
      constructor
      · rintro ⟨first, later, distinct⟩
        refine ⟨⟨first, ?_⟩, ?_, distinct⟩
        · intro other member
          exact ⟨(later other member).1, (later other member).2.1.2, (later other member).2.2⟩
        · rintro ⟨other, member, same⟩
          exact (later other member).2.1.1 same.symm
      · rintro ⟨⟨first, later⟩, new, distinct⟩
        refine ⟨first, ?_, distinct⟩
        intro other member
        have differs : spec.name ≠ other.name := fun same => new ⟨other, member, same.symm⟩
        exact ⟨(later other member).1, ⟨differs, (later other member).2.1⟩,
          (later other member).2.2⟩

theorem kinds_accepts_iff (grammar : NodeGrammar) (family : NodeFamily) :
    (∃ kinds, grammar.kinds family = .ok kinds) ↔ WellFormed (grammar.specs family) := by
  unfold kinds
  cases grammar.specs family with
  | nil =>
      refine iff_of_false (by simp) ?_
      intro wellFormed
      exact wellFormed.nonempty rfl
  | cons spec rest =>
      rw [checkSpecs_accepts_iff]
      constructor
      · rintro ⟨each, distinct⟩
        exact ⟨List.cons_ne_nil _ _, fun spec member => (each spec member).1, distinct,
          fun spec member => (each spec member).2.2⟩
      · rintro ⟨-, named, distinct, typed⟩
        exact ⟨fun spec member => ⟨named spec member, List.not_mem_nil, typed spec member⟩,
          distinct⟩

/-- Where the file of a family is written. -/
def target (folder : Path) (out : Text) (family : NodeFamily) : Path :=
  Path.absolute folder (filePath out family)

theorem getLast?_target (folder : Path) (out : Text) (family : NodeFamily) :
    (target folder out family).getLast? = some (family.shortName ++ text ".go") := by
  have plain : Path.IsPlain (family.shortName ++ text ".go") := by
    cases family <;> exact ⟨by decide, by decide, by decide, by decide⟩
  apply plain.getLast?_absolute
  rw [filePath, List.append_assoc, List.append_assoc, List.singleton_append]
  exact plain.getLast?_names_clean out

theorem target_injective {folder : Path} {out : Text} {family other : NodeFamily}
    (same : target folder out family = target folder out other) : family = other := by
  have names := getLast?_target folder out family
  rw [same, getLast?_target] at names
  cases family <;> cases other <;> first | rfl | exact absurd names (by decide)

/-- A tree holds the source of a family that is checked and that the formatter takes. -/
def Holds (grammar : NodeGrammar) (objection : Objection) (folder : Path) (out : Text)
    (tree : FileTree) (family : NodeFamily) : Prop :=
  ∃ kinds, grammar.kinds family = .ok kinds ∧ objection grammar.package family kinds = none ∧
    tree.file? (target folder out family) = some (source grammar.package family kinds)

/-- Why generation does not get past a family. -/
inductive Stops (grammar : NodeGrammar) (objection : Objection) (family : NodeFamily) :
    Ungenerated → Prop where
  | problem {found : Problem} (refused : grammar.kinds family = .error found) :
      Stops grammar objection family (.problem found)
  | unformatted {kinds : List NodeKind} {complaint : Text}
      (checked : grammar.kinds family = .ok kinds)
      (refused : objection grammar.package family kinds = some complaint) :
      Stops grammar objection family (.unformatted family complaint)
  | file (written : Text) (found : Obstacle) : Stops grammar objection family (.file written found)

/-- What a generation does to the files of a tree: it writes those of some families, and no others,
and where it ends early, the family behind them stops it, unless there is no folder for them. -/
structure Generates (grammar : NodeGrammar) (objection : Objection) (folder : Path) (out : Text)
    (tree after : FileTree) (ended : Option Ungenerated) (written left : List NodeFamily) :
    Prop where
  held : ∀ family ∈ written, grammar.Holds objection folder out after family
  others : ∀ path, (∀ family ∈ written, path ≠ target folder out family) →
    after.file? path = tree.file? path
  done : ended = none → left = []
  stopped : ∀ found, ended = some found → (∃ path obstacle, found = .folder path obstacle) ∨
    ∃ family ∈ left.head?, grammar.Stops objection family found

section Generating

variable {grammar : NodeGrammar} {objection : Objection} {tree next : FileTree} {folder : Path}
  {out : Text} {family : NodeFamily}

theorem generateFamily_eq_ok
    (generated : grammar.generateFamily objection tree folder out family = .ok next) :
    ∃ kinds, grammar.kinds family = .ok kinds ∧ objection grammar.package family kinds = none ∧
      next = tree.write (target folder out family) (source grammar.package family kinds) := by
  unfold generateFamily at generated
  split at generated
  · cases generated
  · rename_i kinds checked
    split at generated
    · cases generated
    · rename_i taken
      dsimp only at generated
      split at generated
      · cases generated
      · rename_i saved
        rw [← Except.ok.inj generated]
        exact ⟨kinds, checked, taken, FileTree.save_eq_ok saved⟩

theorem generateFamily_eq_error {found : Ungenerated}
    (stopped : grammar.generateFamily objection tree folder out family = .error found) :
    grammar.Stops objection family found := by
  unfold generateFamily at stopped
  split at stopped
  · rename_i problem refused
    cases stopped
    exact .problem refused
  · rename_i kinds checked
    split at stopped
    · rename_i complaint refused
      cases stopped
      exact .unformatted checked refused
    · dsimp only at stopped
      split at stopped
      · cases stopped
        exact .file _ _
      · cases stopped

theorem generateFamilies_parts (grammar : NodeGrammar) (objection : Objection) (tree : FileTree)
    (folder : Path) (out : Text) {families : List NodeFamily} (distinct : families.Nodup) :
    ∃ written left, families = written ++ left ∧
      Generates grammar objection folder out tree
        (grammar.generateFamilies objection tree folder out families).1
        (grammar.generateFamilies objection tree folder out families).2 written left := by
  induction families generalizing tree with
  | nil => exact ⟨[], [], rfl, by simp, fun _ _ => rfl, fun _ => rfl, by simp [generateFamilies]⟩
  | cons family rest ih =>
      rw [List.nodup_cons] at distinct
      unfold generateFamilies
      split
      · rename_i next generated
        rcases generateFamily_eq_ok generated with ⟨kinds, checked, taken, rfl⟩
        rcases ih _ distinct.2 with ⟨written, left, rfl, generates⟩
        -- The families behind have other files, so what is written now stays.
        have stays : ∀ other ∈ written, target folder out family ≠ target folder out other := by
          intro other member same
          rw [target_injective same] at distinct
          exact distinct.1 (List.mem_append_left left member)
        refine ⟨family :: written, left, rfl, ?_, ?_, generates.done, generates.stopped⟩
        · refine List.forall_mem_cons.mpr ⟨⟨kinds, checked, taken, ?_⟩, generates.held⟩
          rw [generates.others _ stays, FileTree.file?_write, if_pos rfl]
        · intro path elsewhere
          rw [List.forall_mem_cons] at elsewhere
          rw [generates.others path elsewhere.2, FileTree.file?_write, if_neg elsewhere.1]
      · rename_i ended stopped
        refine ⟨[], family :: rest, rfl, by simp, fun _ _ => rfl, by simp, ?_⟩
        rintro found ⟨⟩
        exact .inr ⟨family, rfl, generateFamily_eq_error stopped⟩

theorem generate_parts (objection : Objection) (tree : FileTree) (folder : Path) (out : Text)
    (named : isIdentifier grammar.package) :
    ∃ written left, families = written ++ left ∧
      Generates grammar objection folder out tree (grammar.generate tree folder out objection).1
        (grammar.generate tree folder out objection).2 written left := by
  have ready := fun path => FileTree.file?_ensureFolders tree folder path out
  simp only [generate, named, Bool.not_true, Bool.false_eq_true, if_false]
  split
  · rename_i made written found ensured
    rw [ensured] at ready
    refine ⟨[], families, rfl, by simp, fun path _ => ready path, by simp, ?_⟩
    rintro found ⟨⟩
    exact .inl ⟨_, _, rfl⟩
  · rename_i made ensured
    rw [ensured] at ready
    rcases generateFamilies_parts grammar objection made folder out (by decide : families.Nodup)
      with ⟨written, left, parts, generates⟩
    refine ⟨written, left, parts, generates.held, ?_, generates.done, generates.stopped⟩
    intro path elsewhere
    exact (generates.others path elsewhere).trans (ready path)

/-- A family stops generation before any file is written, or behind that of the expressions. -/
theorem families_cases {written left : List NodeFamily} (parts : families = written ++ left)
    (next : family ∈ left.head?) :
    (written = [] ∧ family = .expression) ∨ (written = [.expression] ∧ family = .statement) := by
  rcases List.head?_eq_some_iff.mp next with ⟨rest, rfl⟩
  rcases written with _ | ⟨first, _ | ⟨second, more⟩⟩
  · cases parts
    exact .inl ⟨rfl, rfl⟩
  · cases parts
    exact .inr ⟨rfl, rfl⟩
  · have nothing := congrArg List.length parts
    simp [families] at nothing

theorem generate_of_unnamed (objection : Objection) (tree : FileTree) (folder : Path) (out : Text)
    (unnamed : ¬isIdentifier grammar.package) :
    grammar.generate tree folder out objection =
      (tree, some (.problem (.invalidPackage grammar.package))) := by
  simp [generate, unnamed]

theorem Holds.wellFormed (holds : grammar.Holds objection folder out tree family) :
    WellFormed (grammar.specs family) := by
  rcases holds with ⟨kinds, checked, -, -⟩
  exact (kinds_accepts_iff grammar family).mp ⟨kinds, checked⟩

theorem Stops.not_wellFormed {found : Problem}
    (stops : grammar.Stops objection family (.problem found)) :
    ¬WellFormed (grammar.specs family) := by
  cases stops with
  | problem refused =>
      rw [← kinds_accepts_iff, refused]
      rintro ⟨kinds, ⟨⟩⟩

theorem generate_of_success
    (succeeded : (grammar.generate tree folder out objection).2 = none) :
    grammar.Valid ∧
      (∀ family, grammar.Holds objection folder out
        (grammar.generate tree folder out objection).1 family) ∧
      ∀ path, (∀ family, path ≠ target folder out family) →
        (grammar.generate tree folder out objection).1.file? path = tree.file? path := by
  have named : isIdentifier grammar.package := by
    by_contra unnamed
    rw [generate_of_unnamed objection tree folder out unnamed] at succeeded
    cases succeeded
  rcases generate_parts objection tree folder out named with ⟨written, left, parts, generates⟩
  rw [generates.done succeeded, List.append_nil] at parts
  have held : ∀ family, grammar.Holds objection folder out
      (grammar.generate tree folder out objection).1 family := by
    intro family
    apply generates.held
    rw [← parts]
    cases family <;> decide
  refine ⟨⟨named, fun family => (held family).wellFormed⟩, held, ?_⟩
  intro path elsewhere
  exact generates.others path fun family _ => elsewhere family

/-- What stops at the expressions does so before anything is written, and what stops at the
statements when the file of the expressions is there. -/
theorem generate_of_stop {found : Ungenerated} (named : isIdentifier grammar.package)
    (failed : (grammar.generate tree folder out objection).2 = some found)
    (hasFolder : ∀ path obstacle, found ≠ .folder path obstacle) :
    (grammar.Stops objection .expression found ∧
      ∀ path, (grammar.generate tree folder out objection).1.file? path = tree.file? path) ∨
    grammar.Stops objection .statement found ∧
      grammar.Holds objection folder out (grammar.generate tree folder out objection).1
        .expression ∧
      ∀ path, path ≠ target folder out .expression →
        (grammar.generate tree folder out objection).1.file? path = tree.file? path := by
  rcases generate_parts objection tree folder out named with ⟨written, left, parts, generates⟩
  rcases generates.stopped found failed with ⟨path, obstacle, isFolder⟩ | ⟨family, next, stops⟩
  · exact absurd isFolder (hasFolder path obstacle)
  · rcases families_cases parts next with ⟨rfl, rfl⟩ | ⟨rfl, rfl⟩
    · exact .inl ⟨stops, fun path => generates.others path (by simp)⟩
    · refine .inr ⟨stops, generates.held .expression (List.mem_singleton_self _), ?_⟩
      intro path elsewhere
      exact generates.others path (by simpa using elsewhere)

theorem generate_of_unformatted {complaint : Text}
    (failed : (grammar.generate tree folder out objection).2 =
      some (.unformatted family complaint)) :
    ∃ kinds, grammar.kinds family = .ok kinds ∧
      objection grammar.package family kinds = some complaint ∧
      ((family = .expression ∧
        ∀ path, (grammar.generate tree folder out objection).1.file? path = tree.file? path) ∨
      (family = .statement ∧
        grammar.Holds objection folder out (grammar.generate tree folder out objection).1
          .expression ∧
        ∀ path, path ≠ target folder out .expression →
          (grammar.generate tree folder out objection).1.file? path = tree.file? path)) := by
  have named : isIdentifier grammar.package := by
    by_contra unnamed
    rw [generate_of_unnamed objection tree folder out unnamed] at failed
    cases failed
  rcases generate_of_stop named failed (by simp) with ⟨stops, untouched⟩ | ⟨stops, touched⟩
  · cases stops with
    | unformatted checked refused => exact ⟨_, checked, refused, .inl ⟨rfl, untouched⟩⟩
  · cases stops with
    | unformatted checked refused => exact ⟨_, checked, refused, .inr ⟨rfl, touched⟩⟩

end Generating

/-- Whatever a tree holds, and whatever the formatter objects to, a generation that succeeds was of
a valid grammar, and it leaves the sources of both families and no other change. One that finds a
fault was of a grammar that is not valid. It leaves every file as it was if the fault is in the
package or in the expressions. A fault in the statements alone is found when the file of the
expressions is written already, and it leaves all files but that one as they were. The same goes for
what the formatter objects to: it is a file of a family without fault, and if it is that of the
statements, the file of the expressions is written already. -/
theorem generate_checks_in_turn (grammar : NodeGrammar) (objection : Objection) (tree : FileTree)
    (folder : Path) (out : Text) :
    let after := (grammar.generate tree folder out objection).1
    let ended := (grammar.generate tree folder out objection).2
    let same := fun path => after.file? path = tree.file? path
    (ended = none → grammar.Valid ∧ (∀ family, grammar.Holds objection folder out after family) ∧
      ∀ path, (∀ family, path ≠ target folder out family) → same path) ∧
    (∀ found, ended = some (.problem found) → ¬grammar.Valid ∧
      (∀ path, path ≠ target folder out .expression → same path) ∧
      (¬(isIdentifier grammar.package ∧ WellFormed grammar.expressions) → ∀ path, same path) ∧
      (isIdentifier grammar.package ∧ WellFormed grammar.expressions →
        grammar.Holds objection folder out after .expression)) ∧
    ∀ family complaint, ended = some (.unformatted family complaint) →
      ∃ kinds, grammar.kinds family = .ok kinds ∧
        objection grammar.package family kinds = some complaint ∧
        ((family = .expression ∧ ∀ path, same path) ∨
          (family = .statement ∧ grammar.Holds objection folder out after .expression ∧
            ∀ path, path ≠ target folder out .expression → same path)) := by
  intro after ended same
  refine ⟨generate_of_success, ?_, fun family complaint => generate_of_unformatted⟩
  intro found failed
  by_cases named : isIdentifier grammar.package
  · rcases generate_of_stop named failed (by simp) with ⟨stops, untouched⟩ | ⟨stops, held, others⟩
    · exact ⟨fun valid => stops.not_wellFormed (valid.wellFormed .expression),
        fun path _ => untouched path, fun _ => untouched,
        fun sound => absurd sound.2 stops.not_wellFormed⟩
    · exact ⟨fun valid => stops.not_wellFormed (valid.wellFormed .statement), others,
        fun unsound => absurd ⟨named, held.wellFormed⟩ unsound, fun _ => held⟩
  · have untouched : ∀ path, same path := by
      intro path
      change (grammar.generate tree folder out objection).1.file? path = tree.file? path
      rw [generate_of_unnamed objection tree folder out named]
    exact ⟨fun valid => named valid.package, fun path _ => untouched path, fun _ => untouched,
      fun sound => absurd sound.1 named⟩

/-- A grammar with one kind of node in each family. -/
def small : NodeGrammar where
  package := text "tree"
  expressions := [{ name := text "Num", fields := [text "Value float64", text "line int"]
                    line := text "line" }]
  statements := [{ name := text "Show", fields := [text "Value Expression"]
                   line := text "Value.Line()" }]

/-- A folder with the file of an earlier generation. -/
def generatedBefore : FileTree where
  files := [([text "gen", text "expr.go"], text "package tree\n")]

theorem generate_checks_in_turn_small :
    let out := text "gen"
    let untyped := { small with expressions := [{ name := text "Num", fields := [text "Value"] }] }
    let silent := { small with statements := [] }
    let garbled :=
      { silent with expressions := [{ name := text "Num", fields := [text "Value )("] }] }
    let unclosed :=
      { small with statements := [{ name := text "Show", fields := [text "Value map[string"] }] }
    ((small.generate {} [] out).2 = none ∧ small.Valid ∧
      ∀ family, small.Holds unreadable [] out (small.generate {} [] out).1 family) ∧
    ((untyped.generate generatedBefore [] out).2 =
        some (.problem (.malformedField (text "NumExpr") (text "Value"))) ∧
      ¬untyped.Valid ∧ ∀ path, (untyped.generate generatedBefore [] out).1.file? path =
        generatedBefore.file? path) ∧
    ((silent.generate generatedBefore [] out).2 = some (.problem (.noNodes .statement)) ∧
      silent.Holds unreadable [] out (silent.generate generatedBefore [] out).1
        .expression) ∧
    ((garbled.generate generatedBefore [] out).2 =
        some (.unformatted .expression (text "cannot read NumExpr")) ∧
      ∀ path, (garbled.generate generatedBefore [] out).1.file? path =
        generatedBefore.file? path) ∧
    (unclosed.generate generatedBefore [] out).2 =
        some (.unformatted .statement (text "cannot read ShowStmt")) ∧
      unclosed.Holds unreadable [] out (unclosed.generate generatedBefore [] out).1
        .expression := by
  intro out untyped silent garbled unclosed
  have succeeded : (small.generate {} [] out).2 = none := by rfl
  have refused : (untyped.generate generatedBefore [] out).2 =
      some (.problem (.malformedField (text "NumExpr") (text "Value"))) := by rfl
  have late : (silent.generate generatedBefore [] out).2 =
      some (.problem (.noNodes .statement)) := by rfl
  have unread : (garbled.generate generatedBefore [] out).2 =
      some (.unformatted .expression (text "cannot read NumExpr")) := by rfl
  have unreadLate : (unclosed.generate generatedBefore [] out).2 =
      some (.unformatted .statement (text "cannot read ShowStmt")) := by rfl
  have valid := (generate_checks_in_turn small unreadable {} [] out).1 succeeded
  have untouched :=
    (generate_checks_in_turn untyped unreadable generatedBefore [] out).2.1 _ refused
  have touched :=
    (generate_checks_in_turn silent unreadable generatedBefore [] out).2.1 _ late
  have unlaid :=
    (generate_checks_in_turn garbled unreadable generatedBefore [] out).2.2 _ _ unread
  have halfLaid :=
    (generate_checks_in_turn unclosed unreadable generatedBefore [] out).2.2 _ _ unreadLate
  refine ⟨⟨succeeded, valid.1, valid.2.1⟩, ⟨refused, untouched.1, ?_⟩, ⟨late, ?_⟩, ⟨unread, ?_⟩,
    unreadLate, ?_⟩
  · apply untouched.2.2.1
    rintro ⟨-, sound⟩
    rcases (kinds_accepts_iff untyped .expression).mpr sound with ⟨kinds, ⟨⟩⟩
  · apply touched.2.2.2
    exact ⟨by rfl, (kinds_accepts_iff silent .expression).mp ⟨_, rfl⟩⟩
  · rcases unlaid with ⟨-, -, -, ⟨-, same⟩ | ⟨⟨⟩, -⟩⟩
    exact same
  · rcases halfLaid with ⟨-, -, -, ⟨⟨⟩, -⟩ | ⟨-, held, -⟩⟩
    exact held

theorem generate_leaves_expressions :
    let silent := { small with statements := [] }
    (silent.generate {} [] (text "gen")).2 = some (.problem (.noNodes .statement)) ∧
      ({} : FileTree).file? [text "gen", text "expr.go"] = none ∧
      ((silent.generate {} [] (text "gen")).1.file? [text "gen", text "expr.go"]).isSome := by
  exact ⟨rfl, rfl, rfl⟩

end NodeGrammar

end Scriptlet
