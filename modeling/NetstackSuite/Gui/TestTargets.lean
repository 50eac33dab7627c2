import Mathlib.Data.Set.Basic
import NetstackSuite.Gui.TestTree
import NetstackSuite.Reporting.ReportData

/-!
# The targets of the tree

How `src/gui/test_tree_widget.py` makes the tree from the directories under `tests`. The walk puts the target
of a directory together from the module's name and the directory's own, which is its path for a directory in
the module's; the target of a file is its path from the project's root.

`targets_iff` says when the targets are right: no shown directory lies deeper than that, and the test runner
finds below a path what it finds below the entries that the tree shows of it. What the test runner collects
from a target is a parameter.
-/

namespace NetstackSuite.Gui

open NetstackSuite.Lib NetstackSuite.Python NetstackSuite.Reporting

/-! ## Directories -/

/-- An entry of a directory, whose own entries are in the order of `sorted(directory.iterdir())`.
Source: Python `Path.iterdir`
Kind: D -/
inductive DirEntry where
  | file (name : PyStr)
  | directory (name : PyStr) (entries : List DirEntry)
  | other (name : PyStr)

namespace DirEntry

/-- Source: Python `Path.name`. Kind: D -/
def name : DirEntry → PyStr
  | .file name => name
  | .directory name _ => name
  | .other name => name

mutual

/-- Induction over a directory tree: a property of all entries passes to their directory.
Source: none: infrastructure
Kind: L -/
theorem induct {motive : DirEntry → Prop} (file : ∀ name, motive (.file name))
    (directory : ∀ name entries, (∀ e ∈ entries, motive e) → motive (.directory name entries))
    (other : ∀ name, motive (.other name)) : ∀ e, motive e
  | .file name => file name
  | .directory name entries => directory name entries (inductEntries file directory other entries)
  | .other name => other name

/-- Source: none: infrastructure. Kind: L -/
theorem inductEntries {motive : DirEntry → Prop} (file : ∀ name, motive (.file name))
    (directory : ∀ name entries, (∀ e ∈ entries, motive e) → motive (.directory name entries))
    (other : ∀ name, motive (.other name)) : ∀ entries : List DirEntry, ∀ e ∈ entries, motive e
  | [], _, h => absurd h List.not_mem_nil
  | first :: entries, e, h => by
      rcases List.mem_cons.mp h with he | he
      · rw [he]
        exact induct file directory other first
      · exact inductEntries file directory other entries e he

end

end DirEntry

/-- `path.suffix`.
Source: Python `PurePath.suffix`
Kind: D -/
def suffix (name : PyStr) : PyStr :=
  let ext := (name.reverse.takeWhile (· ≠ 0x2E)).reverse
  if ext ≠ [] ∧ ext.length + 1 < name.length then 0x2E :: ext else []

/-- A directory whose name does not begin with an underscore, or a test file.
Source: `src/gui/test_tree_widget.py` `TestTreeWidget._populate_dir`
Kind: D -/
def DirEntry.shown : DirEntry → Bool
  | .file name => (text "test_").isPrefixOf name && suffix name = text ".py"
  | .directory name _ => !(text "_").isPrefixOf name
  | .other _ => false

/-- `path.as_posix()`, of the parts of a path.
Source: Python `PurePath.as_posix`
Kind: D -/
def asPosix (parts : List PyStr) : PyStr := List.intercalate [Reporting.SLASH] parts

/-! ## The walk -/

/-- A node: its target, what it was made from, and the test that it stands for, if it does.
Source: `src/gui/test_tree_widget.py` `TestTreeWidget._make_item`
Kind: D -/
structure Shown where
  target : PyStr
  path : List PyStr
  test : Option PyStr
  deriving DecidableEq

/-- The entries of the catalog for a file.
Source: `src/catalog.py` `specs_for_rel_path`
Kind: D -/
def specsForRelPath (catalog : Catalog) (relPath : PyStr) : List TestSpec :=
  let normalized := relPath.map fun c => if c = 0x5C then Reporting.SLASH else c
  catalog.filter fun spec => spec.relPath = normalized

/-- The nodes of the tests in a file.
Source: `src/gui/test_tree_widget.py` `TestTreeWidget._add_test_children`
Kind: D -/
def addTestChildren (catalog : Catalog) (path : List PyStr) (relPath : PyStr) : List (Rose Shown) :=
  (specsForRelPath catalog relPath).map fun spec =>
    .node ⟨relPath ++ text "::" ++ spec.test, path, some spec.test⟩ []

mutual

/-- The node of an entry, if it is shown.
Source: `src/gui/test_tree_widget.py` `TestTreeWidget._populate_dir`
Kind: D -/
def populateEntry (catalog : Catalog) (module : PyStr) (directory : List PyStr) :
    DirEntry → List (Rose Shown)
  | .directory name entries =>
      if (DirEntry.directory name entries).shown then
        [.node ⟨text "tests/" ++ module ++ text "/" ++ name, directory ++ [name], none⟩
          (populateDir catalog module (directory ++ [name]) entries)]
      else []
  | .file name =>
      if (DirEntry.file name).shown then
        let relPath := asPosix (directory ++ [name])
        [.node ⟨relPath, directory ++ [name], none⟩
          (addTestChildren catalog (directory ++ [name]) relPath)]
      else []
  | .other _ => []

/-- The nodes of the entries of a directory.
Source: `src/gui/test_tree_widget.py` `TestTreeWidget._populate_dir`
Kind: D -/
def populateDir (catalog : Catalog) (module : PyStr) (directory : List PyStr) :
    List DirEntry → List (Rose Shown)
  | [] => []
  | entry :: entries =>
      populateEntry catalog module directory entry ++ populateDir catalog module directory entries

end

/-- The node of a module: a directory in the tests' own.
Source: `src/gui/test_tree_widget.py` `TestTreeWidget._populate`
Kind: D -/
def populateModule (catalog : Catalog) : DirEntry → List (Rose Shown)
  | .directory name entries =>
      if (DirEntry.directory name entries).shown then
        [.node ⟨text "tests/" ++ name, [text "tests", name], none⟩
          (populateDir catalog name [text "tests", name] entries)]
      else []
  | _ => []

/-- The tree of the entries of the tests' directory; none if there is no such directory.
Source: `src/gui/test_tree_widget.py` `TestTreeWidget._populate`
Kind: D -/
def populateTests (catalog : Catalog) (tests : List DirEntry) : List (Rose Shown) :=
  tests.flatMap (populateModule catalog)

/-! ## Targets that run what is shown -/

/-- What a node is made from: a path, followed by the test if it stands for one.
Source: none: specification
Kind: D -/
def Shown.source (node : Shown) : PyStr :=
  asPosix node.path ++ match node.test with
    | some test => text "::" ++ test
    | none => []

/-- The tests of the test nodes at and below a node.
Source: none: specification
Kind: D -/
def testsBelow (collects : PyStr → Set PyStr) (node : Rose Shown) : Set PyStr :=
  {id | ∃ p below, node.get? p = some below ∧ below.label.test ≠ none ∧ id ∈ collects below.label.target}

/-- The node's target is what it was made from, and the tests collected from it are those below the node.
Source: none: specification
Kind: D -/
structure Truthful (collects : PyStr → Set PyStr) (node : Rose Shown) : Prop where
  target : node.label.target = node.label.source
  tests : collects node.label.target = testsBelow collects node

/-- The entries that are shown, through directories that are, with their paths.
Source: none: specification
Kind: D -/
inductive ShownAt (tests : List DirEntry) : List PyStr → DirEntry → Prop where
  | top {name : PyStr} {entries : List DirEntry} (mem : .directory name entries ∈ tests)
      (shown : (DirEntry.directory name entries).shown = true) :
      ShownAt tests [text "tests", name] (.directory name entries)
  | entry {path : List PyStr} {name : PyStr} {entries : List DirEntry} {e : DirEntry}
      (above : ShownAt tests path (.directory name entries)) (mem : e ∈ entries) (shown : e.shown = true) :
      ShownAt tests (path ++ [e.name]) e

/-- No shown directory lies in one that lies in a module's directory.
Source: none: specification
Kind: D -/
def Shallow (tests : List DirEntry) : Prop :=
  ∀ path name entries, ShownAt tests path (.directory name entries) → path.length ≤ 3

/-- The test runner finds below the path of a shown directory what it finds below those of its entries that are
shown, and in a shown file the tests of the catalog.
Source: none: specification
Kind: D -/
structure Agrees (catalog : Catalog) (collects : PyStr → Set PyStr) (tests : List DirEntry) : Prop where
  directories : ∀ path name entries, ShownAt tests path (.directory name entries) →
    collects (asPosix path) =
      {id | ∃ e ∈ entries, e.shown = true ∧ id ∈ collects (asPosix (path ++ [e.name]))}
  files : ∀ path name, ShownAt tests path (.file name) →
    collects (asPosix path) =
      {id | ∃ spec ∈ specsForRelPath catalog (asPosix path),
        id ∈ collects (asPosix path ++ text "::" ++ spec.test)}

/-! ## The nodes of the shown entries -/

/-- The target of a directory, as the walk puts it together.
Source: `src/gui/test_tree_widget.py` `TestTreeWidget._populate_dir`
Kind: D -/
def directoryTarget : List PyStr → PyStr
  | [_, module] => text "tests/" ++ module
  | _ :: module :: rest => text "tests/" ++ module ++ text "/" ++ rest.getLastD []
  | _ => []

/-- The node of a shown entry with its path.
Source: `src/gui/test_tree_widget.py` `TestTreeWidget._populate_dir`
Kind: D -/
def nodeFor (catalog : Catalog) (path : List PyStr) : DirEntry → Rose Shown
  | .directory _ entries =>
      .node ⟨directoryTarget path, path, none⟩ (populateDir catalog (path.getD 1 []) path entries)
  | .file _ => .node ⟨asPosix path, path, none⟩ (addTestChildren catalog path (asPosix path))
  | .other _ => .node ⟨[], path, none⟩ []

/-- A path below a module's.
Source: none: infrastructure
Kind: L -/
lemma ShownAt.path_eq {tests : List DirEntry} {path : List PyStr} {e : DirEntry} (h : ShownAt tests path e) :
    ∃ module rest, path = text "tests" :: module :: rest := by
  induction h with
  | top mem shown => exact ⟨_, [], rfl⟩
  | entry above mem shown ih =>
      obtain ⟨module, rest, rfl⟩ := ih
      exact ⟨module, _, rfl⟩

/-- The walk makes exactly the nodes of the entries that are shown.
Source: `src/gui/test_tree_widget.py` `TestTreeWidget._populate_dir`
Kind: L -/
lemma populateEntry_eq (catalog : Catalog) (root module : PyStr) (rest : List PyStr) (e : DirEntry) :
    populateEntry catalog module (root :: module :: rest) e =
      if e.shown then [nodeFor catalog (root :: module :: rest ++ [e.name]) e] else [] := by
  have htarget : ∀ name, directoryTarget (root :: module :: rest ++ [name]) =
      text "tests/" ++ module ++ text "/" ++ name := by
    intro name
    rcases rest with _ | ⟨part, rest⟩
    · rfl
    · change text "tests/" ++ module ++ text "/" ++ (part :: rest ++ [name]).getLastD [] = _
      rw [List.getLastD_concat]
  rcases e with name | ⟨name, entries⟩ | name
  · rfl
  · unfold populateEntry nodeFor
    rw [DirEntry.name, htarget]
    rfl
  · rfl

lemma mem_populateDir {catalog : Catalog} {root module : PyStr} {rest : List PyStr}
    {entries : List DirEntry} {node : Rose Shown} :
    node ∈ populateDir catalog module (root :: module :: rest) entries ↔
      ∃ e ∈ entries, e.shown = true ∧ node = nodeFor catalog (root :: module :: rest ++ [e.name]) e := by
  induction entries with
  | nil => simp [populateDir]
  | cons first entries ih =>
      rw [populateDir, List.mem_append, ih, populateEntry_eq]
      simp only [List.mem_cons, or_and_right, exists_or, exists_eq_left]
      apply or_congr_left
      split
      · next hshown => rw [List.mem_singleton, and_iff_right hshown]
      · next hhidden => exact iff_of_false List.not_mem_nil fun h => hhidden h.1

/-- The children of a directory's node.
Source: `src/gui/test_tree_widget.py` `TestTreeWidget._populate_dir`
Kind: L -/
lemma ShownAt.mem_children {tests : List DirEntry} {path : List PyStr} {name : PyStr}
    {entries : List DirEntry} (h : ShownAt tests path (.directory name entries)) {catalog : Catalog}
    {node : Rose Shown} :
    node ∈ (nodeFor catalog path (.directory name entries)).children ↔
      ∃ e ∈ entries, e.shown = true ∧ node = nodeFor catalog (path ++ [e.name]) e := by
  obtain ⟨module, rest, rfl⟩ := h.path_eq
  exact mem_populateDir

lemma mem_populateTests {catalog : Catalog} {tests : List DirEntry} {node : Rose Shown} :
    node ∈ populateTests catalog tests ↔
      ∃ name entries, .directory name entries ∈ tests ∧ (DirEntry.directory name entries).shown = true ∧
        node = nodeFor catalog [text "tests", name] (.directory name entries) := by
  unfold populateTests
  rw [List.mem_flatMap]
  constructor
  · rintro ⟨name | ⟨name, entries⟩ | name, hmem, hnode⟩ <;> unfold populateModule at hnode
    · cases hnode
    · simp only at hnode
      split at hnode
      · next hshown => exact ⟨name, entries, hmem, hshown, List.mem_singleton.mp hnode⟩
      · cases hnode
    · cases hnode
  · rintro ⟨name, entries, hmem, hshown, rfl⟩
    refine ⟨.directory name entries, hmem, ?_⟩
    unfold populateModule
    simp only
    rw [if_pos hshown]
    exact List.mem_singleton.mpr rfl

/-- What holds throughout the tree holds everywhere in the node of a shown entry.
Source: `src/gui/test_tree_widget.py` `TestTreeWidget._populate`
Kind: L -/
lemma ShownAt.everywhere {catalog : Catalog} {tests : List DirEntry} {Q : Rose Shown → Prop}
    (h : Rose.Throughout Q (populateTests catalog tests)) {path : List PyStr} {e : DirEntry}
    (he : ShownAt tests path e) : Rose.Everywhere Q (nodeFor catalog path e) := by
  induction he with
  | @top name entries mem shown =>
      apply (Rose.throughout_iff Q _).mp h
      exact mem_populateTests.mpr ⟨name, entries, mem, shown, rfl⟩
  | @entry path name entries e above mem shown ih =>
      apply ((Rose.everywhere_iff Q _).mp ih).2
      exact above.mem_children.mpr ⟨e, mem, shown, rfl⟩

/-- **What holds of the nodes of all shown entries, and of all their tests, holds throughout the tree.**
Source: `src/gui/test_tree_widget.py` `TestTreeWidget._populate`
Kind: P -/
lemma throughout_populateTests {catalog : Catalog} {tests : List DirEntry} {Q : Rose Shown → Prop}
    (hentry : ∀ path e, ShownAt tests path e → Q (nodeFor catalog path e))
    (htest : ∀ path name, ShownAt tests path (.file name) →
      ∀ node ∈ addTestChildren catalog path (asPosix path), Q node) :
    Rose.Throughout Q (populateTests catalog tests) := by
  have heverywhere : ∀ e path, ShownAt tests path e → Rose.Everywhere Q (nodeFor catalog path e) := by
    intro e
    induction e using DirEntry.induct with
    | file name =>
        intro path he
        refine (Rose.everywhere_iff Q _).mpr ⟨hentry path _ he, fun node hnode => ?_⟩
        obtain ⟨spec, -, rfl⟩ := List.mem_map.mp hnode
        exact (Rose.everywhere_iff Q _).mpr ⟨htest path name he _ hnode, List.forall_mem_nil _⟩
    | directory name entries ih =>
        intro path he
        refine (Rose.everywhere_iff Q _).mpr ⟨hentry path _ he, fun node hnode => ?_⟩
        obtain ⟨e, hmem, hshown, rfl⟩ := he.mem_children.mp hnode
        exact ih e hmem _ (he.entry hmem hshown)
    | other name =>
        intro path he
        exact (Rose.everywhere_iff Q _).mpr ⟨hentry path _ he, List.forall_mem_nil _⟩
  apply (Rose.throughout_iff Q _).mpr
  intro node hnode
  obtain ⟨name, entries, hmem, hshown, rfl⟩ := mem_populateTests.mp hnode
  exact heverywhere _ _ (.top hmem hshown)

/-! ## Targets and paths -/

lemma asPosix_cons (part : PyStr) (rest : List PyStr) :
    asPosix (part :: rest) = part ++ rest.flatMap fun next => Reporting.SLASH :: next := by
  induction rest generalizing part with
  | nil => simp [asPosix, List.intercalate]
  | cons next rest ih =>
      have hsplit : asPosix (part :: next :: rest) = part ++ Reporting.SLASH :: asPosix (next :: rest) := by
        simp [asPosix, List.intercalate, List.intersperse]
      rw [hsplit, ih, List.flatMap_cons, List.cons_append]

/-- **A directory's target is its path exactly if it lies in the module's directory**, or is it.
Source: `src/gui/test_tree_widget.py` `TestTreeWidget._populate_dir`
Kind: P -/
lemma directoryTarget_eq_iff (module : PyStr) (rest : List PyStr) :
    directoryTarget (text "tests" :: module :: rest) = asPosix (text "tests" :: module :: rest) ↔
      rest.length ≤ 1 := by
  have hslash : text "tests/" = text "tests" ++ [Reporting.SLASH] := by decide
  have hpath : asPosix (text "tests" :: module :: rest) =
      text "tests/" ++ module ++ rest.flatMap fun next => Reporting.SLASH :: next := by
    rw [asPosix_cons, List.flatMap_cons, hslash, List.append_assoc, List.append_assoc, List.singleton_append,
      List.cons_append]
  rw [hpath]
  rcases rest with _ | ⟨first, rest⟩
  · exact iff_of_true (List.append_nil _).symm (Nat.zero_le 1)
  · rcases rest.eq_nil_or_concat with rfl | ⟨init, last, rfl⟩
    · refine iff_of_true ?_ (le_refl 1)
      change text "tests/" ++ module ++ [Reporting.SLASH] ++ first = _
      rw [List.flatMap_singleton, List.append_assoc, List.singleton_append]
    · -- the path names the directories in between too, the target does not
      rw [List.concat_eq_append]
      refine iff_of_false ?_ (by simp)
      change text "tests/" ++ module ++ [Reporting.SLASH] ++ (first :: init ++ [last]).getLastD [] ≠ _
      rw [List.getLastD_concat]
      intro h
      have hlength := congrArg List.length h
      simp only [List.length_append, List.length_cons, List.length_nil, List.cons_append, List.flatMap_cons,
        List.flatMap_append, List.flatMap_nil] at hlength
      omega

/-! ## The tests of a node -/

lemma testsBelow_node (collects : PyStr → Set PyStr) {node : Rose Shown} (h : node.label.test = none) :
    testsBelow collects node = {id | ∃ child ∈ node.children, id ∈ testsBelow collects child} := by
  ext id
  constructor
  · rintro ⟨_ | ⟨i, p⟩, below, hbelow, htest, hid⟩
    · rw [Rose.get?_nil, Option.some.injEq] at hbelow
      rw [← hbelow] at htest
      exact absurd h htest
    · rw [Rose.get?_cons] at hbelow
      obtain ⟨child, hchild, hp⟩ := Option.bind_eq_some_iff.mp hbelow
      exact ⟨child, List.mem_of_getElem? hchild, p, below, hp, htest, hid⟩
  · rintro ⟨child, hchild, p, below, hp, htest, hid⟩
    obtain ⟨i, hi⟩ := List.getElem?_of_mem hchild
    refine ⟨i :: p, below, ?_, htest, hid⟩
    rw [Rose.get?_cons, hi, Option.bind_some, hp]

/-- The tests of a test node are its own.
Source: none: infrastructure
Kind: L -/
lemma testsBelow_test (collects : PyStr → Set PyStr) (target : PyStr) (path : List PyStr) (test : PyStr) :
    testsBelow collects (.node ⟨target, path, some test⟩ []) = collects target := by
  ext id
  constructor
  · rintro ⟨_ | ⟨i, p⟩, below, hbelow, -, hid⟩
    · rw [Rose.get?_nil, Option.some.injEq] at hbelow
      rwa [← hbelow] at hid
    · cases hbelow
  · exact fun hid => ⟨[], _, Rose.get?_nil _, Option.some_ne_none test, hid⟩

/-- The tests of a file's node are those of the catalog.
Source: `src/gui/test_tree_widget.py` `TestTreeWidget._add_test_children`
Kind: L -/
lemma testsBelow_file (catalog : Catalog) (collects : PyStr → Set PyStr) (path : List PyStr) (name : PyStr) :
    testsBelow collects (nodeFor catalog path (.file name)) =
      {id | ∃ spec ∈ specsForRelPath catalog (asPosix path),
        id ∈ collects (asPosix path ++ text "::" ++ spec.test)} := by
  rw [testsBelow_node collects rfl]
  ext id
  constructor
  · rintro ⟨child, hchild, hid⟩
    obtain ⟨spec, hspec, rfl⟩ := List.mem_map.mp hchild
    rw [testsBelow_test] at hid
    exact ⟨spec, hspec, hid⟩
  · rintro ⟨spec, hspec, hid⟩
    refine ⟨_, List.mem_map.mpr ⟨spec, hspec, rfl⟩, ?_⟩
    rwa [testsBelow_test]

/-- The tests of a directory's node are those of its shown entries.
Source: `src/gui/test_tree_widget.py` `TestTreeWidget._populate_dir`
Kind: L -/
lemma ShownAt.testsBelow_directory {tests : List DirEntry} {path : List PyStr} {name : PyStr}
    {entries : List DirEntry} (h : ShownAt tests path (.directory name entries)) (catalog : Catalog)
    (collects : PyStr → Set PyStr) :
    testsBelow collects (nodeFor catalog path (.directory name entries)) =
      {id | ∃ e ∈ entries, e.shown = true ∧
        id ∈ testsBelow collects (nodeFor catalog (path ++ [e.name]) e)} := by
  rw [testsBelow_node collects rfl]
  ext id
  constructor
  · rintro ⟨child, hchild, hid⟩
    obtain ⟨e, hmem, hshown, rfl⟩ := h.mem_children.mp hchild
    exact ⟨e, hmem, hshown, hid⟩
  · rintro ⟨e, hmem, hshown, hid⟩
    exact ⟨_, h.mem_children.mpr ⟨e, hmem, hshown, rfl⟩, hid⟩

/-! ## When the targets are right -/

/-- The node of a shown entry is made from its path.
Source: none: infrastructure
Kind: L -/
lemma source_nodeFor (catalog : Catalog) (path : List PyStr) (e : DirEntry) :
    (nodeFor catalog path e).label.source = asPosix path := by
  rcases e with _ | _ | _ <;> exact List.append_nil _

/-- **In a shallow tree that the test runner agrees with, every target is right.**
Source: `src/gui/test_tree_widget.py` `TestTreeWidget._populate_dir`
Kind: P -/
lemma throughout_truthful {catalog : Catalog} {collects : PyStr → Set PyStr} {tests : List DirEntry}
    (hshallow : Shallow tests) (hagrees : Agrees catalog collects tests) :
    Rose.Throughout (Truthful collects) (populateTests catalog tests) := by
  have htests : ∀ e path, ShownAt tests path e →
      testsBelow collects (nodeFor catalog path e) = collects (asPosix path) := by
    intro e
    induction e using DirEntry.induct with
    | file name =>
        intro path he
        rw [testsBelow_file, hagrees.files path name he]
    | directory name entries ih =>
        intro path he
        rw [he.testsBelow_directory, hagrees.directories path name entries he]
        ext id
        refine exists_congr fun e => and_congr_right fun hmem => and_congr_right fun hshown => ?_
        rw [ih e hmem _ (he.entry hmem hshown)]
    | other name =>
        intro path he
        cases he with
        | entry above mem shown => cases shown
  apply throughout_populateTests
  · intro path e he
    have htarget : (nodeFor catalog path e).label.target = asPosix path := by
      rcases e with name | ⟨name, entries⟩ | name
      · rfl
      · have hlength := hshallow path name entries he
        obtain ⟨module, rest, rfl⟩ := he.path_eq
        exact (directoryTarget_eq_iff module rest).mpr (Nat.le_of_add_le_add_right (b := 2) hlength)
      · cases he with
        | entry above mem shown => cases shown
    refine ⟨htarget.trans (source_nodeFor catalog path e).symm, ?_⟩
    rw [htarget, htests e path he]
  · intro path name he node hnode
    obtain ⟨spec, -, rfl⟩ := List.mem_map.mp hnode
    exact ⟨List.append_assoc _ _ _, (testsBelow_test collects _ path spec.test).symm⟩

/-- **When the tree's targets name what they show.** Every node's target is the path that the node was made
from, and what is collected from it are the tests below the node, exactly if no shown directory lies below a
directory of a module's directory, and below each shown path the test runner finds what the tree shows of it.
Source: `src/gui/test_tree_widget.py` `TestTreeWidget._populate_dir`
Kind: P -/
theorem targets_iff (catalog : Catalog) (collects : PyStr → Set PyStr) (tests : List DirEntry) :
    Rose.Throughout (Truthful collects) (populateTests catalog tests) ↔
      Shallow tests ∧ Agrees catalog collects tests := by
  constructor
  · intro h
    have hnode : ∀ path e, ShownAt tests path e → Truthful collects (nodeFor catalog path e) :=
      fun path e he => ((Rose.everywhere_iff _ _).mp (he.everywhere h)).1
    have htests : ∀ path e, ShownAt tests path e →
        testsBelow collects (nodeFor catalog path e) = collects (asPosix path) := by
      intro path e he
      rw [← (hnode path e he).tests, (hnode path e he).target, source_nodeFor]
    refine ⟨?_, ?_, ?_⟩
    · intro path name entries he
      have htarget := (hnode path _ he).target
      rw [source_nodeFor] at htarget
      obtain ⟨module, rest, rfl⟩ := he.path_eq
      exact Nat.add_le_add_right ((directoryTarget_eq_iff module rest).mp htarget) 2
    · intro path name entries he
      rw [← htests path _ he, he.testsBelow_directory]
      ext id
      refine exists_congr fun e => and_congr_right fun hmem => and_congr_right fun hshown => ?_
      rw [htests _ e (he.entry hmem hshown)]
    · intro path name he
      rw [← htests path _ he, testsBelow_file]
  · rintro ⟨hshallow, hagrees⟩
    exact throughout_truthful hshallow hagrees

/-- The widget, with its checkboxes.
Source: `src/gui/test_tree_widget.py` `TestTreeWidget._populate`
Kind: D -/
def testTree (catalog : Catalog) (tests : List DirEntry) : TestTree :=
  populate ((populateTests catalog tests).map (Rose.map Shown.target))

/-- **Where the targets are right, ticking an item runs what it shows.**
Source: `src/gui/test_tree_widget.py` `TestTreeWidget._populate`
Kind: P -/
theorem target_testTree {catalog : Catalog} {collects : PyStr → Set PyStr} {tests : List DirEntry}
    (hshallow : Shallow tests) (hagrees : Agrees catalog collects tests) {p : List ℕ} {item : TreeItem}
    (hitem : Rose.nodeAt (testTree catalog tests) p = some item) :
    ∃ node, Rose.nodeAt (populateTests catalog tests) p = some node ∧
      item.label.target = node.label.source ∧ collects item.label.target = testsBelow collects node := by
  unfold testTree populate at hitem
  rw [Rose.nodeAt_map, Rose.nodeAt_map, Option.map_map] at hitem
  obtain ⟨node, hnode, rfl⟩ := Option.map_eq_some_iff.mp hitem
  obtain ⟨htarget, htests⟩ := throughout_truthful hshallow hagrees p node hnode
  have hlabel : (Rose.map makeItem (Rose.map Shown.target node)).label.target = node.label.target := by
    rw [Rose.label_map, Rose.label_map]
    rfl
  exact ⟨node, hnode, hlabel.trans htarget, hlabel ▸ htests⟩

/-- A test in a directory below a submodule's.
Source: none: infrastructure
Kind: D -/
def clampSpec : TestSpec where
  module := text "tcp"
  submodule := some (text "syn/options")
  file := text "test_mss"
  test := text "test_mss_is_clamped"
  title := text "MSS clamping"
  description := text "Sends a SYN with an oversized MSS."
  rfc := text "RFC 6691"

/-- Source: none: infrastructure. Kind: D -/
def clampTests : List DirEntry :=
  [.directory (text "tcp") [.directory (text "syn") [.directory (text "options") [.file (text "test_mss.py")]]]]

/-- A test runner that finds the one test there is at and below every path to it.
Source: none: infrastructure
Kind: D -/
def collectsClamp (target : PyStr) : Set PyStr :=
  {id | id = clampSpec.nodeid ∧
    (target = id ∨ target ++ text "/" <+: id ∨ target ++ text "::" <+: id)}

/-- **A directory below a submodule's has the target of another path**, from which nothing is collected.
Source: `src/gui/test_tree_widget.py` `TestTreeWidget._populate_dir`
Kind: P -/
theorem deep_directory_mistargeted :
    ¬ Rose.Throughout (Truthful collectsClamp) (populateTests [clampSpec] clampTests) := by
  have hnode : (Rose.nodeAt (populateTests [clampSpec] clampTests) [0, 0, 0]).map
      (fun node => (node.label.target, node.label.source)) =
        some (text "tests/tcp/options", text "tests/tcp/syn/options") := by
    decide +kernel
  obtain ⟨node, hat, htexts⟩ := Option.map_eq_some_iff.mp hnode
  obtain ⟨htarget, hsource⟩ := Prod.mk.inj htexts
  intro h
  have hsame := (h [0, 0, 0] node hat).target
  rw [htarget, hsource] at hsame
  revert hsame
  decide

end NetstackSuite.Gui
