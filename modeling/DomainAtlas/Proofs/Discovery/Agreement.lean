import DomainAtlas.Proofs.Discovery.Enumeration
import DomainAtlas.Proofs.Discovery.Rewriting

/-!
# Two walks over a tree

Ignore files are loaded in one walk over a tree, and its source files are found in another. The first
skips the directories of default names whatever the ignore files say, the second enters those whose
names are lifted. So an ignore file the second walk comes across has been loaded exactly if it is in no
directory of a default name: in one that is lifted it is found but not heard.

Results:
* `Enumerator.loads_visited_iff`: which of the ignore files that a walk comes across are loaded, and what
  that means for its decisions.
* `Enumerator.files_vendorTree`: an ignore file in a lifted directory.
-/
namespace DomainAtlas

theorem searchedDir_iff {name : String} :
    searchedDir name = true ↔ name ∉ hardcodedDirs ∧ name ∉ defaultPrunableDirs := by
  simp [searchedDir]

/-- An ignore file of a tree is loaded exactly if the search enters every directory on the way to it. -/
theorem mem_files_iff {t : Tree} (wf : t.WellFormed) {names dir : List String} {name : String}
    {content : Option ByteArray} (named : name ∈ names)
    (found : t.at? (dir ++ [name]) = some (.file content)) :
    pathText (dir ++ [name]) ∈ (loadTree names "" t).files ↔ ∀ d ∈ dir, searchedDir d = true := by
  rw [mem_files_loadTree wf]
  constructor
  · rintro ⟨dir', name', content', loads, e⟩
    obtain ⟨rfl, -⟩ := List.append_inj' (pathText_inj (wf.at? found).1 (wf.at? loads.found).1 e) rfl
    exact loads.searched
  · exact fun searched => ⟨dir, name, content, ⟨named, found, searched⟩, rfl⟩

namespace Enumerator

section Walks

variable {tree : Tree} {includeGlobs excludeGlobs : List String} {respectGit : Bool} {e : Enumerator}

/-- On the way to a file that a walk comes across no directory is left out by its name. -/
theorem not_leftOut_of_visited (wf : tree.WellFormed)
    (made : make tree includeGlobs excludeGlobs respectGit = .ok e) {dir : List String} {name : String}
    (proper : ∀ n ∈ dir ++ [name], EntryName n) (visited : pathText (dir ++ [name]) ∈ e.visited tree) :
    ∀ d ∈ dir, ¬ LeftOut tree respectGit d := by
  obtain ⟨names, -, same, reached⟩ := (mem_walk_iff wf (List.forall_mem_nil EntryName)).1 visited
  obtain rfl : dir ++ [name] = names :=
    pathText_inj proper (reached.entryName wf (List.forall_mem_nil _)) same
  intro d hd out
  obtain ⟨front, back, rfl⟩ := List.append_of_mem hd
  have enters := reached.entered front d (back ++ [name]) (by simp) (by simp)
  rw [Enumerator.enters, (prunes_iff wf (ignore_lines_of_make made) d).2 out] at enters
  cases enters

end Walks

/-- **The two walks.** An ignore file that the walk of an enumeration comes across is loaded exactly if
it is in no directory of a name left out by default, which then is lifted. The patterns of one that is
loaded are among those by which the checker decides about every path. -/
theorem loads_visited_iff {tree : Tree} (wf : tree.WellFormed) {includeGlobs excludeGlobs : List String}
    {respectGit : Bool} {e : Enumerator}
    (made : make tree includeGlobs excludeGlobs respectGit = .ok e) {dir : List String} {name : String}
    {content : Option ByteArray} (named : name ∈ ignoreNames respectGit)
    (found : tree.at? (dir ++ [name]) = some (.file content))
    (visited : pathText (dir ++ [name]) ∈ e.visited tree) :
    (pathText (dir ++ [name]) ∈ e.ignore.lines.files ↔ ∀ d ∈ dir, d ∉ defaultPrunableDirs) ∧
      (∀ d ∈ dir, d ∈ defaultPrunableDirs → Lifted tree respectGit d) ∧
      (pathText (dir ++ [name]) ∈ e.ignore.lines.files → ∀ line ∈ patternLines content,
        prefixLine (pathText dir) line ∈ e.ignore.lines.patterns) ∧
      ∀ path isDir, e.ignore.excludes path isDir =
        (e.ignore.lines.patterns.foldl (Glob.hear (subject path isDir)) .none).taken := by
  have lines := ignore_lines_of_make made
  have entered := not_leftOut_of_visited wf made (wf.at? found).1 visited
  have soft (d : String) (hd : d ∈ dir) : d ∉ hardcodedDirs := fun hard => entered d hd (.inl hard)
  have loaded := mem_files_iff wf named found
  rw [← lines] at loaded
  refine ⟨loaded.trans (forall₂_congr fun d hd => ?_), fun d hd default => ?_, fun mem line hl => ?_,
    IgnoreChecker.excludes_eq (IgnoreChecker.lines_of_load (load_of_make made)).2⟩
  · rw [searchedDir_iff]
    exact and_iff_right (soft d hd)
  · by_contra stays
    exact entered d hd (.inr ⟨.inl default, stays⟩)
  · rw [lines, ← pathText_nil, mem_patterns_loadTree wf (List.forall_mem_nil EntryName)]
    exact ⟨dir, name, content, ⟨named, found, loaded.1 mem⟩, line, hl, rfl⟩

/-- A directory with an ignore file and the file it excludes. -/
def selfIgnored : Tree :=
  .dir [(".archscanignore", .file (some "x.php".toUTF8)), ("x.php", .file none)]

/-- A tree with an ignore file at its root, which lifts a name, and such a directory. -/
def nestedTree (folder : String) : Tree := .dir [
  (".archscanignore", .file (some "!vendor".toUTF8)), (folder, selfIgnored)]

theorem wellFormed_nestedTree {folder : String} (named : EntryName folder)
    (other : folder ≠ ".archscanignore") : (nestedTree folder).WellFormed := by
  refine .dir (by simpa using other.symm) ?_ ?_
  · exact List.forall_mem_cons.2 ⟨by decide, List.forall_mem_singleton.2 named⟩
  · refine List.forall_mem_cons.2 ⟨.file _, List.forall_mem_singleton.2 ?_⟩
    exact .dir (by decide) (by decide)
      (List.forall_mem_cons.2 ⟨.file _, List.forall_mem_singleton.2 (.file _)⟩)

/-- A walk that enters the directory comes across its files. -/
theorem visited_nestedTree {folder name : String} (wf : (nestedTree folder).WellFormed) {e : Enumerator}
    (enters : e.enters folder folder = true) (here : name = ".archscanignore" ∨ name = "x.php") :
    pathText [folder, name] ∈ e.visited (nestedTree folder) := by
  have mem : (folder, selfIgnored) ∈ (nestedTree folder).entries := by simp [nestedTree, Tree.entries]
  refine (mem_walk_iff wf (List.forall_mem_nil EntryName)).2 ⟨[folder, name], by simp, rfl, ?_⟩
  refine (reached_cons_iff wf (by simp)).2 ⟨_, mem, by simpa using enters, ?_⟩
  refine (reached_singleton_iff (wf.inner_entries mem)).2 ?_
  rcases here with rfl | rfl
  · exact ⟨.file (some "x.php".toUTF8), by simp [selfIgnored, Tree.entries], rfl⟩
  · exact ⟨.file none, by simp [selfIgnored, Tree.entries], rfl⟩

/-- The enumerator of such a tree, by what its ignore files say. -/
def nestedEnumerator (lines : IgnoreLines) (more : List Glob.Rule) : Enumerator where
  includes := ⟨[⟨true, .atoms [.leadingDirs, .many, .char '.', .char 'p', .char 'h', .char 'p',
    .close]⟩]⟩
  excludes := ⟨[]⟩
  ignore := ⟨lines, ⟨⟨false, .atoms [.leadingDirs, .char 'v', .char 'e', .char 'n', .char 'd', .char 'o',
    .char 'r', .close]⟩ :: more⟩⟩

/-- Where the directory has a name that is not left out by default, both ignore files are loaded. -/
def libEnumerator : Enumerator :=
  nestedEnumerator ⟨["!vendor", "/lib/**/x.php"], ["vendor"], [".archscanignore", "lib/.archscanignore"]⟩
    [⟨true, .atoms [.char 'l', .char 'i', .char 'b', .innerDirs, .slash, .char 'x', .char '.', .char 'p',
      .char 'h', .char 'p', .close]⟩]

theorem make_libTree : make (nestedTree "lib") ["**/*.php"] [] false = .ok libEnumerator := by
  have inner : loadTree (ignoreNames false) "lib" selfIgnored =
      ⟨["/lib/**/x.php"], [], ["lib/.archscanignore"]⟩ := by
    rw [selfIgnored, loadTree, loadEntries_eq, List.mergeSort_of_pairwise (by decide +kernel)]
    decide +kernel
  have lines : loadTree (ignoreNames false) "" (nestedTree "lib") = libEnumerator.ignore.lines := by
    have searched : searchedDir ".archscanignore" = true ∧ searchedDir "lib" = true := by decide
    rw [nestedTree, loadTree, loadEntries_eq, List.mergeSort_of_pairwise (by decide +kernel)]
    simp only [List.filter_cons, searched, List.filter_nil, if_true, List.map_cons, List.map_nil, below,
      inner]
    decide +kernel
  rw [make, IgnoreChecker.load, lines]
  rfl

theorem loads_visited_iff_libTree : (nestedTree "lib").WellFormed ∧
    make (nestedTree "lib") ["**/*.php"] [] false = .ok libEnumerator ∧
    "lib/.archscanignore" ∈ libEnumerator.visited (nestedTree "lib") ∧
    "lib/.archscanignore" ∈ libEnumerator.ignore.lines.files ∧
    "/lib/**/x.php" ∈ libEnumerator.ignore.lines.patterns := by
  have wf : (nestedTree "lib").WellFormed := wellFormed_nestedTree (by decide) (by decide)
  have visited : pathText ["lib", ".archscanignore"] ∈ libEnumerator.visited (nestedTree "lib") :=
    visited_nestedTree wf (by decide +kernel) (.inl rfl)
  have found : (nestedTree "lib").at? (["lib"] ++ [".archscanignore"]) =
      some (.file (some "x.php".toUTF8)) := rfl
  obtain ⟨loaded, -, patterns, -⟩ := loads_visited_iff wf make_libTree (by decide) found visited
  have mem := loaded.2 (by decide)
  exact ⟨wf, make_libTree, visited, mem, patterns mem "x.php" (by decide +kernel)⟩

/-- Where it has a name that is, only the one at the root is. -/
def vendorEnumerator : Enumerator :=
  nestedEnumerator ⟨["!vendor"], ["vendor"], [".archscanignore"]⟩ []

/-- The directory is lifted and entered, the ignore file in it is not loaded, and what it excludes is
found. -/
theorem files_vendorTree : make (nestedTree "vendor") ["**/*.php"] [] false = .ok vendorEnumerator ∧
    (nestedTree "vendor").at? ["vendor", ".archscanignore"] = some (.file (some "x.php".toUTF8)) ∧
    "vendor/.archscanignore" ∈ vendorEnumerator.visited (nestedTree "vendor") ∧
    "vendor/.archscanignore" ∉ vendorEnumerator.ignore.lines.files ∧
    "vendor/x.php" ∈ vendorEnumerator.paths (nestedTree "vendor") := by
  have lines : loadTree (ignoreNames false) "" (nestedTree "vendor") =
      vendorEnumerator.ignore.lines := by
    rw [nestedTree, loadTree, loadEntries_eq, List.mergeSort_of_pairwise (by decide +kernel)]
    decide +kernel
  have wf : (nestedTree "vendor").WellFormed := wellFormed_nestedTree (by decide) (by decide)
  have enters : vendorEnumerator.enters "vendor" "vendor" = true := by decide +kernel
  refine ⟨?_, rfl, visited_nestedTree wf enters (.inl rfl), by decide, List.mem_filter.2
    ⟨visited_nestedTree wf enters (.inr rfl), by decide +kernel⟩⟩
  rw [make, IgnoreChecker.load, lines]
  rfl

end Enumerator

end DomainAtlas
