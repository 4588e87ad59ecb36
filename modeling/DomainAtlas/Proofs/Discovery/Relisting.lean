import DomainAtlas.Proofs.Discovery.Enumeration

/-!
# Discovery does not depend on the order of listings

An operating system lists the entries of a directory in an order of its own. Two listings of a tree
(`Tree.Relisted`) have the same distinct names in every directory, and under each name the same file or
link, or listings of the same directory again. Both walks look entries up by name and sort what they
collect by name, so that at every directory the two listings come to the same.

Results:
* `perm_of_names`: what is collected by name from two listings is the same up to order.
* `loadTree_relisted`, `walk_relisted`: the two walks.
* `Enumerator.discovery_relisted`: the ignore files, their patterns and lifted names, the checker and the
  paths of an enumeration are the same for both listings.
-/
namespace DomainAtlas

/-- Two listings of the same tree: every directory has the same distinct names in both, in any order,
and what stands under a name is the same up to the order of listings. -/
inductive Tree.Relisted : Tree → Tree → Prop
  | file (content : Option ByteArray) : Relisted (.file content) (.file content)
  | dirLink : Relisted .dirLink .dirLink
  | dir {es fs : List (String × Tree)} (nodup : (es.map Prod.fst).Nodup)
      (names : (es.map Prod.fst).Perm (fs.map Prod.fst))
      (inner : ∀ name t u, (name, t) ∈ es → (name, u) ∈ fs → Relisted t u) :
      Relisted (.dir es) (.dir fs)

theorem Tree.Relisted.isDir_eq {t u : Tree} (h : t.Relisted u) : t.isDir = u.isDir := by
  cases h <;> rfl

/-! ## Entries by name -/

section Entries

variable {α β : Type} {es fs : List (String × α)}

theorem mem_valued_of_names {g : String → α → β}
    (names : ∀ name, name ∈ es.map Prod.fst → name ∈ fs.map Prod.fst)
    (same : ∀ name t u, (name, t) ∈ es → (name, u) ∈ fs → g name t = g name u) {x : String × β}
    (h : x ∈ es.map fun e => (e.1, g e.1 e.2)) : x ∈ fs.map fun e => (e.1, g e.1 e.2) := by
  obtain ⟨⟨name, t⟩, ht, rfl⟩ := List.mem_map.1 h
  obtain ⟨⟨_, u⟩, hu, rfl⟩ := List.mem_map.1 (names name (List.mem_map_of_mem ht))
  exact List.mem_map.2 ⟨_, hu, by rw [same _ t u ht hu]⟩

/-- What two listings have under the same names is the same up to order. -/
theorem perm_of_names (nodup : (es.map Prod.fst).Nodup)
    (names : (es.map Prod.fst).Perm (fs.map Prod.fst)) {g : String → α → β}
    (same : ∀ name t u, (name, t) ∈ es → (name, u) ∈ fs → g name t = g name u) :
    (es.map fun e => (e.1, g e.1 e.2)).Perm (fs.map fun e => (e.1, g e.1 e.2)) := by
  have distinct {gs : List (String × α)} (h : (gs.map Prod.fst).Nodup) :
      (gs.map fun e => (e.1, g e.1 e.2)).Nodup := by
    refine List.Nodup.of_map Prod.fst ?_
    rwa [List.map_map]
  refine (List.perm_ext_iff_of_nodup (distinct nodup) (distinct (names.nodup_iff.1 nodup))).2 fun x => ?_
  constructor
  · exact mem_valued_of_names (fun _ => names.mem_iff.1) same
  · exact mem_valued_of_names (fun _ => names.mem_iff.2) fun name t u ht hu => (same name u t hu ht).symm

/-- What is collected from the entries of chosen names and sorted by name is the same. -/
theorem mergeSort_chosen_eq (nodup : (es.map Prod.fst).Nodup)
    (names : (es.map Prod.fst).Perm (fs.map Prod.fst)) (chosen : String → Bool) {g : String → α → β}
    (same : ∀ name t u, (name, t) ∈ es → (name, u) ∈ fs → g name t = g name u) :
    ((es.filter fun e => chosen e.1).map fun e => (e.1, g e.1 e.2)).mergeSort entryLe =
      ((fs.filter fun e => chosen e.1).map fun e => (e.1, g e.1 e.2)).mergeSort entryLe := by
  have late (gs : List (String × α)) : (gs.filter fun e => chosen e.1).map (fun e => (e.1, g e.1 e.2)) =
      (gs.map fun e => (e.1, g e.1 e.2)).filter fun e => chosen e.1 := by
    rw [List.filter_map]
    rfl
  have distinct : (((es.map fun e => (e.1, g e.1 e.2)).filter fun e => chosen e.1).map Prod.fst).Nodup := by
    refine List.Nodup.sublist (List.filter_sublist.map _) ?_
    rwa [List.map_map]
  rw [late, late]
  exact mergeSort_congr entryLe_trans entryLe_total (entryLe_ties distinct)
    ((perm_of_names nodup names same).filter _)

end Entries

theorem sort_congr {xs ys : List String} (h : xs.Perm ys) : Text.sort xs = Text.sort ys :=
  mergeSort_congr text_le_trans text_le_total (fun _ _ _ _ => text_le_antisymm) h

/-! ## The two walks -/

section Walks

section Directory

variable {es fs : List (String × Tree)} (nodup : (es.map Prod.fst).Nodup)
  (names : (es.map Prod.fst).Perm (fs.map Prod.fst))
  (inner : ∀ name t u, (name, t) ∈ es → (name, u) ∈ fs → t.Relisted u)

include nodup names inner

/-- Under a name of one listing the other has the same, up to the order of listings. -/
theorem exists_lookup_relisted {name : String} {t : Tree} (h : es.lookup name = some t) :
    ∃ u, fs.lookup name = some u ∧ t.Relisted u := by
  have ht := (lookup_eq_some_iff_mem nodup name t).1 h
  obtain ⟨⟨_, u⟩, hu, rfl⟩ := List.mem_map.1 (names.mem_iff.1 (List.mem_map_of_mem ht))
  exact ⟨u, (lookup_eq_some_iff_mem (names.nodup_iff.1 nodup) _ u).2 hu, inner _ t u ht hu⟩

theorem loadNamed_relisted (base name : String) : loadNamed base es name = loadNamed base fs name := by
  unfold loadNamed
  cases found : es.lookup name with
  | some t =>
    obtain ⟨u, found', same⟩ := exists_lookup_relisted nodup names inner found
    rw [found']
    cases same <;> rfl
  | none =>
    have absent : fs.lookup name = none := by
      rw [List.lookup_eq_none_iff] at found ⊢
      intro e he
      obtain ⟨e', he', same⟩ := List.mem_map.1 (names.mem_iff.2 (List.mem_map_of_mem he))
      exact same ▸ found e' he'
    rw [absent]

theorem fileNames_relisted : (Tree.fileNames es).Perm (Tree.fileNames fs) := by
  have kinds (gs : List (String × Tree)) : Tree.fileNames gs =
      ((gs.map fun e => (e.1, e.2.isDir)).filter fun e => !e.2).map Prod.fst := by
    rw [List.filter_map, List.map_map]
    rfl
  have same := perm_of_names (g := fun _ t => t.isDir) nodup names
    fun name t u ht hu => (inner name t u ht hu).isDir_eq
  rw [kinds, kinds]
  exact (same.filter _).map _

end Directory

variable {t u : Tree}

/-- **Loading.** Two listings of a tree say the same: the same files in the same order, with the same
patterns and the same lifted names. -/
theorem loadTree_relisted (h : t.Relisted u) (ignoreFiles : List String) (base : String) :
    loadTree ignoreFiles base t = loadTree ignoreFiles base u := by
  induction h generalizing base with
  | file content => rfl
  | dirLink => rfl
  | dir nodup names inner ih =>
    have own := funext (loadNamed_relisted nodup names inner base)
    rw [loadTree, loadTree, own, loadEntries_eq, loadEntries_eq,
      mergeSort_chosen_eq nodup names searchedDir fun name t u ht hu => ih name t u ht hu (below base name)]

/-- **Walking.** A walk comes across the same files in the same order. -/
theorem walk_relisted (h : t.Relisted u) (enters : String → String → Bool) (base : String) :
    walk enters base t = walk enters base u := by
  induction h generalizing base with
  | file content => rfl
  | dirLink => rfl
  | dir nodup names inner ih =>
    rw [walk, walk, sort_congr (fileNames_relisted nodup names inner), walkEntries_eq, walkEntries_eq,
      mergeSort_chosen_eq nodup names (fun name => enters (below base name) name)
        fun name t u ht hu => ih name t u ht hu (below base name)]

end Walks

namespace Enumerator

/-- **Discovery does not depend on the order of listings.** -/
theorem discovery_relisted {t u : Tree} (h : t.Relisted u) (respectGit : Bool)
    (includeGlobs excludeGlobs : List String) :
    loadTree (ignoreNames respectGit) "" t = loadTree (ignoreNames respectGit) "" u ∧
      IgnoreChecker.load t respectGit = IgnoreChecker.load u respectGit ∧
      make t includeGlobs excludeGlobs respectGit = make u includeGlobs excludeGlobs respectGit ∧
      ∀ e : Enumerator, e.paths t = e.paths u ∧ e.walkEvents t = e.walkEvents u := by
  have lines := loadTree_relisted h (ignoreNames respectGit) ""
  have checker : IgnoreChecker.load t respectGit = IgnoreChecker.load u respectGit := by
    rw [IgnoreChecker.load, IgnoreChecker.load, lines]
  refine ⟨lines, checker, ?_, fun e => ?_⟩
  · rw [make, make, checker]
  · have visited : e.visited t = e.visited u := walk_relisted h e.enters ""
    rw [paths, paths, walkEvents, walkEvents, visited]
    exact ⟨rfl, rfl⟩

/-- A directory with an ignore file that takes back what is excluded further up. -/
def revokingFolder : Tree :=
  .dir [(".archscanignore", .file (some "!x.php".toUTF8)), ("x.php", .file none)]

/-- A tree with such a directory. -/
def revokedTree : Tree := .dir [
  (".archscanignore", .file (some "x.php".toUTF8)), ("app", revokingFolder), ("x.php", .file none)]

/-- The same tree with every directory listed from the end. -/
def revokedTreeTurned : Tree := .dir [
  ("x.php", .file none),
  ("app", .dir [("x.php", .file none), (".archscanignore", .file (some "!x.php".toUTF8))]),
  (".archscanignore", .file (some "x.php".toUTF8))]

/-- Where every entry of one listing has its counterpart in the other, a name tells which it is. -/
theorem relisted_of_pairs {es fs : List (String × Tree)} (nodup : (fs.map Prod.fst).Nodup)
    (names : (es.map Prod.fst).Perm (fs.map Prod.fst))
    (pairs : ∀ e ∈ es, ∃ u, (e.1, u) ∈ fs ∧ e.2.Relisted u) : (Tree.dir es).Relisted (.dir fs) := by
  refine .dir (names.nodup_iff.2 nodup) names fun name t u ht hu => ?_
  obtain ⟨v, hv, same⟩ := pairs _ ht
  have found := (lookup_eq_some_iff_mem nodup name v).2 hv
  rw [(lookup_eq_some_iff_mem nodup name u).2 hu] at found
  exact Option.some.inj found ▸ same

theorem relisted_revokedTree : revokedTree.Relisted revokedTreeTurned := by
  have folder : revokingFolder.Relisted
      (.dir [("x.php", .file none), (".archscanignore", .file (some "!x.php".toUTF8))]) := by
    refine relisted_of_pairs (by decide) (by decide) ?_
    simp only [List.forall_mem_cons]
    exact ⟨⟨_, by simp, .file _⟩, ⟨_, by simp, .file _⟩, List.forall_mem_nil _⟩
  refine relisted_of_pairs (by decide) (by decide) ?_
  simp only [List.forall_mem_cons]
  exact ⟨⟨_, by simp, .file _⟩, ⟨_, by simp, folder⟩, ⟨_, by simp, .file _⟩, List.forall_mem_nil _⟩

def revokedEnumerator : Enumerator where
  includes := ⟨[⟨true, .atoms [.leadingDirs, .many, .char '.', .char 'p', .char 'h', .char 'p',
    .close]⟩]⟩
  excludes := ⟨[]⟩
  ignore := ⟨⟨["x.php", "!/app/**/x.php"], [], [".archscanignore", "app/.archscanignore"]⟩, ⟨[
    ⟨true, .atoms [.leadingDirs, .char 'x', .char '.', .char 'p', .char 'h', .char 'p', .close]⟩,
    ⟨false, .atoms [.char 'a', .char 'p', .char 'p', .innerDirs, .slash, .char 'x', .char '.', .char 'p',
      .char 'h', .char 'p', .close]⟩]⟩⟩

theorem make_revokedTree : make revokedTree ["**/*.php"] [] false = .ok revokedEnumerator := by
  have folder : loadTree (ignoreNames false) "app" revokingFolder =
      ⟨["!/app/**/x.php"], [], ["app/.archscanignore"]⟩ := by
    rw [revokingFolder, loadTree, loadEntries_eq, List.mergeSort_of_pairwise (by decide +kernel)]
    decide +kernel
  have searched : searchedDir ".archscanignore" = true ∧ searchedDir "app" = true ∧
      searchedDir "x.php" = true := by decide
  have lines : loadTree (ignoreNames false) "" revokedTree = revokedEnumerator.ignore.lines := by
    rw [revokedTree, loadTree, loadEntries_eq, List.mergeSort_of_pairwise (by decide +kernel)]
    simp only [List.filter_cons, searched, List.filter_nil, if_true, List.map_cons, List.map_nil, below,
      folder]
    decide +kernel
  rw [make, IgnoreChecker.load, lines]
  rfl

/-- The nested file is kept, the one at the root is not. -/
theorem paths_revokedTree : revokedEnumerator.paths revokedTree = ["app/x.php"] := by
  have folder : walk revokedEnumerator.enters "app" revokingFolder =
      ["app/.archscanignore", "app/x.php"] := by
    rw [revokingFolder, walk, Text.sort, List.mergeSort_of_pairwise (by decide +kernel), walkEntries_eq,
      List.mergeSort_of_pairwise (by decide +kernel)]
    decide +kernel
  have entered : revokedEnumerator.enters ".archscanignore" ".archscanignore" = true ∧
      revokedEnumerator.enters "app" "app" = true ∧
      revokedEnumerator.enters "x.php" "x.php" = false := by decide +kernel
  rw [paths, visited, revokedTree, walk, Text.sort, List.mergeSort_of_pairwise (by decide +kernel),
    walkEntries_eq, List.mergeSort_of_pairwise (by decide +kernel)]
  simp only [List.filter_cons, below, entered, if_true, if_false, List.filter_nil, List.map_cons,
    List.map_nil, folder, Bool.false_eq_true]
  decide +kernel

/-- From the turned listing too the nested file is loaded after the one at the root, and takes back what
that one excludes. -/
theorem discovery_relisted_revokedTree : revokedTree.Relisted revokedTreeTurned ∧
    make revokedTreeTurned ["**/*.php"] [] false = .ok revokedEnumerator ∧
    revokedEnumerator.paths revokedTreeTurned = ["app/x.php"] := by
  obtain ⟨-, -, made, found⟩ := discovery_relisted relisted_revokedTree false ["**/*.php"] []
  exact ⟨relisted_revokedTree, made ▸ make_revokedTree,
    (found revokedEnumerator).1 ▸ paths_revokedTree⟩

end Enumerator

end DomainAtlas
