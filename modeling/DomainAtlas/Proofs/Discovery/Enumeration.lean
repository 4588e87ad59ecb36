import DomainAtlas.Discovery.Enumeration
import DomainAtlas.Proofs.Discovery.Loading

/-!
# Which files an enumeration finds, and in which order

A walk comes across a file exactly when it enters every directory on the way (`Reached`), and lists
what it comes across in an order of its own (`WalkBefore`): the files of a directory by name, then its
directories by name. The enumeration keeps those that pass its filters. Whether a path is taken by
globs and patterns is left open here: the results hold for any matcher in place of the rules'.

Results:
* `mem_walk_iff`, `pairwise_walk`: what a walk comes across, and in which order.
* `prunes_iff`: which names of directories are left out.
* `Enumerator.pathsBy_spec`: the paths of an enumeration, each of them once and in order.
-/
namespace DomainAtlas

/-! ## Walks -/

/-- The order of a walk, for files given by the names on their paths: the files of a directory come
before all that is in its directories, and each of both goes by name. -/
inductive WalkBefore : List String → List String → Prop
  | files {a b : String} (h : a < b) : WalkBefore [a] [b]
  | fileFirst (a b c : String) (rest : List String) : WalkBefore [a] (b :: c :: rest)
  | dirs {a b : String} (h : a < b) (c d : String) (as bs : List String) :
      WalkBefore (a :: c :: as) (b :: d :: bs)
  | inside (a : String) {as bs : List String} (h : WalkBefore as bs) : WalkBefore (a :: as) (a :: bs)

theorem WalkBefore.irrefl (names : List String) : ¬ WalkBefore names names := by
  induction names with
  | nil =>
    intro h
    cases h
  | cons a as ih =>
    intro h
    cases h with
    | files h => exact String.lt_irrefl a h
    | dirs h => exact String.lt_irrefl a h
    | inside _ h => exact ih h

theorem WalkBefore.append_left {as bs : List String} (dir : List String) (h : WalkBefore as bs) :
    WalkBefore (dir ++ as) (dir ++ bs) := by
  induction dir with
  | nil => exact h
  | cons d dir ih => exact .inside d ih

/-- A file that a walk of the directory `base` comes across: it enters every directory on the way. -/
structure Reached (enters : String → String → Bool) (base : List String) (t : Tree)
    (names : List String) : Prop where
  file : ∃ u, t.at? names = some u ∧ u.isDir = false
  entered : ∀ dir name rest, names = dir ++ name :: rest → rest ≠ [] →
    enters (pathText (base ++ dir ++ [name])) name = true

section Walks

variable {enters : String → String → Bool} {base : List String} {t : Tree}

theorem reached_singleton_iff (wf : t.WellFormed) {name : String} :
    Reached enters base t [name] ↔ ∃ u, (name, u) ∈ t.entries ∧ u.isDir = false := by
  constructor
  · rintro ⟨⟨u, hu, file⟩, -⟩
    obtain ⟨v, hv, e⟩ := wf.at?_cons_iff.1 hu
    rw [Tree.at?_nil] at e
    exact ⟨u, Option.some.inj e ▸ hv, file⟩
  · rintro ⟨u, hu, file⟩
    refine ⟨⟨u, wf.at?_cons_iff.2 ⟨u, hu, Tree.at?_nil u⟩, file⟩, ?_⟩
    intro dir d rest e ne
    have len := congrArg List.length e
    have := List.length_pos_iff.2 ne
    simp at len
    omega

theorem reached_cons_iff (wf : t.WellFormed) {d : String} {names : List String} (ne : names ≠ []) :
    Reached enters base t (d :: names) ↔
      ∃ u, (d, u) ∈ t.entries ∧ enters (pathText (base ++ [d])) d = true ∧
        Reached enters (base ++ [d]) u names := by
  constructor
  · rintro ⟨⟨u, hu, file⟩, entered⟩
    obtain ⟨v, hv, found⟩ := wf.at?_cons_iff.1 hu
    refine ⟨v, hv, by simpa using entered [] d names rfl ne, ⟨u, found, file⟩, ?_⟩
    intro dir name rest e hr
    simpa using entered (d :: dir) name rest (by rw [e]; rfl) hr
  · rintro ⟨v, hv, here, ⟨⟨u, found, file⟩, entered⟩⟩
    refine ⟨⟨u, wf.at?_cons_iff.2 ⟨v, hv, found⟩, file⟩, ?_⟩
    intro dir name rest e hr
    cases dir with
    | nil =>
      obtain ⟨rfl, -⟩ := List.cons.inj e
      simpa using here
    | cons d' dir =>
      obtain ⟨rfl, tail⟩ := List.cons.inj e
      simpa using entered dir name rest tail hr

theorem walkEntries_eq (base : String) (es : List (String × Tree)) :
    walk.walkEntries enters base es = (es.filter fun e => enters (below base e.1) e.1).map fun e =>
      (e.1, walk enters (below base e.1) e.2) := by
  induction es with
  | nil => rfl
  | cons e es ih =>
    obtain ⟨name, u⟩ := e
    simp only [walk.walkEntries, ih, List.filter_cons]
    split <;> simp

theorem map_fst_walkEntries (base : String) (es : List (String × Tree)) :
    ((walk.walkEntries enters base es).map Prod.fst).Sublist (es.map Prod.fst) := by
  rw [walkEntries_eq, List.map_map]
  exact List.filter_sublist.map _

theorem mem_sort_iff {x : String} {xs : List String} : x ∈ Text.sort xs ↔ x ∈ xs :=
  List.mem_mergeSort

theorem mem_fileNames_iff {name : String} {es : List (String × Tree)} :
    name ∈ Tree.fileNames es ↔ ∃ u, (name, u) ∈ es ∧ u.isDir = false := by
  simp only [Tree.fileNames, List.mem_map, List.mem_filter, Prod.exists, exists_and_right,
    exists_eq_right, Bool.not_eq_true']

/-- **Walks.** A walk comes across exactly the files on the way to which it enters everything. -/
theorem mem_walk_iff (wf : t.WellFormed) (proper : ∀ n ∈ base, EntryName n) {p : String} :
    p ∈ walk enters (pathText base) t ↔
      ∃ names, names ≠ [] ∧ p = pathText (base ++ names) ∧ Reached enters base t names := by
  induction wf generalizing base with
  | file content =>
    refine ⟨fun h => (by cases h), ?_⟩
    rintro ⟨names, ne, -, ⟨u, hu, -⟩, -⟩
    obtain ⟨name, names, rfl⟩ := List.exists_cons_of_ne_nil ne
    simp [Tree.at?_cons, Tree.entries] at hu
  | dirLink =>
    refine ⟨fun h => (by cases h), ?_⟩
    rintro ⟨names, ne, -, ⟨u, hu, -⟩, -⟩
    obtain ⟨name, names, rfl⟩ := List.exists_cons_of_ne_nil ne
    simp [Tree.at?_cons, Tree.entries] at hu
  | @dir es nodup named inner ih =>
    have wf : (Tree.dir es).WellFormed := .dir nodup named inner
    simp only [walk, List.mem_append, List.mem_map, mem_sort_iff, mem_fileNames_iff, List.mem_flatMap,
      List.mem_mergeSort, walkEntries_eq, List.mem_filter]
    constructor
    · rintro (⟨name, ⟨u, hu, file⟩, rfl⟩ | ⟨-, ⟨⟨d, u⟩, ⟨hu, here⟩, rfl⟩, hp⟩)
      · exact ⟨[name], by simp, below_pathText proper name,
          (reached_singleton_iff wf).2 ⟨u, hu, file⟩⟩
      · simp only [below_pathText proper] at here hp
        obtain ⟨names, ne, rfl, reached⟩ := (ih _ hu (entryName_concat proper (named _ hu))).1 hp
        exact ⟨d :: names, by simp, by simp,
          (reached_cons_iff wf ne).2 ⟨u, hu, here, reached⟩⟩
    · rintro ⟨names, ne, rfl, reached⟩
      obtain ⟨d, names, rfl⟩ := List.exists_cons_of_ne_nil ne
      by_cases last : names = []
      · subst last
        exact .inl ⟨d, (reached_singleton_iff wf).1 reached, below_pathText proper d⟩
      · obtain ⟨u, hu, here, reached⟩ := (reached_cons_iff wf last).1 reached
        refine .inr ⟨(d, walk enters (below (pathText base) d) u), ⟨(d, u), ⟨hu, ?_⟩, rfl⟩, ?_⟩
        · rw [below_pathText proper]
          exact here
        · simp only [below_pathText proper]
          exact (ih _ hu (entryName_concat proper (named _ hu))).2
            ⟨names, last, by simp, reached⟩

/-- Sorting distinct texts puts them in strict order. -/
theorem pairwise_sort {xs : List String} (nodup : xs.Nodup) : (Text.sort xs).Pairwise (· < ·) := by
  have sorted : (Text.sort xs).Pairwise fun a b => Text.le a b = true :=
    List.pairwise_mergeSort text_le_trans text_le_total xs
  have distinct : (Text.sort xs).Nodup := (List.mergeSort_perm xs Text.le).nodup_iff.2 nodup
  refine (sorted.and distinct).imp fun {a b} h => ?_
  exact String.not_le.1 fun h' => h.2 (String.le_antisymm ((le_iff a b).1 h.1) h')

/-- The order in which a walk comes across paths. -/
def PathBefore (p q : String) : Prop := WalkBefore (Text.split '/' p) (Text.split '/' q)

theorem pathBefore_of_walkBefore {dir as bs : List String} (ha : ∀ n ∈ dir ++ as, EntryName n)
    (hb : ∀ n ∈ dir ++ bs, EntryName n) (h : WalkBefore as bs) :
    PathBefore (pathText (dir ++ as)) (pathText (dir ++ bs)) := by
  have nil (names : List String) : ¬ WalkBefore [] names ∧ ¬ WalkBefore names [] := by
    constructor <;> intro h <;> cases h
  have na : dir ++ as ≠ [] := fun e => (nil bs).1 ((List.append_eq_nil_iff.1 e).2 ▸ h)
  have nb : dir ++ bs ≠ [] := fun e => (nil as).2 ((List.append_eq_nil_iff.1 e).2 ▸ h)
  rw [PathBefore, split_pathText ha na, split_pathText hb nb]
  exact h.append_left dir

theorem Reached.entryName (wf : t.WellFormed) (proper : ∀ n ∈ base, EntryName n) {names : List String}
    (h : Reached enters base t names) : ∀ n ∈ base ++ names, EntryName n := by
  obtain ⟨u, hu, -⟩ := h.file
  exact List.forall_mem_append.2 ⟨proper, (wf.at? hu).1⟩

/-- What is found in a directory that is entered is below that directory. -/
theorem exists_of_mem_walkEntries {es : List (String × Tree)} (wf : (Tree.dir es).WellFormed)
    (proper : ∀ n ∈ base, EntryName n) {e : String × List String}
    (he : e ∈ walk.walkEntries enters (pathText base) es) {p : String} (hp : p ∈ e.2) :
    ∃ c rest, p = pathText (base ++ e.1 :: c :: rest) ∧ ∀ n ∈ base ++ e.1 :: c :: rest, EntryName n := by
  rw [walkEntries_eq] at he
  obtain ⟨⟨d, u⟩, hu, rfl⟩ := List.mem_map.1 he
  have mem := (List.mem_filter.1 hu).1
  have inner := wf.inner_entries mem
  have proper' := entryName_concat proper (wf.named_entries mem)
  simp only [below_pathText proper] at hp
  obtain ⟨names, ne, rfl, reached⟩ := (mem_walk_iff inner proper').1 hp
  obtain ⟨c, rest, rfl⟩ := List.exists_cons_of_ne_nil ne
  exact ⟨c, rest, by simp, by simpa using reached.entryName inner proper'⟩

/-- **The order of walks.** -/
theorem pairwise_walk (wf : t.WellFormed) (proper : ∀ n ∈ base, EntryName n) :
    (walk enters (pathText base) t).Pairwise PathBefore := by
  induction wf generalizing base with
  | file content => exact .nil
  | dirLink => exact .nil
  | @dir es nodup named inner ih =>
    have wf : (Tree.dir es).WellFormed := .dir nodup named inner
    have fileName {name : String} (h : name ∈ Text.sort (Tree.fileNames es)) :
        ∀ n ∈ base ++ [name], EntryName n := by
      obtain ⟨u, hu, -⟩ := mem_fileNames_iff.1 (mem_sort_iff.1 h)
      exact entryName_concat proper (named _ hu)
    rw [walk]
    refine List.pairwise_append.2 ⟨?_, List.pairwise_flatMap.2 ⟨?_, ?_⟩, ?_⟩
    · have names : (Tree.fileNames es).Nodup := nodup.sublist (List.filter_sublist.map _)
      refine List.pairwise_map.2 ((pairwise_sort names).imp_of_mem fun ha hb h => ?_)
      rw [below_pathText proper, below_pathText proper]
      exact pathBefore_of_walkBefore (fileName ha) (fileName hb) (.files h)
    · intro e he
      rw [List.mem_mergeSort, walkEntries_eq] at he
      obtain ⟨⟨d, u⟩, hu, rfl⟩ := List.mem_map.1 he
      have mem := (List.mem_filter.1 hu).1
      simp only [below_pathText proper]
      exact ih _ mem (entryName_concat proper (named _ mem))
    · have distinct : ((walk.walkEntries enters (pathText base) es).map Prod.fst).Nodup :=
        nodup.sublist (map_fst_walkEntries _ es)
      have sorted := List.pairwise_mergeSort entryLe_trans entryLe_total
        (walk.walkEntries enters (pathText base) es)
      have apart : ((walk.walkEntries enters (pathText base) es).mergeSort entryLe).Pairwise
          fun a b => a.1 ≠ b.1 :=
        List.pairwise_map.1 (((List.mergeSort_perm _ entryLe).map Prod.fst).nodup_iff.2 distinct)
      refine (sorted.and apart).imp_of_mem fun {a b} ha hb h p hp q hq => ?_
      obtain ⟨c, as, rfl, pa⟩ := exists_of_mem_walkEntries wf proper (List.mem_mergeSort.1 ha) hp
      obtain ⟨d, bs, rfl, pb⟩ := exists_of_mem_walkEntries wf proper (List.mem_mergeSort.1 hb) hq
      have lt : a.1 < b.1 := String.not_le.1 fun h' =>
        h.2 (String.le_antisymm ((le_iff a.1 b.1).1 h.1) h')
      exact pathBefore_of_walkBefore pa pb (.dirs lt c d as bs)
    · intro p hp q hq
      obtain ⟨a, ha, rfl⟩ := List.mem_map.1 hp
      obtain ⟨e, he, hq⟩ := List.mem_flatMap.1 hq
      obtain ⟨c, rest, rfl, pb⟩ := exists_of_mem_walkEntries wf proper (List.mem_mergeSort.1 he) hq
      rw [below_pathText proper]
      exact pathBefore_of_walkBefore (fileName ha) pb (.fileFirst a e.1 c rest)

end Walks

/-! ## What is left out by name -/

/-- A pattern in a loaded ignore file at the root lifts the name: negated, and the plain name but for
slashes at its ends. -/
def Lifted (t : Tree) (respectGit : Bool) (name : String) : Prop :=
  ∃ file content line body, t.Loads (ignoreNames respectGit) [] file content ∧
    line ∈ patternLines content ∧ line.toList = '!' :: body ∧
    Text.trimBy (· == '/') body = name.toList ∧ '/' ∉ name.toList ∧ '*' ∉ name.toList

/-- Directories of this name are left out: the name is one of those never entered, or one of those
left out by default, tests in any case of letters among them, that is not lifted. -/
def LeftOut (t : Tree) (respectGit : Bool) (name : String) : Prop :=
  name ∈ hardcodedDirs ∨
    (name ∈ defaultPrunableDirs ∨ Text.lowerAscii name ∈ testDirNames) ∧ ¬ Lifted t respectGit name

theorem mem_liftedBy_iff {name line : String} (ne : name ≠ "") : name ∈ liftedBy line ↔
    ∃ body, line.toList = '!' :: body ∧ Text.trimBy (· == '/') body = name.toList ∧
      '/' ∉ name.toList ∧ '*' ∉ name.toList := by
  unfold liftedBy
  split
  · next body h =>
    have stripped : Text.stripChar '/' (String.ofList body) = name ↔
        Text.trimBy (· == '/') body = name.toList := by
      rw [← String.toList_inj, Text.stripChar, String.toList_ofList, String.toList_ofList]
    simp only [h, List.cons.injEq, true_and, exists_eq_left', liftedName?, ← stripped]
    constructor
    · intro hx
      split at hx
      · cases hx
      · next plain =>
        obtain rfl := List.mem_singleton.1 hx
        simp only [List.contains_iff_mem] at plain
        exact ⟨rfl, fun h => plain (.inr (.inl h)), fun h => plain (.inr (.inr h))⟩
    · rintro ⟨rfl, slash, star⟩
      rw [if_neg (by simpa [ne] using ⟨slash, star⟩)]
      simp
  · next h =>
    refine ⟨fun hx => (by cases hx), ?_⟩
    rintro ⟨body, e, -⟩
    exact (h body e).elim

section Names

variable {t : Tree} {respectGit : Bool} {c : IgnoreChecker}

theorem lifted_iff (wf : t.WellFormed) {name : String} (ne : name ≠ "") :
    name ∈ (loadTree (ignoreNames respectGit) "" t).lifted ↔ Lifted t respectGit name := by
  simp only [mem_lifted_loadTree wf, mem_liftedBy_iff ne]
  constructor
  · rintro ⟨file, content, loads, line, hl, body, h⟩
    exact ⟨file, content, line, body, loads, hl, h⟩
  · rintro ⟨file, content, line, body, loads, hl, h⟩
    exact ⟨file, content, loads, line, hl, body, h⟩

theorem prunes_iff (wf : t.WellFormed) (lines : c.lines = loadTree (ignoreNames respectGit) "" t)
    (name : String) : c.prunes name = true ↔ LeftOut t respectGit name := by
  unfold IgnoreChecker.prunes LeftOut isHardcodedDir isDefaultPrunable isTestDir
  simp only [List.contains_eq_mem, decide_eq_true_eq, Bool.or_eq_true]
  split
  · next h => simp [h]
  · next h =>
    split
    · next default =>
      have ne : name ≠ "" := by
        rintro rfl
        revert default
        decide
      simp [h, default, lines, lifted_iff wf ne]
    · next default => simp [h, default]

end Names

/-! ## Enumerations -/

namespace Enumerator

/-- Says whether some rules take a path. -/
abbrev Matcher := Glob.Ruleset → String → Bool

variable (e : Enumerator) (takes : Matcher)

/-- Whether the ignore files exclude a path, as the matcher has it. -/
def ignoresBy (path : String) (isDir : Bool) : Bool :=
  takes e.ignore.rules (IgnoreChecker.matchable path isDir)

/-- Whether a file is kept, as the matcher has it. -/
def acceptsBy (path : String) : Bool :=
  (Dialect.ofPath? path).isSome && takes e.includes path && !takes e.excludes path &&
    !e.ignoresBy takes path false

/-- The source files of a tree, as the matcher has it. -/
def pathsBy (tree : Tree) : List String :=
  (walk (fun path name => !e.ignore.prunes name && !e.ignoresBy takes path true) "" tree).filter
    (e.acceptsBy takes)

/-- The enumeration itself goes by what the rules take. -/
theorem pathsBy_takes (tree : Tree) : e.pathsBy Glob.Ruleset.takes tree = e.paths tree := by
  have accepts : e.acceptsBy Glob.Ruleset.takes = e.accepts := by
    funext path
    unfold acceptsBy ignoresBy accepts rejection IgnoreChecker.excludes
    cases Dialect.ofPath? path <;> cases e.includes.takes path <;>
      cases e.excludes.takes path <;>
      cases e.ignore.rules.takes (IgnoreChecker.matchable path false) <;> simp_all
  rw [pathsBy, accepts]
  rfl

theorem load_of_make {tree : Tree} {includeGlobs excludeGlobs : List String} {respectGit : Bool}
    {e : Enumerator} (made : make tree includeGlobs excludeGlobs respectGit = .ok e) :
    IgnoreChecker.load tree respectGit = .ok e.ignore := by
  unfold make at made
  split at made
  · cases made
  · split at made
    · cases made
    · cases loaded : IgnoreChecker.load tree respectGit with
      | error f => simp [loaded, Except.map] at made
      | ok c =>
        simp only [loaded, Except.map, Except.ok.injEq] at made
        rw [← made]

theorem ignore_lines_of_make {tree : Tree} {includeGlobs excludeGlobs : List String} {respectGit : Bool}
    {e : Enumerator} (made : make tree includeGlobs excludeGlobs respectGit = .ok e) :
    e.ignore.lines = loadTree (ignoreNames respectGit) "" tree :=
  (IgnoreChecker.lines_of_load (load_of_make made)).1

/-- **Enumerations are exact.** Whatever the matcher takes, the enumeration of a tree finds exactly the
files it accepts on the way to which every directory is a directory of the tree, none is left out by
its name, and none is excluded by the ignore files. It finds no path twice, and goes by the files of
each directory before what is in its directories, both in order of name. -/
theorem pathsBy_spec {tree : Tree} (wf : tree.WellFormed) {includeGlobs excludeGlobs : List String}
    {respectGit : Bool} {e : Enumerator}
    (made : make tree includeGlobs excludeGlobs respectGit = .ok e) :
    e.pathsBy Glob.Ruleset.takes tree = e.paths tree ∧
    ∀ takes : Matcher,
      (∀ p, p ∈ e.pathsBy takes tree ↔
        e.acceptsBy takes p = true ∧ ∃ names, names ≠ [] ∧ p = pathText names ∧
          (∃ u, tree.at? names = some u ∧ u.isDir = false) ∧
          ∀ dir name rest, names = dir ++ name :: rest → rest ≠ [] →
            (∃ es, tree.at? (dir ++ [name]) = some (.dir es)) ∧ ¬ LeftOut tree respectGit name ∧
            e.ignoresBy takes (pathText (dir ++ [name])) true = false) ∧
      (e.pathsBy takes tree).Nodup ∧
      (e.pathsBy takes tree).Pairwise PathBefore := by
  refine ⟨e.pathsBy_takes tree, fun takes => ?_⟩
  have lines := ignore_lines_of_make made
  have ordered : (e.pathsBy takes tree).Pairwise PathBefore :=
    (pairwise_walk wf (List.forall_mem_nil EntryName)).filter _
  refine ⟨fun p => ?_, ordered.imp fun {p q} h e => ?_, ordered⟩
  · rw [pathsBy, List.mem_filter, and_comm, ← pathText_nil, mem_walk_iff wf (by simp)]
    refine and_congr_right fun _ => exists_congr fun names => and_congr_right fun _ => ?_
    rw [List.nil_append]
    refine and_congr_right fun _ => ⟨?_, ?_⟩
    · rintro ⟨⟨u, hu, file⟩, entered⟩
      refine ⟨⟨u, hu, file⟩, fun dir name rest h ne => ?_⟩
      have split : names = (dir ++ [name]) ++ rest := by simp [h]
      have here := entered dir name rest h ne
      simp only [List.nil_append, Bool.and_eq_true, Bool.not_eq_true'] at here
      exact ⟨Tree.exists_dir_of_at? (split ▸ hu) ne,
        fun out => by simp [(prunes_iff wf lines name).2 out] at here, here.2⟩
    · rintro ⟨file, kept⟩
      refine ⟨file, fun dir name rest h ne => ?_⟩
      obtain ⟨-, stays, free⟩ := kept dir name rest h ne
      have prunes : e.ignore.prunes name = false :=
        Bool.not_eq_true _ ▸ fun h => stays ((prunes_iff wf lines name).1 h)
      simp [prunes, free]
  · rw [PathBefore, e] at h
    exact WalkBefore.irrefl _ h

/-- A tree in which one default directory is lifted and another directory is excluded. -/
def liftedTree : Tree := .dir [
  (".archscanignore", .file (some "!vendor/\ngen/".toUTF8)), ("b.php", .file none),
  ("gen", .dir [("g.php", .file none)]), ("vendor", .dir [("v.php", .file none)])]

theorem wellFormed_liftedTree : liftedTree.WellFormed := by
  have oneFile {name : String} (h : EntryName name) : (Tree.dir [(name, .file none)]).WellFormed :=
    .dir (List.nodup_singleton name) (List.forall_mem_singleton.2 h)
      (List.forall_mem_singleton.2 (.file none))
  refine .dir (by decide) (by decide) ?_
  simp only [List.forall_mem_cons]
  exact ⟨.file _, .file _, oneFile (by decide), oneFile (by decide), List.forall_mem_nil _⟩

theorem loadTree_liftedTree : loadTree (ignoreNames false) "" liftedTree =
    ⟨["!vendor/", "gen/"], ["vendor"], [".archscanignore"]⟩ := by
  rw [liftedTree, loadTree, loadEntries_eq, List.mergeSort_of_pairwise (by decide +kernel)]
  decide +kernel

def liftedEnumerator : Enumerator where
  includes := ⟨[⟨true, .atoms [.leadingDirs, .many, .char '.', .char 'p', .char 'h', .char 'p',
    .close]⟩]⟩
  excludes := ⟨[]⟩
  ignore := ⟨⟨["!vendor/", "gen/"], ["vendor"], [".archscanignore"]⟩, ⟨[
    ⟨false, .atoms [.leadingDirs, .char 'v', .char 'e', .char 'n', .char 'd', .char 'o', .char 'r',
      .below]⟩,
    ⟨true, .atoms [.leadingDirs, .char 'g', .char 'e', .char 'n', .below]⟩]⟩⟩

theorem make_liftedTree : make liftedTree ["**/*.php"] [] false = .ok liftedEnumerator := by
  unfold make IgnoreChecker.load
  rw [loadTree_liftedTree]
  rfl

/-- The file in the lifted directory is found, the one in the excluded directory is not. -/
theorem pathsBy_spec_liftedTree : liftedTree.WellFormed ∧
    make liftedTree ["**/*.php"] [] false = .ok liftedEnumerator ∧
    "vendor/v.php" ∈ liftedEnumerator.paths liftedTree ∧
    "gen/g.php" ∉ liftedEnumerator.paths liftedTree := by
  obtain ⟨same, spec⟩ := pathsBy_spec wellFormed_liftedTree make_liftedTree
  obtain ⟨found, -⟩ := spec Glob.Ruleset.takes
  rw [same] at found
  refine ⟨wellFormed_liftedTree, make_liftedTree, (found _).2 ⟨by decide +kernel, ["vendor", "v.php"],
    by simp, by decide +kernel, ⟨_, rfl, rfl⟩, ?_⟩, fun h => ?_⟩
  · intro dir name rest e ne
    obtain ⟨rfl, rfl⟩ : dir = [] ∧ name = "vendor" := by
      rcases dir with _ | ⟨d, _ | ⟨d', dir⟩⟩
      · exact ⟨rfl, (List.cons.inj e).1.symm⟩
      · exact absurd (List.cons.inj (List.cons.inj e).2).2.symm ne
      · simp at e
    refine ⟨⟨_, rfl⟩, ?_, by decide +kernel⟩
    rintro (hard | ⟨-, stays⟩)
    · revert hard
      decide
    · refine stays ⟨".archscanignore", some "!vendor/\ngen/".toUTF8, "!vendor/", "vendor/".toList,
        ⟨by decide, rfl, by simp⟩, by decide +kernel, rfl, by decide, by decide, by decide⟩
  · obtain ⟨-, names, -, e, ⟨u, hu, -⟩, kept⟩ := (found _).1 h
    obtain rfl : ["gen", "g.php"] = names :=
      pathText_inj (by decide) (wellFormed_liftedTree.at? hu).1 (by rw [← e]; decide +kernel)
    have free := (kept [] "gen" ["g.php"] rfl (by simp)).2.2
    revert free
    decide +kernel

end Enumerator

end DomainAtlas
