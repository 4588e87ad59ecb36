import DomainAtlas.Proofs.Discovery.Rewriting

/-!
# The scope of a nested ignore file

An ignore file decides about paths in its directory only: with and without the file, the ignore files of
a tree exclude the same paths elsewhere (`IgnoreChecker.excludes_without`). The directory's path is taken
for a part of a pattern, so this is so where the names on it have no characters with a meaning in
patterns; `excludes_without_starTree` is a directory that is called by a star, whose ignore file reaches
into its neighbour.

Results:
* `exists_patterns_without`: taking a file out of a tree takes its lines out, and nothing else.
* `IgnoreChecker.excludes_without`: nothing changes for the paths outside its directory.
-/
namespace DomainAtlas

open Glob

/-- A tree without the entry of the given name in the directory at the given path. -/
def Tree.without (name : String) : List String → Tree → Tree
  | [], .dir es => .dir (es.filter fun e => e.1 != name)
  | d :: ds, .dir es => .dir (es.map fun e => if e.1 = d then (d, Tree.without name ds e.2) else e)
  | _, t => t

section Lines

variable {names : List String}

/-- The patterns of an ignore file depend on the files of its directory. -/
theorem ownPatterns_congr {es es' : List (String × Tree)} (nodup : (es.map Prod.fst).Nodup)
    (nodup' : (es'.map Prod.fst).Nodup) {name : String}
    (h : ∀ content, (name, .file content) ∈ es ↔ (name, .file content) ∈ es') :
    ownPatterns es name = ownPatterns es' name := by
  have file {es : List (String × Tree)} (nodup : (es.map Prod.fst).Nodup) (content : Option ByteArray) :
      es.lookup name = some (.file content) ↔ (name, .file content) ∈ es :=
    lookup_eq_some_iff_mem nodup name _
  unfold ownPatterns
  split
  · next content hc => rw [(file nodup' content).2 ((h content).1 ((file nodup content).1 hc))]
  · next none =>
    split
    · next content hc =>
      have mem := (h content).2 ((file nodup' content).1 hc)
      exact (none content ((file nodup content).2 mem)).elim
    · rfl

theorem flatMap_filter_of_nil {α β : Type} {p : α → Bool} {f : α → List β} {xs : List α}
    (h : ∀ x ∈ xs, p x = false → f x = []) : (xs.filter p).flatMap f = xs.flatMap f := by
  induction xs with
  | nil => rfl
  | cons x xs ih =>
    obtain ⟨hx, hxs⟩ := List.forall_mem_cons.1 h
    rw [List.filter_cons, List.flatMap_cons]
    split
    · rw [List.flatMap_cons, ih hxs]
    · next out => rw [hx (by simpa using out), ih hxs, List.nil_append]

theorem loadEntries_filter (base : String) (es : List (String × Tree)) (p : String → Bool) :
    loadTree.loadEntries names base (es.filter fun e => p e.1) =
      (loadTree.loadEntries names base es).filter fun e => p e.1 := by
  rw [loadEntries_eq, loadEntries_eq, List.filter_map, List.filter_filter, List.filter_filter]
  congr 2
  funext e
  exact Bool.and_comm _ _

/-- A file says nothing as an entry of its directory: its lines are the directory's own. -/
theorem nested_patterns_without {es : List (String × Tree)} (wf : (Tree.dir es).WellFormed)
    {name : String} {content : Option ByteArray} (mem : (name, .file content) ∈ es) (base : String) :
    ((loadTree.loadEntries names base (es.filter fun e => e.1 != name)).mergeSort entryLe).flatMap
        (fun e => e.2.patterns) =
      ((loadTree.loadEntries names base es).mergeSort entryLe).flatMap fun e => e.2.patterns := by
  have keys : ((loadTree.loadEntries names base es).map Prod.fst).Nodup := nodup_loadEntries wf base
  rw [loadEntries_filter base es (· != name), ← filter_mergeSort keys]
  refine flatMap_filter_of_nil fun e he out => ?_
  rw [List.mem_mergeSort, loadEntries_eq] at he
  obtain ⟨⟨n, u⟩, hu, rfl⟩ := List.mem_map.1 he
  obtain rfl : n = name := by simpa using out
  have file := Option.some.inj
    ((wf.lookup_iff.2 mem).symm.trans (wf.lookup_iff.2 (List.mem_filter.1 hu).1))
  rw [← file, loadTree]
  rfl

/-- Without a file, its directory says the same apart from the lines of the file. -/
theorem exists_patterns_without_here (distinct : names.Nodup) {es : List (String × Tree)}
    (wf : (Tree.dir es).WellFormed) {name : String} {content : Option ByteArray}
    (mem : (name, .file content) ∈ es) (base : String) : ∃ before own after,
      (loadTree names base (.dir es)).patterns = before ++ own ++ after ∧
      (loadTree names base (.dir (es.filter fun e => e.1 != name))).patterns = before ++ after ∧
      ∀ p ∈ own, ∃ line ∈ patternLines content, p = prefixLine base line := by
  have nodup : (es.map Prod.fst).Nodup := wf.nodup_entries
  have nodup' : ((es.filter fun e => e.1 != name).map Prod.fst).Nodup :=
    nodup.sublist (List.filter_sublist.map _)
  have same {ns : List String} (h : name ∉ ns) :
      ns.flatMap (ownPatterns (es.filter fun e => e.1 != name)) = ns.flatMap (ownPatterns es) := by
    refine List.flatMap_congr fun n hn => ownPatterns_congr nodup' nodup ?_
    have other : n ≠ name := fun e => h (e ▸ hn)
    simp [other]
  have nothing : (([] : List (String × Tree)).map Prod.fst).Nodup := List.nodup_nil
  have gone : ownPatterns (es.filter fun e => e.1 != name) name = [] :=
    ownPatterns_congr nodup' nothing (by simp)
  have here : es.lookup name = some (.file content) := wf.lookup_iff.2 mem
  have own : ownPatterns es name = patternLines content := by rw [ownPatterns, here]
  rw [patterns_loadTree_dir, patterns_loadTree_dir, nested_patterns_without wf mem]
  generalize ((loadTree.loadEntries names base es).mergeSort entryLe).flatMap
    (fun e => e.2.patterns) = below
  by_cases named : name ∈ names
  · obtain ⟨front, back, rfl, hf⟩ := List.eq_append_cons_of_mem named
    have hb : name ∉ back := (List.nodup_cons.1 (List.nodup_append.1 distinct).2.1).1
    refine ⟨(front.flatMap (ownPatterns es)).map (prefixLine base),
      (patternLines content).map (prefixLine base),
      (back.flatMap (ownPatterns es)).map (prefixLine base) ++ below, ?_, ?_, fun p hp => ?_⟩
    · rw [List.flatMap_append, List.flatMap_cons, own]
      simp
    · rw [List.flatMap_append, List.flatMap_cons, gone, same hf, same hb]
      simp
    · obtain ⟨line, hl, rfl⟩ := List.mem_map.1 hp
      exact ⟨line, hl, rfl⟩
  · refine ⟨[], [], _, rfl, ?_, List.forall_mem_nil _⟩
    rw [same named]
    rfl

/-- Entries with another value for one key. -/
def setKey {α : Type} (d : String) (y : α) (es : List (String × α)) : List (String × α) :=
  es.map fun e => if e.1 = d then (d, y) else e

theorem map_fst_setKey {α : Type} (d : String) (y : α) (es : List (String × α)) :
    (setKey d y es).map Prod.fst = es.map Prod.fst := by
  rw [setKey, List.map_map]
  refine List.map_congr_left fun e _ => ?_
  by_cases key : e.1 = d <;> simp [key]

theorem setKey_of_ne {α : Type} {d : String} {y : α} {es : List (String × α)}
    (h : ∀ e ∈ es, e.1 ≠ d) : setKey d y es = es :=
  (List.map_congr_left fun e he => if_neg (h e he)).trans (List.map_id' es)

/-- Another value for one key changes one part of what all values give together. -/
theorem exists_flatMap_setKey {α β : Type} {es : List (String × α)} (nodup : (es.map Prod.fst).Nodup)
    {d : String} {x : α} (mem : (d, x) ∈ es) (y : α) (f : α → List β) : ∃ front back,
      (es.flatMap fun e => f e.2) = front ++ f x ++ back ∧
      ((setKey d y es).flatMap fun e => f e.2) = front ++ f y ++ back := by
  obtain ⟨front, back, rfl⟩ := List.append_of_mem mem
  rw [List.map_append, List.map_cons] at nodup
  obtain ⟨-, tail, apart⟩ := List.nodup_append.1 nodup
  have hf : setKey d y front = front := setKey_of_ne fun e he =>
    apart _ (List.mem_map_of_mem he) _ List.mem_cons_self
  have hb : setKey d y back = back := setKey_of_ne fun e he h =>
    (List.nodup_cons.1 tail).1 (List.mem_map.2 ⟨e, he, h⟩)
  have split : setKey d y (front ++ (d, x) :: back) =
      setKey d y front ++ (d, y) :: setKey d y back := by
    simp [setKey]
  refine ⟨front.flatMap fun e => f e.2, back.flatMap fun e => f e.2, by simp, ?_⟩
  rw [split, hf, hb]
  simp

theorem mergeSort_setKey {α : Type} (d : String) (y : α) (es : List (String × α)) :
    (setKey d y es).mergeSort entryLe = setKey d y (es.mergeSort entryLe) := by
  refine (List.map_mergeSort fun a _ b _ => ?_).symm
  by_cases ha : a.1 = d <;> by_cases hb : b.1 = d <;> simp [entryLe, ha, hb]

/-- Another directory in the place of one leaves the files of the directory around them. -/
theorem ownPatterns_setKey {es : List (String × Tree)} (wf : (Tree.dir es).WellFormed) {d : String}
    {vs : List (String × Tree)} (mem : (d, .dir vs) ∈ es) (vs' : List (String × Tree)) :
    ownPatterns (setKey d (.dir vs') es) = ownPatterns es := by
  have nodup : (es.map Prod.fst).Nodup := wf.nodup_entries
  funext n
  refine ownPatterns_congr (map_fst_setKey d _ es ▸ nodup) nodup fun c => ?_
  rw [setKey, List.mem_map]
  constructor
  · rintro ⟨e, he, hge⟩
    by_cases key : e.1 = d
    · simp [key] at hge
    · rw [if_neg key] at hge
      exact hge ▸ he
  · intro h
    refine ⟨_, h, if_neg ?_⟩
    rintro rfl
    cases (wf.lookup_iff.2 h).symm.trans (wf.lookup_iff.2 mem)

theorem loadEntries_setKey (base d : String) (u : Tree) (es : List (String × Tree)) :
    loadTree.loadEntries names base (setKey d u es) =
      setKey d (loadTree names (below base d) u) (loadTree.loadEntries names base es) := by
  rw [loadEntries_eq, loadEntries_eq, setKey, setKey, List.filter_map, List.map_map, List.map_map]
  have kept : (fun e : String × Tree => searchedDir e.1) ∘
      (fun e : String × Tree => if e.1 = d then (d, u) else e) = fun e => searchedDir e.1 := by
    funext e
    by_cases key : e.1 = d <;> simp [key]
  rw [kept]
  refine List.map_congr_left fun e _ => ?_
  by_cases key : e.1 = d <;> simp [key]

/-- Another directory in the place of one changes what that one says. -/
theorem exists_patterns_setKey {es : List (String × Tree)} (wf : (Tree.dir es).WellFormed) {d : String}
    {vs : List (String × Tree)} (mem : (d, .dir vs) ∈ es) (vs' : List (String × Tree)) (base : String) :
    ∃ front back,
      (loadTree names base (.dir es)).patterns =
        front ++ (if searchedDir d then (loadTree names (below base d) (.dir vs)).patterns else []) ++
          back ∧
      (loadTree names base (.dir (setKey d (.dir vs') es))).patterns =
        front ++ (if searchedDir d then (loadTree names (below base d) (.dir vs')).patterns else []) ++
          back := by
  rw [patterns_loadTree_dir base es, patterns_loadTree_dir base (setKey d (.dir vs') es),
    loadEntries_setKey, mergeSort_setKey, ownPatterns_setKey wf mem]
  generalize (names.flatMap (ownPatterns es)).map (prefixLine base) = own
  by_cases searched : searchedDir d = true
  · have keys : (((loadTree.loadEntries names base es).mergeSort entryLe).map Prod.fst).Nodup :=
      ((List.mergeSort_perm _ entryLe).map Prod.fst).nodup_iff.2 (nodup_loadEntries wf base)
    have here : (d, loadTree names (below base d) (.dir vs)) ∈
        (loadTree.loadEntries names base es).mergeSort entryLe := by
      rw [List.mem_mergeSort, loadEntries_eq]
      exact List.mem_map.2 ⟨_, List.mem_filter.2 ⟨mem, searched⟩, rfl⟩
    obtain ⟨front, back, full, changed⟩ := exists_flatMap_setKey keys here
      (loadTree names (below base d) (.dir vs')) IgnoreLines.patterns
    refine ⟨own ++ front, back, ?_, ?_⟩
    · rw [full, if_pos searched]
      simp
    · rw [changed, if_pos searched]
      simp
  · have same : setKey d (loadTree names (below base d) (.dir vs'))
        ((loadTree.loadEntries names base es).mergeSort entryLe) =
          (loadTree.loadEntries names base es).mergeSort entryLe := by
      refine setKey_of_ne fun e he => ?_
      rintro rfl
      rw [List.mem_mergeSort, loadEntries_eq] at he
      obtain ⟨e', he', rfl⟩ := List.mem_map.1 he
      exact searched (List.mem_filter.1 he').2
    rw [same, if_neg searched, if_neg searched]
    exact ⟨own ++ _, [], by rw [List.append_nil, List.append_nil], by simp⟩

/-- Without a file, its tree says the same apart from the lines of the file. -/
theorem exists_patterns_without (distinct : names.Nodup) {t : Tree} (wf : t.WellFormed)
    {base : List String} (proper : ∀ n ∈ base, EntryName n) {dir : List String} {name : String}
    {content : Option ByteArray} (found : t.at? (dir ++ [name]) = some (.file content)) :
    ∃ before own after,
      (loadTree names (pathText base) t).patterns = before ++ own ++ after ∧
      (loadTree names (pathText base) (t.without name dir)).patterns = before ++ after ∧
      ∀ p ∈ own, ∃ line ∈ patternLines content, p = prefixLine (pathText (base ++ dir)) line := by
  induction dir generalizing t base with
  | nil =>
    obtain ⟨es, rfl⟩ := Tree.eq_dir_of_at? found (by simp)
    obtain ⟨u, hu, e⟩ := wf.at?_cons_iff.1 found
    rw [Tree.at?_nil] at e
    rw [List.append_nil]
    exact exists_patterns_without_here distinct wf (Option.some.inj e ▸ hu) (pathText base)
  | cons d dir ih =>
    obtain ⟨es, rfl⟩ := Tree.eq_dir_of_at? found (by simp)
    obtain ⟨u, hu, inner⟩ := wf.at?_cons_iff.1 found
    obtain ⟨vs, rfl⟩ := Tree.eq_dir_of_at? inner (by simp)
    obtain ⟨vs', still⟩ : ∃ vs', (Tree.dir vs).without name dir = .dir vs' := by
      cases dir <;> exact ⟨_, rfl⟩
    obtain ⟨before, own, after, full, less, lines⟩ :=
      ih (wf.inner_entries hu) (entryName_concat proper (wf.named_entries hu)) inner
    have set : (Tree.dir es).without name (d :: dir) = .dir (setKey d (.dir vs') es) := by
      rw [Tree.without, setKey, ← still]
      congr 1
      refine List.map_congr_left fun e he => ?_
      split
      · next key =>
        obtain ⟨d', u⟩ := e
        obtain rfl : d' = d := key
        rw [Option.some.inj ((wf.lookup_iff.2 he).symm.trans (wf.lookup_iff.2 hu))]
      · rfl
    obtain ⟨front, back, hfull, hless⟩ := exists_patterns_setKey wf hu vs' (pathText base)
    rw [set, hfull, hless, below_pathText proper]
    rw [still] at less
    split
    · refine ⟨front ++ before, own, after ++ back, by simp [full], by simp [less], ?_⟩
      simpa using lines
    · exact ⟨front, [], back, rfl, by simp, List.forall_mem_nil _⟩

end Lines

/-! ## Paths outside the directory -/

/-- Whether a path lies in a directory. -/
def LiesBelow (dir : List String) (path : String) (isDir : Bool) : Prop :=
  ∃ rest, rest ≠ [] ∧ subject path isDir = (pathText dir).toList ++ '/' :: rest

theorem nodup_ignoreNames (respectGit : Bool) : (ignoreNames respectGit).Nodup := by
  cases respectGit <;> decide

/-- **Scope.** Without an ignore file the same paths outside its directory are excluded. The directory
itself is outside too; about it a line of slashes and stars only may speak. -/
theorem IgnoreChecker.excludes_without {t : Tree} (wf : t.WellFormed) {respectGit : Bool}
    {c : IgnoreChecker} (loaded : load t respectGit = .ok c) {dir : List String} (ne : dir ≠ [])
    (plain : ∀ n ∈ dir, Plain n.toList) {name : String} {content : Option ByteArray}
    (found : t.at? (dir ++ [name]) = some (.file content)) :
    ∃ c', load (t.without name dir) respectGit = .ok c' ∧
      ∀ path isDir, ¬ LiesBelow dir path isDir →
        (subject path isDir = (pathText dir).toList ++ ['/'] →
          ∀ line ∈ patternLines content, SolidLine line) →
        c'.excludes path isDir = c.excludes path isDir := by
  obtain ⟨lines, compiled⟩ := lines_of_load loaded
  have proper := (List.forall_mem_append.1 (wf.at? found).1).1
  obtain ⟨before, own, after, full, less, each⟩ :=
    exists_patterns_without (nodup_ignoreNames respectGit) wf (List.forall_mem_nil EntryName) found
  rw [pathText_nil] at full less
  rw [lines, full] at compiled
  obtain ⟨rules, compiled'⟩ : ∃ rules, compileAll (before ++ after) = .ok rules := by
    refine exists_compileAll fun line hl => (compileAll_eq_ok compiled).1 line ?_
    rcases List.mem_append.1 hl with hl | hl <;> simp [hl]
  refine ⟨_, load_of_compileAll (less ▸ compiled'), fun path isDir outside itself => ?_⟩
  rw [excludes_eq (by rw [less]; exact compiled'), excludes_eq (by rw [lines, full]; exact compiled),
    less, lines, full, List.foldl_append, List.foldl_append, List.foldl_append]
  have silent : ∀ line ∈ own, ∀ v, hear (subject path isDir) v line = v := by
    intro p hp
    obtain ⟨line, hl, rfl⟩ := each p hp
    refine hear_prefixLine_elsewhere (patternLine_of_mem hl) ne proper plain fun rest hr => ?_
    have root : rest = [] := by
      by_contra inside
      exact outside ⟨rest, inside, hr⟩
    exact ⟨root, itself (by rw [hr, root]) line hl⟩
  rw [foldl_hear_of_silent silent]

/-- A tree with an ignore file in a directory. -/
def scopedTree : Tree := .dir [
  ("a.php", .file none), ("sub", .dir [(".archscanignore", .file (some "*.php".toUTF8))])]

theorem wellFormed_scopedTree : scopedTree.WellFormed := by
  refine .dir (by decide) (by decide) ?_
  simp only [List.forall_mem_cons]
  exact ⟨.file _, .dir (by decide) (by decide) (List.forall_mem_singleton.2 (.file _)),
    List.forall_mem_nil _⟩

def scopedChecker : IgnoreChecker where
  lines := ⟨["/sub/**/*.php"], [], ["sub/.archscanignore"]⟩
  rules := ⟨[⟨true, .atoms [.char 's', .char 'u', .char 'b', .innerDirs, .slash, .many, .char '.',
    .char 'p', .char 'h', .char 'p', .close]⟩]⟩

theorem load_scopedTree : IgnoreChecker.load scopedTree false = .ok scopedChecker := by
  have lines : loadTree (ignoreNames false) "" scopedTree = scopedChecker.lines := by
    rw [scopedTree, loadTree, loadEntries_eq, List.mergeSort_of_pairwise (by decide +kernel)]
    decide +kernel
  rw [IgnoreChecker.load, lines]
  rfl

/-- The file at the root is not excluded, with or without the ignore file in the directory. -/
theorem excludes_without_scopedTree : scopedTree.WellFormed ∧
    IgnoreChecker.load scopedTree false = .ok scopedChecker ∧
    ∃ c', IgnoreChecker.load (scopedTree.without ".archscanignore" ["sub"]) false = .ok c' ∧
      c'.excludes "a.php" false = false := by
  have found : scopedTree.at? (["sub"] ++ [".archscanignore"]) = some (.file (some "*.php".toUTF8)) := rfl
  obtain ⟨c', loaded, same⟩ := IgnoreChecker.excludes_without wellFormed_scopedTree load_scopedTree
    (by simp) (by decide +kernel) found
  refine ⟨wellFormed_scopedTree, load_scopedTree, c', loaded, ?_⟩
  have path : subject "a.php" false = "a.php".toList := by decide +kernel
  rw [same "a.php" false]
  · decide +kernel
  · rintro ⟨rest, -, e⟩
    rw [path] at e
    cases (List.cons.inj e).1
  · intro e
    rw [path] at e
    cases (List.cons.inj e).1

/-- A tree with a directory that is called by a star, and an ignore file in it. -/
def starTree : Tree := .dir [
  ("*", .dir [(".archscanignore", .file (some "x.php".toUTF8))]), ("b", .dir [("x.php", .file none)])]

/-- The ignore file in that directory excludes a file in the other one. -/
theorem excludes_without_starTree : ∃ c c',
    IgnoreChecker.load starTree false = .ok c ∧
    IgnoreChecker.load (starTree.without ".archscanignore" ["*"]) false = .ok c' ∧
    ¬ LiesBelow ["*"] "b/x.php" false ∧
    c.excludes "b/x.php" false = true ∧ c'.excludes "b/x.php" false = false := by
  have lines : loadTree (ignoreNames false) "" starTree =
      ⟨["/*/**/x.php"], [], ["*/.archscanignore"]⟩ := by
    rw [starTree, loadTree, loadEntries_eq, List.mergeSort_of_pairwise (by decide +kernel)]
    decide +kernel
  have fewer : loadTree (ignoreNames false) "" (starTree.without ".archscanignore" ["*"]) = .empty := by
    rw [starTree, Tree.without, loadTree, loadEntries_eq, List.mergeSort_of_pairwise (by decide +kernel)]
    decide +kernel
  have path : subject "b/x.php" false = "b/x.php".toList := by decide +kernel
  refine ⟨⟨_, ⟨[⟨true, .atoms [.name, .innerDirs, .slash, .char 'x', .char '.', .char 'p', .char 'h',
    .char 'p', .close]⟩]⟩⟩, ⟨_, ⟨[]⟩⟩, by rw [IgnoreChecker.load, lines]; rfl,
    by rw [IgnoreChecker.load, fewer]; rfl, ?_, by decide +kernel, by decide +kernel⟩
  rintro ⟨rest, -, e⟩
  rw [path] at e
  cases (List.cons.inj e).1

end DomainAtlas
