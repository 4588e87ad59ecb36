import DomainAtlas.Proofs.Discovery.Rewriting

/-!
# Ignore files by directory

All ignore files of a tree are loaded into one list of rewritten lines. About a path this list decides as
if the lines were heard directory by directory (`judge`): on the way from the root to the path, the lines
of the ignore files of each directory in order, each about the rest of the path below its directory
(`governing`). Lines of other directories do not count.

The directories of loaded ignore files are taken to have no characters with a meaning in patterns, and
every line to have more than slashes, stars and exclamation marks.

Results:
* `mem_governing_iff`: which lines count for a path.
* `foldl_patterns_eq_governing`: hearing all lines is hearing those that count, by induction on the path.
* `IgnoreChecker.judge_governing`: a checker decides directory by directory.
-/
namespace DomainAtlas

open Glob

/-! ## The lines that count -/

/-- The patterns in the ignore files of the directories on the way to a path, each with the rest of the
path below its directory. The root's come first. -/
def governing (names : List String) : List String → Tree → List (String × List String)
  | [], _ => []
  | n :: rest, t =>
    ((names.flatMap (ownPatterns t.entries)).map fun line => (line, n :: rest)) ++
      if searchedDir n then
        match t.entries.lookup n with
        | some u => governing names rest u
        | none => []
      else []

/-- What lines say together, each about its own path. The first one that is no pattern ends it. -/
def judge (isDir : Bool) : Verdict → List (String × List String) → Except PatternFault Verdict
  | v, [] => .ok v
  | v, (line, rest) :: more =>
    match compile line with
    | .error f => .error f
    | .ok none => judge isDir v more
    | .ok (some rule) => judge isDir (v.note (subject (pathText rest) isDir) rule) more

/-- What is known after one line about its own path. -/
def heed (isDir : Bool) (v : Verdict) (e : String × List String) : Verdict :=
  hear (subject (pathText e.2) isDir) v e.1

theorem judge_eq {isDir : Bool} {es : List (String × List String)}
    (h : ∀ e ∈ es, ∃ r, compile e.1 = .ok r) (v : Verdict) :
    judge isDir v es = .ok (es.foldl (heed isDir) v) := by
  induction es generalizing v with
  | nil => rfl
  | cons e es ih =>
    obtain ⟨line, rest⟩ := e
    obtain ⟨⟨r, compiled⟩, each⟩ := List.forall_mem_cons.1 h
    replace compiled : compile line = .ok r := compiled
    rw [judge, compiled, List.foldl_cons, heed, hear, compiled]
    cases r with
    | none => exact ih each v
    | some rule => exact ih each _

section Trees

variable {names : List String} {t : Tree}

theorem governing_dir (n : String) (rest : List String) (es : List (String × Tree)) :
    governing names (n :: rest) (.dir es) =
      ((names.flatMap (ownPatterns es)).map fun line => (line, n :: rest)) ++
        if searchedDir n then
          match es.lookup n with
          | some u => governing names rest u
          | none => []
        else [] := rfl

/-- Where there are no entries, no lines count. -/
theorem governing_eq_nil (none : t.entries = []) (path : List String) : governing names path t = [] := by
  cases path with
  | nil => rfl
  | cons n rest =>
    have own : names.flatMap (ownPatterns []) = [] := List.flatMap_eq_nil_iff.2 fun _ _ => rfl
    rw [governing, none, own]
    simp

/-- The lines that count for a path are those of the loaded ignore files in the directories the path
lies in. -/
theorem mem_governing_iff (wf : t.WellFormed) {path rest : List String} {line : String} :
    (line, rest) ∈ governing names path t ↔ ∃ dir name content, t.Loads names dir name content ∧
      path = dir ++ rest ∧ rest ≠ [] ∧ line ∈ patternLines content := by
  induction path generalizing t with
  | nil =>
    refine ⟨fun h => (by cases h), ?_⟩
    rintro ⟨dir, name, content, -, e, ne, -⟩
    exact (ne (List.append_eq_nil_iff.1 e.symm).2).elim
  | cons n path ih =>
    rw [governing, List.mem_append, List.mem_map]
    constructor
    · rintro (⟨line', hl, e⟩ | h)
      · cases e
        obtain ⟨name, hn, hl⟩ := List.mem_flatMap.1 hl
        obtain ⟨content, hc, hl⟩ := (mem_ownPatterns_iff wf).1 hl
        exact ⟨[], name, content, (Tree.loads_nil_iff wf).2 ⟨hn, hc⟩, rfl, by simp, hl⟩
      · split at h
        · next searched =>
          split at h
          · next u hu =>
            have mem := wf.lookup_iff.1 hu
            obtain ⟨dir, name, content, loads, e, ne, hl⟩ := (ih (wf.inner_entries mem)).1 h
            exact ⟨n :: dir, name, content, (Tree.loads_cons_iff wf).2 ⟨u, mem, searched, loads⟩,
              by rw [e]; rfl, ne, hl⟩
          · cases h
        · cases h
    · rintro ⟨dir, name, content, loads, e, ne, hl⟩
      cases dir with
      | nil =>
        obtain ⟨hn, hc⟩ := (Tree.loads_nil_iff wf).1 loads
        refine .inl ⟨line, List.mem_flatMap.2 ⟨name, hn, ?_⟩, by rw [e]; rfl⟩
        exact (mem_ownPatterns_iff wf).2 ⟨content, hc, hl⟩
      | cons d dir =>
        obtain ⟨rfl, tail⟩ := List.cons.inj e
        obtain ⟨u, mem, searched, loads⟩ := (Tree.loads_cons_iff wf).1 loads
        rw [if_pos searched, wf.lookup_iff.2 mem]
        exact .inr ((ih (wf.inner_entries mem)).2 ⟨dir, name, content, loads, tail, ne, hl⟩)

/-! ## One list against many -/

/-- Entries of one name. -/
theorem filter_key {α : Type} {es : List (String × α)} (nodup : (es.map Prod.fst).Nodup) (d : String) :
    es.filter (·.1 == d) = ((es.lookup d).map fun x => (d, x)).toList := by
  induction es with
  | nil => rfl
  | cons e es ih =>
    obtain ⟨k, x⟩ := e
    obtain ⟨fresh, nodup⟩ := List.nodup_cons.1 nodup
    rw [List.filter_cons, lookup_cons_eq, ih nodup]
    by_cases key : d = k
    · subst key
      have none : es.lookup d = none :=
        List.lookup_eq_none_iff.2 fun e he => by
          simpa using fun key => fresh (List.mem_map.2 ⟨e, he, key.symm⟩)
      simp [none]
    · simp [key, Ne.symm key]

theorem lookup_loadEntries (base : String) (es : List (String × Tree)) (n : String) :
    (loadTree.loadEntries names base es).lookup n =
      if searchedDir n then (es.lookup n).map (loadTree names (below base n)) else none := by
  induction es with
  | nil => simp [loadTree.loadEntries]
  | cons e es ih =>
    obtain ⟨k, u⟩ := e
    rw [loadTree.loadEntries, lookup_cons_eq]
    by_cases key : n = k
    · subst key
      by_cases searched : searchedDir n = true
      · simp [searched]
      · simp [searched, ih]
    · by_cases searched : searchedDir k = true <;> simp [searched, ih, lookup_cons_eq, key]

theorem prefixLine_root (line : String) : prefixLine "" line = line := by
  unfold prefixLine prefixPattern
  split
  · next body h =>
    rw [if_pos rfl, ← String.toList_inj, h]
    simp
  · exact if_pos rfl

/-- About a path in its directory a rewritten line says what the line says about the rest of it, at the
root as elsewhere. -/
theorem hear_prefixLine {line : String} (hl : PatternLine line) (solid : SolidLine line)
    {base rest : List String} (proper : ∀ n ∈ base ++ rest, EntryName n)
    (noEscape : ∀ n ∈ base ++ rest, '\\' ∉ n.toList) (plain : ∀ n ∈ base, Plain n.toList)
    (ne : rest ≠ []) (isDir : Bool) {r : Option Rule}
    (compiled : compile (prefixLine (pathText base) line) = .ok r) :
    (∃ r', compile line = .ok r') ∧
      ∀ v, hear (subject (pathText (base ++ rest)) isDir) v (prefixLine (pathText base) line) =
        hear (subject (pathText rest) isDir) v line := by
  by_cases root : base = []
  · subst root
    rw [pathText_nil, prefixLine_root] at compiled
    exact ⟨⟨r, compiled⟩, fun v => by rw [pathText_nil, prefixLine_root, List.nil_append]⟩
  · obtain ⟨properBase, properRest⟩ := List.forall_mem_append.1 proper
    have tidy := tidy_pathText ne properRest isDir
    rw [subject_pathText (by simp [ne]) proper noEscape,
      subject_pathText ne properRest (List.forall_mem_append.1 noEscape).2,
      toList_pathText_append root ne, List.append_assoc, List.cons_append]
    exact hear_prefixLine_inside hl root properBase plain solid tidy compiled

/-- The ignore files of a tree at the given place are in plain directories, and their lines have more
than slashes and stars. -/
structure Tame (names base : List String) (t : Tree) : Prop where
  plain : ∀ {dir name content}, t.Loads names dir name content → ∀ n ∈ base ++ dir, Plain n.toList
  solid : ∀ {dir name content}, t.Loads names dir name content →
    ∀ line ∈ patternLines content, SolidLine line

theorem Tame.inner {base : List String} (tame : Tame names base t) (wf : t.WellFormed) {n : String}
    {u : Tree} (mem : (n, u) ∈ t.entries) (searched : searchedDir n = true) :
    Tame names (base ++ [n]) u where
  plain loads := by
    simpa using tame.plain ((Tree.loads_cons_iff wf).2 ⟨u, mem, searched, loads⟩)
  solid loads := tame.solid ((Tree.loads_cons_iff wf).2 ⟨u, mem, searched, loads⟩)

/-- A tree says nothing about a path outside it. -/
theorem foldl_patterns_outside (wf : t.WellFormed) {base : List String} (ne : base ≠ [])
    (proper : ∀ n ∈ base, EntryName n) (tame : Tame names base t) {path : List String}
    (hp : path ≠ []) (properPath : ∀ n ∈ path, EntryName n) (noEscape : ∀ n ∈ path, '\\' ∉ n.toList)
    (outside : ∀ more, more ≠ [] → path ≠ base ++ more) (isDir : Bool) (v : Verdict) :
    (loadTree names (pathText base) t).patterns.foldl (hear (subject (pathText path) isDir)) v = v := by
  refine foldl_hear_of_silent (fun p mem => ?_) v
  obtain ⟨dir, name, content, loads, line, hl, rfl⟩ := (mem_patterns_loadTree wf proper).1 mem
  have properDir : ∀ n ∈ base ++ dir, EntryName n :=
    List.forall_mem_append.2 ⟨proper, (List.forall_mem_append.1 (wf.at? loads.found).1).1⟩
  refine hear_prefixLine_elsewhere (patternLine_of_mem hl) (by simp [ne]) properDir (tame.plain loads)
    fun rest hr => ⟨?_, tame.solid loads line hl⟩
  by_contra inside
  rw [subject_pathText hp properPath noEscape] at hr
  obtain ⟨more, hm, e⟩ := exists_append_of_marked hp properPath (by simp [ne]) properDir hr inside
  exact outside (dir ++ more) (by simp [hm]) (by rw [e, List.append_assoc])

/-- The entries of a directory say nothing about a path that does not go through them. -/
theorem foldl_patterns_elsewhere {es : List (String × Tree)} (wf : (Tree.dir es).WellFormed)
    {base path : List String} {n : String} (proper : ∀ m ∈ base ++ n :: path, EntryName m)
    (noEscape : ∀ m ∈ base ++ n :: path, '\\' ∉ m.toList) (tame : Tame names base (.dir es))
    {e : String × IgnoreLines} (he : e ∈ loadTree.loadEntries names (pathText base) es)
    (other : (e.1 == n) = false) (isDir : Bool) (v : Verdict) :
    e.2.patterns.foldl (hear (subject (pathText (base ++ n :: path)) isDir)) v = v := by
  have properBase := (List.forall_mem_append.1 proper).1
  rw [loadEntries_eq] at he
  obtain ⟨⟨d, u⟩, hu, rfl⟩ := List.mem_map.1 he
  obtain ⟨mem, searched⟩ := List.mem_filter.1 hu
  rw [below_pathText properBase]
  refine foldl_patterns_outside (wf.inner_entries mem) (by simp)
    (entryName_concat properBase (wf.named_entries mem)) (tame.inner wf mem searched) (by simp)
    proper noEscape (fun more _ e => ?_) isDir v
  rw [List.append_assoc] at e
  have head := (List.cons.inj (List.append_cancel_left e)).1
  simp [head] at other

/-- A directory's own lines say about a path below it what they say about the rest of it. -/
theorem foldl_ownPatterns {es : List (String × Tree)} (wf : (Tree.dir es).WellFormed)
    {base rest : List String} (ne : rest ≠ []) (proper : ∀ m ∈ base ++ rest, EntryName m)
    (noEscape : ∀ m ∈ base ++ rest, '\\' ∉ m.toList) (tame : Tame names base (.dir es))
    (compiles : ∀ line ∈ names.flatMap (ownPatterns es),
      ∃ r, compile (prefixLine (pathText base) line) = .ok r) (isDir : Bool) (v : Verdict) :
    ((names.flatMap (ownPatterns es)).map (prefixLine (pathText base))).foldl
        (hear (subject (pathText (base ++ rest)) isDir)) v =
      ((names.flatMap (ownPatterns es)).map fun line => (line, rest)).foldl (heed isDir) v := by
  rw [List.foldl_map, List.foldl_map]
  refine List.foldl_ext _ _ v fun v line mem => ?_
  obtain ⟨name, hn, hl⟩ := List.mem_flatMap.1 mem
  obtain ⟨content, hc, hl⟩ := (mem_ownPatterns_iff wf).1 hl
  have loads := (Tree.loads_nil_iff wf).2 ⟨hn, hc⟩
  obtain ⟨r, compiled⟩ := compiles line mem
  exact (hear_prefixLine (patternLine_of_mem hl) (tame.solid loads line hl) proper noEscape
    (by simpa using tame.plain loads) ne isDir compiled).2 v

/-- **One list against many.** About a path below it a tree says what the ignore files on the way say,
each about the rest of the path. -/
theorem foldl_patterns_eq_governing (wf : t.WellFormed) {base path : List String}
    (ne : base ++ path ≠ []) (proper : ∀ n ∈ base ++ path, EntryName n)
    (noEscape : ∀ n ∈ base ++ path, '\\' ∉ n.toList) (tame : Tame names base t)
    (compiles : ∀ p ∈ (loadTree names (pathText base) t).patterns, ∃ r, compile p = .ok r) (isDir : Bool)
    (v : Verdict) :
    (loadTree names (pathText base) t).patterns.foldl
        (hear (subject (pathText (base ++ path)) isDir)) v =
      (governing names path t).foldl (heed isDir) v := by
  induction path generalizing t base v with
  | nil =>
    rw [List.append_nil] at ne proper noEscape ⊢
    exact foldl_patterns_outside wf ne proper tame ne proper noEscape (by simp) isDir v
  | cons n path ih =>
    have properBase := (List.forall_mem_append.1 proper).1
    cases t with
    | file content =>
      rw [governing_eq_nil rfl, loadTree]
      rfl
    | dirLink =>
      rw [governing_eq_nil rfl, loadTree]
      rfl
    | dir es =>
      have keys : ((loadTree.loadEntries names (pathText base) es).map Prod.fst).Nodup :=
        nodup_loadEntries wf (pathText base)
      rw [patterns_loadTree_dir] at compiles ⊢
      rw [governing_dir, List.foldl_append, List.foldl_append,
        foldl_ownPatterns wf (List.cons_ne_nil n path) proper noEscape tame
          (fun line mem => compiles _ (List.mem_append_left _ (List.mem_map_of_mem mem)))]
      generalize ((names.flatMap (ownPatterns es)).map fun line => (line, n :: path)).foldl
        (heed isDir) v = v
      rw [List.foldl_flatMap, foldl_mergeSort_eq keys (·.1 == n) fun e he other =>
          foldl_patterns_elsewhere wf proper noEscape tame he other isDir,
        filter_key keys, lookup_loadEntries]
      by_cases searched : searchedDir n = true
      · rw [if_pos searched, if_pos searched]
        cases found : es.lookup n with
        | none => simp
        | some u =>
          have mem := wf.lookup_iff.1 found
          have inner := wf.inner_entries mem
          have compiles' : ∀ p ∈ (loadTree names (pathText (base ++ [n])) u).patterns,
              ∃ r, compile p = .ok r := by
            intro p hp
            refine compiles p (List.mem_append_right _ (List.mem_flatMap.2 ⟨(n, _), ?_, hp⟩))
            rw [List.mem_mergeSort, loadEntries_eq, ← below_pathText properBase]
            exact List.mem_map.2 ⟨(n, u), List.mem_filter.2 ⟨mem, searched⟩, rfl⟩
          have step := @ih u inner (base ++ [n])
          rw [List.append_assoc, List.singleton_append] at step
          simpa [below_pathText properBase] using
            step ne proper noEscape (tame.inner wf mem searched) compiles' v
      · simp [searched]

end Trees

theorem solidLine_of_exists {line : String} (h : ∃ x ∈ line.toList, x ≠ '/' ∧ x ≠ '*' ∧ x ≠ '!') :
    SolidLine line := by
  obtain ⟨x, hx, slash, star, bang⟩ := h
  obtain ⟨sign, hs, e⟩ := exists_sign line.toList
  rw [e] at hx
  refine ⟨x, (List.mem_append.1 hx).resolve_left fun h => ?_, slash, star⟩
  rcases hs with rfl | rfl
  · cases h
  · exact bang (List.mem_singleton.1 h)

/-- **Directory by directory.** A checker decides about a path as its ignore files do one after the
other: the root's first, then those of each directory on the way, each about the rest of the path. -/
theorem IgnoreChecker.judge_governing {t : Tree} (wf : t.WellFormed) {respectGit : Bool}
    {c : IgnoreChecker} (loaded : load t respectGit = .ok c)
    (plain : ∀ dir name content, t.Loads (ignoreNames respectGit) dir name content →
      ∀ n ∈ dir, Plain n.toList)
    (solid : ∀ dir name content, t.Loads (ignoreNames respectGit) dir name content →
      ∀ line ∈ patternLines content, ∃ x ∈ line.toList, x ≠ '/' ∧ x ≠ '*' ∧ x ≠ '!')
    {path : List String} (ne : path ≠ []) (proper : ∀ n ∈ path, EntryName n)
    (noEscape : ∀ n ∈ path, '\\' ∉ n.toList) (isDir : Bool) :
    (judge isDir Verdict.none (governing (ignoreNames respectGit) path t)).map Verdict.taken =
      .ok (c.excludes (pathText path) isDir) := by
  obtain ⟨lines, compiled⟩ := lines_of_load loaded
  have tame : Tame (ignoreNames respectGit) [] t :=
    ⟨fun loads => plain _ _ _ loads, fun loads line hl => solidLine_of_exists (solid _ _ _ loads line hl)⟩
  have compiles : ∀ p ∈ (loadTree (ignoreNames respectGit) (pathText []) t).patterns,
      ∃ r, compile p = .ok r := by
    rw [pathText_nil, ← lines]
    exact (compileAll_eq_ok compiled).1
  have each : ∀ e ∈ governing (ignoreNames respectGit) path t, ∃ r, compile e.1 = .ok r := by
    rintro ⟨line, rest⟩ he
    obtain ⟨dir, name, content, loads, rfl, hr, hl⟩ := (mem_governing_iff wf).1 he
    have mem := (mem_patterns_loadTree wf (List.forall_mem_nil EntryName)).2
      ⟨dir, name, content, loads, line, hl, rfl⟩
    obtain ⟨r, read⟩ := compiles _ mem
    exact (hear_prefixLine (patternLine_of_mem hl) (tame.solid loads line hl) proper noEscape
      (plain _ _ _ loads) hr isDir read).1
  have whole :=
    @foldl_patterns_eq_governing _ t wf [] path ne proper noEscape tame compiles isDir Verdict.none
  rw [judge_eq each, excludes_eq compiled, lines, ← pathText_nil]
  exact congrArg (fun v => Except.ok v.taken) whole.symm

/-- A tree in which an ignore file takes back what the root's excludes. -/
def layeredTree : Tree := .dir [
  (".gitignore", .file (some "*.log".toUTF8)),
  ("app", .dir [(".archscanignore", .file (some "!/keep.log".toUTF8))])]

theorem wellFormed_layeredTree : layeredTree.WellFormed := by
  refine .dir (by decide) (by decide) ?_
  simp only [List.forall_mem_cons]
  exact ⟨.file _, .dir (by decide) (by decide) (List.forall_mem_singleton.2 (.file _)),
    List.forall_mem_nil _⟩

def layeredChecker : IgnoreChecker where
  lines := ⟨["*.log", "!/app/keep.log"], [], [".gitignore", "app/.archscanignore"]⟩
  rules := ⟨[
    ⟨true, .atoms [.leadingDirs, .many, .char '.', .char 'l', .char 'o', .char 'g', .close]⟩,
    ⟨false, .atoms [.char 'a', .char 'p', .char 'p', .slash, .char 'k', .char 'e', .char 'e', .char 'p',
      .char '.', .char 'l', .char 'o', .char 'g', .close]⟩]⟩

theorem load_layeredTree : IgnoreChecker.load layeredTree true = .ok layeredChecker := by
  have lines : loadTree (ignoreNames true) "" layeredTree = layeredChecker.lines := by
    rw [layeredTree, loadTree, loadEntries_eq, List.mergeSort_of_pairwise (by decide +kernel)]
    decide +kernel
  rw [IgnoreChecker.load, lines]
  rfl

theorem loads_layeredTree {dir : List String} {name : String} {content : Option ByteArray}
    (h : layeredTree.Loads (ignoreNames true) dir name content) :
    (dir = [] ∧ content = some "*.log".toUTF8) ∨ (dir = ["app"] ∧ content = some "!/keep.log".toUTF8) := by
  have wf := wellFormed_layeredTree
  cases dir with
  | nil =>
    have mem := ((Tree.loads_nil_iff wf).1 h).2
    simp only [layeredTree, Tree.entries, List.mem_cons, Prod.mk.injEq, List.not_mem_nil, or_false] at mem
    rcases mem with ⟨-, e⟩ | ⟨-, e⟩
    · cases e
      exact .inl ⟨rfl, rfl⟩
    · cases e
  | cons d dir =>
    obtain ⟨u, mem, -, inner⟩ := (Tree.loads_cons_iff wf).1 h
    have wf' := wf.inner_entries mem
    simp only [layeredTree, Tree.entries, List.mem_cons, Prod.mk.injEq, List.not_mem_nil, or_false] at mem
    rcases mem with ⟨-, rfl⟩ | ⟨rfl, rfl⟩
    · exact (Tree.not_loads rfl inner).elim
    · cases dir with
      | nil =>
        have mem := ((Tree.loads_nil_iff wf').1 inner).2
        simp only [Tree.entries, List.mem_singleton, Prod.mk.injEq] at mem
        cases mem.2
        exact .inr ⟨rfl, rfl⟩
      | cons d dir =>
        obtain ⟨u, mem, -, inner⟩ := (Tree.loads_cons_iff wf').1 inner
        simp only [Tree.entries, List.mem_singleton, Prod.mk.injEq] at mem
        rw [mem.2] at inner
        exact (Tree.not_loads rfl inner).elim

/-- Of two files the root's ignore file excludes, the one that is taken back is not excluded. -/
theorem judge_governing_layeredTree : layeredTree.WellFormed ∧
    IgnoreChecker.load layeredTree true = .ok layeredChecker ∧
    layeredChecker.excludes (pathText ["app", "keep.log"]) false = false ∧
    layeredChecker.excludes (pathText ["app", "other.log"]) false = true := by
  have plain : ∀ dir name content, layeredTree.Loads (ignoreNames true) dir name content →
      ∀ n ∈ dir, Plain n.toList := by
    intro dir name content h
    rcases loads_layeredTree h with ⟨rfl, -⟩ | ⟨rfl, -⟩
    · exact List.forall_mem_nil _
    · decide +kernel
  have solid : ∀ dir name content, layeredTree.Loads (ignoreNames true) dir name content →
      ∀ line ∈ patternLines content, ∃ x ∈ line.toList, x ≠ '/' ∧ x ≠ '*' ∧ x ≠ '!' := by
    intro dir name content h
    have one {bytes : ByteArray} {text : String} (lines : patternLines (some bytes) = [text])
        (letter : 'o' ∈ text.toList) :
        ∀ line ∈ patternLines (some bytes), ∃ x ∈ line.toList, x ≠ '/' ∧ x ≠ '*' ∧ x ≠ '!' := by
      rw [lines]
      exact List.forall_mem_singleton.2 ⟨'o', letter, by decide, by decide, by decide⟩
    rcases loads_layeredTree h with ⟨-, rfl⟩ | ⟨-, rfl⟩
    · exact one (by decide +kernel : _ = ["*.log"]) (by decide)
    · exact one (by decide +kernel : _ = ["!/keep.log"]) (by decide)
  have decides {path : List String} {excluded : Bool} (ne : path ≠ [])
      (proper : ∀ n ∈ path, EntryName n) (noEscape : ∀ n ∈ path, '\\' ∉ n.toList)
      (judged : (judge false Verdict.none (governing (ignoreNames true) path layeredTree)).map
        Verdict.taken = .ok excluded) : layeredChecker.excludes (pathText path) false = excluded :=
    Except.ok.inj ((IgnoreChecker.judge_governing wellFormed_layeredTree load_layeredTree plain solid ne
      proper noEscape false).symm.trans judged)
  have keep : governing (ignoreNames true) ["app", "keep.log"] layeredTree =
      [("*.log", ["app", "keep.log"]), ("!/keep.log", ["keep.log"])] := by
    decide +kernel
  have other : governing (ignoreNames true) ["app", "other.log"] layeredTree =
      [("*.log", ["app", "other.log"]), ("!/keep.log", ["other.log"])] := by
    decide +kernel
  refine ⟨wellFormed_layeredTree, load_layeredTree, decides (by simp) (by decide) (by decide) ?_,
    decides (by simp) (by decide) (by decide) ?_⟩
  · rw [keep]
    rfl
  · rw [other]
    rfl

end DomainAtlas
