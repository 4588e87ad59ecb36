import DomainAtlas.Proofs.Discovery.Enumeration
import DomainAtlas.Proofs.Discovery.Rewriting
import DomainAtlas.Proofs.Scan.Gathering

/-!
# One more glob

What an enumeration finds when one more glob is put behind the configured ones. A glob that is no
negation can only add to what a list of globs takes, so behind the exclude globs it can only make the
enumeration lose files, and behind the include globs only gain some.

Which files are lost is a matter of how a list of lines is heard: what a line says about the path itself
goes before what a later line says about a directory on the way. So a file stays, although the new
exclude glob matches one of its directories, if the last exclude glob that matches the file itself is a
negation (`Spared`).

Results:
* `hear_eq`: all a line can do to what is known about a path.
* `itself_eq_some_false_iff`: when the lines together let go of a path itself.
* `taken_append_iff`: what one more line adds to the paths a list takes.
* `paths_append_glob`: the enumeration before and after.
-/
namespace DomainAtlas

namespace Glob

/-! ## One line -/

/-- Whether a line takes paths out again. -/
def negated (line : String) : Bool := (trimLine line).head? == some '!'

/-- How a line matches a path: not at all, as itself (`false`) or through a directory (`true`). -/
def matching (line path : String) : Option Bool :=
  match (compile line).toOption with
  | some (some rule) => rule.shape.run (relative path.toList)
  | _ => none

/-- Whether a line takes a path when there is no other. -/
def TakesAlone (line path : String) : Prop :=
  ∃ s, Ruleset.ofLines [line] = .ok s ∧ s.takes path = true

theorem signed_fst (cs : List Char) : (signed cs).1 = !(cs.head? == some '!') := by
  unfold signed
  split
  · rfl
  · next plain =>
    cases cs with
    | nil => rfl
    | cons c cs =>
      have other : c ≠ '!' := fun bang => plain cs (by rw [bang])
      simp [other]

theorem takes_of_compile {line : String} {rule : Rule} (h : compile line = .ok (some rule)) :
    rule.takes = !negated line := by
  rw [negated, ← signed_fst]
  revert h
  unfold compile signed
  dsimp only
  split
  · simp
  · split
    -- a line with an exclamation mark, and one without
    all_goals
      intro h
      dsimp only at h
      split at h
      · cases h
      · split at h
        · cases h
        · split at h
          · cases h
            simp_all
          · cases h
          · cases h

/-- What a line says about a path is said about the path itself or about a directory on the way. -/
theorem hear_eq (line path : String) (v : Verdict) : hear (relative path.toList) v line =
    match matching line path with
    | none => v
    | some true => { v with byDir := some (!negated line) }
    | some false => { v with itself := some (!negated line) } := by
  unfold hear matching
  cases compiled : compile line with
  | error f => rfl
  | ok r =>
    cases r with
    | none => rfl
    | some rule =>
      rw [← takes_of_compile compiled]
      rfl

/-! ## Lines one after the other -/

/-- What is known about a path after some lines. -/
def heard (lines : List String) (path : String) : Verdict :=
  lines.foldl (hear (relative path.toList)) Verdict.none

theorem heard_append (lines : List String) (line path : String) :
    heard (lines ++ [line]) path = hear (relative path.toList) (heard lines path) line := by
  rw [heard, List.foldl_append]
  rfl

theorem takes_of_ofLines {lines : List String} {s : Ruleset} (h : Ruleset.ofLines lines = .ok s)
    (path : String) : s.takes path = (heard lines path).taken := by
  unfold Ruleset.ofLines at h
  cases compiled : compileAll lines with
  | error f => simp [compiled, Except.map] at h
  | ok rules =>
    rw [compiled] at h
    cases h
    rw [heard, ← (compileAll_eq_ok compiled).2]
    rfl

/-- A line the matcher accepts can be put behind any lines. -/
theorem ofLines_append {line : String} {r : Option Rule} (accepted : compile line = .ok r)
    (lines : List String) : Ruleset.ofLines (lines ++ [line]) =
      (Ruleset.ofLines lines).map fun s => ⟨s.rules ++ r.toList⟩ := by
  have rules : compileAll (lines ++ [line]) = (compileAll lines).map (· ++ r.toList) := by
    induction lines with
    | nil => cases r <;> simp [compileAll, accepted, Except.map]
    | cons l lines ih =>
      rw [List.cons_append, compileAll, compileAll, ih]
      cases compile l with
      | error f => rfl
      | ok r' =>
        cases r' with
        | none => rfl
        | some rule => cases compileAll lines <;> rfl
  rw [Ruleset.ofLines, rules, Ruleset.ofLines]
  cases compileAll lines <;> rfl

/-- The last of the lines that match a path itself is a negation. -/
def Spared (lines : List String) (path : String) : Prop :=
  ∃ before line after, lines = before ++ line :: after ∧
    (matching line path = some false ∧ negated line = true) ∧
    ∀ later ∈ after, ¬ matching later path = some false

/-- The lines together let go of a path itself if the last of them that matches it is a negation. By
induction on the lines from the last one. -/
theorem itself_eq_some_false_iff (lines : List String) (path : String) :
    (heard lines path).itself = some false ↔ Spared lines path := by
  induction lines using List.reverseRecOn with
  | nil => simp [heard, Spared, Verdict.none]
  | append_singleton lines line ih =>
    have last := Scan.exists_last_concat
      (P := fun l => matching l path = some false ∧ negated l = true)
      (Q := fun l => matching l path = some false) lines line
    rw [heard_append, hear_eq, Spared, last]
    unfold Spared at ih
    cases how : matching line path with
    | none => simp [ih]
    | some byDir =>
      cases byDir with
      | true => simp [ih]
      | false => simp

/-- What a line that is no negation adds behind other lines: what it matches, but for a path it matches
through a directory only and the others let go of. -/
def Adds (lines : List String) (line path : String) : Prop :=
  matching line path ≠ none ∧ ¬ (matching line path = some true ∧ Spared lines path)

theorem taken_append_iff {line : String} (positive : negated line = false) (lines : List String)
    (path : String) : (heard (lines ++ [line]) path).taken = true ↔
      (heard lines path).taken = true ∨ Adds lines line path := by
  rw [heard_append, hear_eq, positive, Adds, ← itself_eq_some_false_iff]
  generalize heard lines path = v
  obtain ⟨itself, byDir⟩ := v
  cases matching line path with
  | none => simp
  | some how =>
    cases how with
    | false => simp [Verdict.taken]
    | true =>
      cases itself with
      | none => simp [Verdict.taken]
      | some b => cases b <;> simp [Verdict.taken]

/-- A line that is no negation takes what it matches. -/
theorem takesAlone_iff {line : String} {r : Option Rule} (accepted : compile line = .ok r)
    (positive : negated line = false) (path : String) :
    TakesAlone line path ↔ matching line path ≠ none := by
  have made := ofLines_append accepted []
  have alone : TakesAlone line path ↔ (heard ([] ++ [line]) path).taken = true := by
    refine ⟨fun ⟨s, ok, taken⟩ => ?_, fun taken => ⟨_, made, ?_⟩⟩
    · have made : Ruleset.ofLines ([] ++ [line]) = .ok s := ok
      rw [← takes_of_ofLines made, taken]
    · rw [takes_of_ofLines made, taken]
  rw [alone, taken_append_iff positive]
  simp [Adds, Spared, heard, Verdict.none, Verdict.taken]

end Glob

open Glob

namespace Enumerator

variable {tree : Tree} {includeGlobs excludeGlobs : List String} {respectGit : Bool}

/-- A glob that the matcher accepts is put behind the exclude globs, or behind the include globs. -/
theorem make_append {g : String} {r : Option Rule} (accepted : compile g = .ok r) :
    make tree includeGlobs (excludeGlobs ++ [g]) respectGit =
      (make tree includeGlobs excludeGlobs respectGit).map (fun e =>
        { e with excludes := ⟨e.excludes.rules ++ r.toList⟩ }) ∧
    make tree (includeGlobs ++ [g]) excludeGlobs respectGit =
      (make tree includeGlobs excludeGlobs respectGit).map fun e =>
        { e with includes := ⟨e.includes.rules ++ r.toList⟩ } := by
  rw [make, make, make, ofLines_append accepted, ofLines_append accepted]
  cases Ruleset.ofLines includeGlobs with
  | error f => exact ⟨rfl, rfl⟩
  | ok includes =>
    cases Ruleset.ofLines excludeGlobs with
    | error f => exact ⟨rfl, rfl⟩
    | ok excludes => cases IgnoreChecker.load tree respectGit <;> exact ⟨rfl, rfl⟩

/-- An enumerator goes by its globs. -/
theorem globs_of_make {e : Enumerator} (made : make tree includeGlobs excludeGlobs respectGit = .ok e) :
    Ruleset.ofLines includeGlobs = .ok e.includes ∧ Ruleset.ofLines excludeGlobs = .ok e.excludes := by
  unfold make at made
  split at made
  · cases made
  · next includes hi =>
    split at made
    · cases made
    · next excludes he =>
      cases loaded : IgnoreChecker.load tree respectGit with
      | error f => simp [loaded, Except.map] at made
      | ok c =>
        rw [loaded] at made
        cases made
        exact ⟨hi, he⟩

theorem accepts_iff (e : Enumerator) (path : String) : e.accepts path = true ↔
    (Dialect.ofPath? path).isSome = true ∧ e.includes.takes path = true ∧
      e.excludes.takes path = false ∧ e.ignore.excludes path false = false := by
  unfold accepts rejection
  cases Dialect.ofPath? path <;> cases e.includes.takes path <;> cases e.excludes.takes path <;>
    cases e.ignore.excludes path false <;> simp

section Kept

variable {e : Enumerator} {s : Ruleset} {p : String} {P : Prop}

theorem accepts_narrowed (more : s.takes p = true ↔ e.excludes.takes p = true ∨ P) :
    { e with excludes := s }.accepts p = true ↔ e.accepts p = true ∧ ¬ P := by
  have fewer : s.takes p = false ↔ e.excludes.takes p = false ∧ ¬ P := by
    rw [← Bool.not_eq_true, more, not_or, Bool.not_eq_true]
  rw [accepts_iff, accepts_iff]
  dsimp only
  rw [fewer]
  constructor
  · intro ⟨dialect, included, ⟨free, other⟩, heeded⟩
    exact ⟨⟨dialect, included, free, heeded⟩, other⟩
  · intro ⟨⟨dialect, included, free, heeded⟩, other⟩
    exact ⟨dialect, included, ⟨free, other⟩, heeded⟩

theorem accepts_widened (more : s.takes p = true ↔ e.includes.takes p = true ∨ P) :
    (e.accepts p = true → { e with includes := s }.accepts p = true) ∧
      ({ e with includes := s }.accepts p = true → e.accepts p = true ∨ P) := by
  rw [accepts_iff, accepts_iff]
  dsimp only
  rw [more]
  constructor
  · intro ⟨dialect, included, free, heeded⟩
    exact ⟨dialect, .inl included, free, heeded⟩
  · intro ⟨dialect, included, free, heeded⟩
    exact included.imp_left fun included => ⟨dialect, included, free, heeded⟩

end Kept

/-- **One more glob.** A glob that the matcher accepts and that is no negation leaves a refused
configuration refused for the same reason. Put behind the exclude globs it makes the enumeration find a
sublist of what it found before, and behind the include globs a list of which that is a sublist. The
files lost are those the glob matches, but for a file it matches through a directory only while the last
exclude glob that matches the file itself is a negation; and every file gained is matched by the glob. -/
theorem paths_append_glob {g : String} (positive : negated g = false) {r : Option Rule}
    (accepted : compile g = .ok r) :
    (∀ f, make tree includeGlobs excludeGlobs respectGit = .error f →
      make tree includeGlobs (excludeGlobs ++ [g]) respectGit = .error f ∧
      make tree (includeGlobs ++ [g]) excludeGlobs respectGit = .error f) ∧
    ∀ e, make tree includeGlobs excludeGlobs respectGit = .ok e → ∃ narrow wide,
      make tree includeGlobs (excludeGlobs ++ [g]) respectGit = .ok narrow ∧
      make tree (includeGlobs ++ [g]) excludeGlobs respectGit = .ok wide ∧
      (narrow.paths tree).Sublist (e.paths tree) ∧ (e.paths tree).Sublist (wide.paths tree) ∧
      (∀ p ∈ e.paths tree, p ∉ narrow.paths tree ↔
        TakesAlone g p ∧ ¬ (matching g p = some true ∧ Spared excludeGlobs p)) ∧
      ∀ p ∈ wide.paths tree, p ∉ e.paths tree → TakesAlone g p := by
  obtain ⟨exclude, widen⟩ : make tree includeGlobs (excludeGlobs ++ [g]) respectGit = _ ∧
      make tree (includeGlobs ++ [g]) excludeGlobs respectGit = _ := make_append accepted
  refine ⟨fun f failed => ?_, fun e made => ?_⟩
  · rw [exclude, widen, failed]
    exact ⟨rfl, rfl⟩
  rw [made] at exclude widen
  obtain ⟨includes, excludes⟩ := globs_of_make made
  have narrower (p : String) := accepts_narrowed (e := e) (p := p) (by
    rw [takes_of_ofLines (globs_of_make exclude).2, takes_of_ofLines excludes,
      taken_append_iff positive])
  have wider (p : String) := accepts_widened (e := e) (p := p) (by
    rw [takes_of_ofLines (globs_of_make widen).1, takes_of_ofLines includes,
      taken_append_iff positive])
  have matched (p : String) := takesAlone_iff accepted positive p
  refine ⟨_, _, exclude, widen, ?_, ?_, fun p found => ?_, fun p found fresh => ?_⟩
  · exact List.monotone_filter_right _ fun p kept => ((narrower p).1 kept).1
  · exact List.monotone_filter_right _ fun p kept => (wider p).1 kept
  · obtain ⟨visited, kept⟩ := List.mem_filter.1 found
    rw [matched, ← Adds, paths, List.mem_filter, narrower p]
    constructor
    · intro lost
      by_contra other
      exact lost ⟨visited, kept, other⟩
    · intro added still
      exact still.2.2 added
  · obtain ⟨visited, kept⟩ := List.mem_filter.1 found
    rcases (wider p).2 kept with before | added
    · exact absurd (List.mem_filter.2 ⟨visited, before⟩) fresh
    · exact (matched p).2 added.1

/-- A directory with two files. -/
def pairFolder : Tree := .dir [("a.php", .file none), ("b.php", .file none)]

/-- A tree with nothing but that directory. -/
def pairTree : Tree := .dir [("src", pairFolder)]

def pairEnumerator (excludes : List Rule) : Enumerator where
  includes := ⟨[⟨true, .atoms [.leadingDirs, .many, .char '.', .char 'p', .char 'h', .char 'p',
    .close]⟩]⟩
  excludes := ⟨excludes⟩
  ignore := ⟨IgnoreLines.empty, ⟨[]⟩⟩

/-- What `!src/a.php` says. -/
def keepsFirst : Rule := ⟨false, .atoms [.char 's', .char 'r', .char 'c', .slash, .char 'a', .char '.',
  .char 'p', .char 'h', .char 'p', .close]⟩

/-- What `src/` says. -/
def dropsFolder : Rule := ⟨true, .atoms [.leadingDirs, .char 's', .char 'r', .char 'c', .below]⟩

theorem load_pairTree : IgnoreChecker.load pairTree true = .ok ⟨IgnoreLines.empty, ⟨[]⟩⟩ := by
  have folder : loadTree (ignoreNames true) "src" pairFolder = IgnoreLines.empty := by
    rw [pairFolder, loadTree, loadEntries_eq, List.mergeSort_of_pairwise (by decide +kernel)]
    decide +kernel
  have searched : searchedDir "src" = true := by decide
  have lines : loadTree (ignoreNames true) "" pairTree = IgnoreLines.empty := by
    rw [pairTree, loadTree, loadEntries_eq, List.mergeSort_of_pairwise (by decide +kernel)]
    simp only [List.filter_cons, searched, List.filter_nil, if_true, List.map_cons, List.map_nil, below,
      folder]
    decide +kernel
  rw [IgnoreChecker.load, lines]
  rfl

theorem make_pairTree (excludeGlobs : List String) {excludes : List Rule}
    (read : Ruleset.ofLines excludeGlobs = .ok ⟨excludes⟩) :
    make pairTree ["**/*.php"] excludeGlobs true = .ok (pairEnumerator excludes) := by
  rw [make, read, load_pairTree]
  rfl

theorem visited_pairTree (excludes : List Rule) :
    (pairEnumerator excludes).visited pairTree = ["src/a.php", "src/b.php"] := by
  have folder : walk (pairEnumerator []).enters "src" pairFolder = ["src/a.php", "src/b.php"] := by
    rw [pairFolder, walk, Text.sort, List.mergeSort_of_pairwise (by decide +kernel), walkEntries_eq,
      List.mergeSort_of_pairwise (by decide +kernel)]
    decide +kernel
  have entered : (pairEnumerator []).enters "src" "src" = true := by decide +kernel
  change walk (pairEnumerator []).enters "" pairTree = _
  rw [pairTree, walk, Text.sort, List.mergeSort_of_pairwise (by decide +kernel), walkEntries_eq,
    List.mergeSort_of_pairwise (by decide +kernel)]
  simp only [List.filter_cons, below, entered, if_true, List.filter_nil, List.map_cons, List.map_nil,
    folder]
  decide +kernel

/-- Behind a negation of the first file, the glob of the directory makes the enumeration lose the second
one. -/
theorem paths_append_glob_pairTree : negated "src/" = false ∧ compile "src/" = .ok (some dropsFolder) ∧
    (pairEnumerator [keepsFirst]).paths pairTree = ["src/a.php", "src/b.php"] ∧
    TakesAlone "src/" "src/b.php" ∧
    ∃ narrow, make pairTree ["**/*.php"] (["!src/a.php"] ++ ["src/"]) true = .ok narrow ∧
      "src/b.php" ∉ narrow.paths pairTree := by
  have positive : negated "src/" = false := by decide +kernel
  have found : (pairEnumerator [keepsFirst]).paths pairTree = ["src/a.php", "src/b.php"] := by
    rw [paths, visited_pairTree]
    decide +kernel
  have accepted : compile "src/" = .ok (some dropsFolder) := rfl
  have alone : TakesAlone "src/" "src/b.php" := ⟨⟨[dropsFolder]⟩, rfl, by decide +kernel⟩
  have before : make pairTree ["**/*.php"] ["!src/a.php"] true = .ok (pairEnumerator [keepsFirst]) :=
    make_pairTree _ rfl
  obtain ⟨narrow, wide, made, -, -, -, lost, -⟩ := (paths_append_glob positive accepted).2 _ before
  refine ⟨positive, accepted, found, alone, narrow, made, ?_⟩
  refine (lost "src/b.php" (by rw [found]; simp)).2 ⟨alone, fun ⟨_, spared⟩ => ?_⟩
  obtain ⟨before, line, after, lines, ⟨here, -⟩, -⟩ := spared
  obtain rfl : line = "!src/a.php" := by
    have mem : line ∈ ["!src/a.php"] := lines ▸ by simp
    simpa using mem
  revert here
  decide +kernel

/-- The first file, though the glob by itself takes it, is not lost. -/
theorem paths_spared : make pairTree ["**/*.php"] ["!src/a.php"] true = .ok (pairEnumerator [keepsFirst]) ∧
    make pairTree ["**/*.php"] (["!src/a.php"] ++ ["src/"]) true =
      .ok (pairEnumerator [keepsFirst, dropsFolder]) ∧
    negated "src/" = false ∧ TakesAlone "src/" "src/a.php" ∧
    "src/a.php" ∈ (pairEnumerator [keepsFirst]).paths pairTree ∧
    "src/a.php" ∈ (pairEnumerator [keepsFirst, dropsFolder]).paths pairTree := by
  refine ⟨make_pairTree _ rfl, make_pairTree _ rfl, by decide +kernel,
    ⟨⟨[dropsFolder]⟩, rfl, by decide +kernel⟩, ?_, ?_⟩
  · rw [paths, visited_pairTree]
    decide +kernel
  · rw [paths, visited_pairTree]
    decide +kernel

end Enumerator

end DomainAtlas
