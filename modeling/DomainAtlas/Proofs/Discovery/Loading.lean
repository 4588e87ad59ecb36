import DomainAtlas.Proofs.Discovery.Tree

/-!
# What is loaded from the ignore files of a tree

Every ignore file in a directory that the search enters is loaded (`Tree.Loads`), and nothing else is.
Of its lines those count that are patterns (`patternLines`); each is rewritten for its directory on its
own (`prefixLine`), so that what a tree says is the list of what its loaded files say.

Results:
* `mem_loadTree_iff`: what a tree says is said by one of its loaded files.
* `mem_patterns_loadTree`, `mem_files_loadTree`, `mem_lifted_loadTree`: the same for patterns, for the
  files themselves, and for lifted names, which only files at the root give.
-/
namespace DomainAtlas

/-! ## The lines of a file -/

/-- Whether a line, without the blanks around it, is a pattern: it is not empty and no comment. -/
def isPatternLine (line : String) : Bool :=
  match line.toList with
  | [] => false
  | '#' :: _ => false
  | _ => true

/-- The patterns in an ignore file, in order, without the blanks around them. -/
def patternLines (content : Option ByteArray) : List String :=
  match content with
  | none => []
  | some bytes =>
    ((Text.lines (Text.unifyBreaks (Text.decodeLossy bytes))).map Text.strip).filter isPatternLine

/-- A pattern of the ignore file in the directory `base`, rewritten to apply from the root. -/
def prefixLine (base line : String) : String :=
  match line.toList with
  | '!' :: body => "!" ++ prefixPattern (String.ofList body) base
  | _ => prefixPattern line base

/-- The name a pattern lifts, where it stands in a file at the root. -/
def liftedBy (line : String) : List String :=
  match line.toList with
  | '!' :: body => (liftedName? (String.ofList body)).toList
  | _ => []

namespace IgnoreLines

@[simp] theorem patterns_append (a b : IgnoreLines) : (a ++ b).patterns = a.patterns ++ b.patterns := rfl

@[simp] theorem lifted_append (a b : IgnoreLines) : (a ++ b).lifted = a.lifted ++ b.lifted := rfl

@[simp] theorem files_append (a b : IgnoreLines) : (a ++ b).files = a.files ++ b.files := rfl

/-- One list of what ignore files say, which grows file by file. -/
structure Facet (β : Type) where
  get : IgnoreLines → List β
  empty : get .empty = []
  append : ∀ a b, get (a ++ b) = get a ++ get b

def patternFacet : Facet String := ⟨patterns, rfl, patterns_append⟩

def liftedFacet : Facet String := ⟨lifted, rfl, lifted_append⟩

def fileFacet : Facet String := ⟨files, rfl, files_append⟩

theorem Facet.foldl {α β : Type} (facet : Facet β) (f : α → IgnoreLines) (xs : List α)
    (start : IgnoreLines) : facet.get (xs.foldl (fun acc x => acc ++ f x) start) =
      facet.get start ++ xs.flatMap fun x => facet.get (f x) := by
  induction xs generalizing start with
  | nil => simp
  | cons x xs ih =>
    rw [List.foldl_cons, ih, facet.append]
    simp

end IgnoreLines

open IgnoreLines

theorem ignoreLine_eq (base raw : String) : ignoreLine base raw =
    if isPatternLine (Text.strip raw) then
      ⟨[prefixLine base (Text.strip raw)], if base = "" then liftedBy (Text.strip raw) else [], []⟩
    else .empty := by
  unfold ignoreLine isPatternLine prefixLine liftedBy
  generalize Text.strip raw = line
  dsimp only
  cases line.toList with
  | nil => rfl
  | cons c cs =>
    by_cases comment : c = '#'
    · subst comment
      rfl
    · by_cases negated : c = '!'
      · subst negated
        rfl
      · simp [comment, negated]

/-- An ignore file says what its patterns say. -/
theorem Facet.get_ignoreFile {β : Type} (facet : Facet β) (base : String) (content : Option ByteArray) :
    facet.get (ignoreFile base content) = (patternLines content).flatMap fun line =>
      facet.get ⟨[prefixLine base line], if base = "" then liftedBy line else [], []⟩ := by
  cases content with
  | none => exact facet.empty
  | some bytes =>
    rw [ignoreFile, facet.foldl, facet.empty, List.nil_append, patternLines]
    induction Text.lines (Text.unifyBreaks (Text.decodeLossy bytes)) with
    | nil => rw [List.flatMap_nil, List.map_nil, List.filter_nil, List.flatMap_nil]
    | cons raw rest ih =>
      have here := ignoreLine_eq base raw
      rw [List.flatMap_cons, ih, List.map_cons, List.filter_cons]
      by_cases pattern : isPatternLine (Text.strip raw) = true
      · rw [if_pos pattern] at here ⊢
        rw [here, List.flatMap_cons]
      · rw [if_neg pattern] at here ⊢
        rw [here, facet.empty, List.nil_append]

theorem patterns_ignoreFile (base : String) (content : Option ByteArray) :
    (ignoreFile base content).patterns = (patternLines content).map (prefixLine base) := by
  rw [List.map_eq_flatMap]
  exact Facet.get_ignoreFile patternFacet base content

theorem files_ignoreFile (base : String) (content : Option ByteArray) :
    (ignoreFile base content).files = [] :=
  (Facet.get_ignoreFile fileFacet base content).trans (List.flatMap_eq_nil_iff.2 fun _ _ => rfl)

/-! ## The files of a tree -/

/-- An ignore file of one of the given names is loaded: it stands in a directory to which the search
comes from the root. -/
structure Tree.Loads (names : List String) (t : Tree) (dir : List String) (name : String)
    (content : Option ByteArray) : Prop where
  named : name ∈ names
  found : t.at? (dir ++ [name]) = some (.file content)
  searched : ∀ d ∈ dir, searchedDir d = true

section Trees

variable {names : List String} {t : Tree}

theorem Tree.loads_nil_iff (wf : t.WellFormed) {name : String} {content : Option ByteArray} :
    t.Loads names [] name content ↔ name ∈ names ∧ (name, .file content) ∈ t.entries := by
  constructor
  · intro h
    obtain ⟨v, hv, e⟩ := wf.at?_cons_iff.1 h.found
    rw [Tree.at?_nil] at e
    exact ⟨h.named, Option.some.inj e ▸ hv⟩
  · rintro ⟨named, mem⟩
    exact ⟨named, wf.at?_cons_iff.2 ⟨_, mem, Tree.at?_nil _⟩, by simp⟩

theorem Tree.loads_cons_iff (wf : t.WellFormed) {d name : String} {dir : List String}
    {content : Option ByteArray} : t.Loads names (d :: dir) name content ↔
      ∃ u, (d, u) ∈ t.entries ∧ searchedDir d = true ∧ u.Loads names dir name content := by
  constructor
  · intro h
    obtain ⟨u, hu, found⟩ := wf.at?_cons_iff.1 h.found
    have searched := List.forall_mem_cons.1 h.searched
    exact ⟨u, hu, searched.1, h.named, found, searched.2⟩
  · rintro ⟨u, hu, searched, h⟩
    exact ⟨h.named, wf.at?_cons_iff.2 ⟨u, hu, h.found⟩,
      List.forall_mem_cons.2 ⟨searched, h.searched⟩⟩

/-- Nothing is loaded where there are no entries. -/
theorem Tree.not_loads (none : t.entries = []) {dir : List String} {name : String}
    {content : Option ByteArray} : ¬ t.Loads names dir name content := by
  intro h
  have found := h.found
  cases dir <;> simp [Tree.at?_cons, none] at found

theorem loadEntries_eq (base : String) (es : List (String × Tree)) :
    loadTree.loadEntries names base es = (es.filter fun e => searchedDir e.1).map fun e =>
      (e.1, loadTree names (below base e.1) e.2) := by
  induction es with
  | nil => rfl
  | cons e es ih =>
    obtain ⟨name, u⟩ := e
    simp only [loadTree.loadEntries, ih, List.filter_cons]
    split <;> simp

theorem map_fst_loadEntries (base : String) (es : List (String × Tree)) :
    (loadTree.loadEntries names base es).map Prod.fst =
      (es.filter fun e => searchedDir e.1).map Prod.fst := by
  rw [loadEntries_eq, List.map_map]
  rfl

theorem nodup_loadEntries (wf : t.WellFormed) (base : String) :
    ((loadTree.loadEntries names base t.entries).map Prod.fst).Nodup := by
  rw [map_fst_loadEntries]
  exact wf.nodup_entries.sublist (List.filter_sublist.map _)

/-- What a directory says: first its own files, then its directories in order of name. -/
theorem Facet.get_loadTree_dir {β : Type} (facet : Facet β) (base : String) (es : List (String × Tree)) :
    facet.get (loadTree names base (.dir es)) =
      (names.flatMap fun name => facet.get (loadNamed base es name)) ++
      ((loadTree.loadEntries names base es).mergeSort entryLe).flatMap fun e => facet.get e.2 := by
  rw [loadTree]
  simp only [facet.foldl, facet.empty, List.nil_append]

/-- The patterns of one ignore file of a directory, if it is there. -/
def ownPatterns (es : List (String × Tree)) (name : String) : List String :=
  match es.lookup name with
  | some (.file content) => patternLines content
  | _ => []

theorem mem_ownPatterns_iff (wf : t.WellFormed) {name line : String} :
    line ∈ ownPatterns t.entries name ↔
      ∃ content, (name, .file content) ∈ t.entries ∧ line ∈ patternLines content := by
  have lookup (content : Option ByteArray) :
      t.entries.lookup name = some (.file content) ↔ (name, .file content) ∈ t.entries := wf.lookup_iff
  unfold ownPatterns
  split
  · next content h =>
    constructor
    · exact fun hl => ⟨content, (lookup content).1 h, hl⟩
    · rintro ⟨content', hc, hl⟩
      cases h.symm.trans ((lookup content').2 hc)
      exact hl
  · next none =>
    refine ⟨fun h => (by cases h), ?_⟩
    rintro ⟨content, hc, -⟩
    exact (none content ((lookup content).2 hc)).elim

theorem patterns_loadNamed (base : String) (es : List (String × Tree)) (name : String) :
    (loadNamed base es name).patterns = (ownPatterns es name).map (prefixLine base) := by
  unfold loadNamed ownPatterns
  rcases es.lookup name with _ | ⟨content⟩ | _ | _
  · rfl
  · simp [patterns_ignoreFile]
  · rfl
  · rfl

theorem patterns_loadTree_dir (base : String) (es : List (String × Tree)) :
    (loadTree names base (.dir es)).patterns =
      (names.flatMap (ownPatterns es)).map (prefixLine base) ++
      ((loadTree.loadEntries names base es).mergeSort entryLe).flatMap fun e => e.2.patterns := by
  rw [List.map_flatMap]
  simp only [← patterns_loadNamed]
  exact Facet.get_loadTree_dir patternFacet base es

def loadedFile (dir : List String) (name : String) (content : Option ByteArray) : IgnoreLines :=
  ignoreFile (pathText dir) content ++ ⟨[], [], [pathText (dir ++ [name])]⟩

theorem mem_loadNamed_iff {β : Type} (facet : Facet β) (wf : t.WellFormed) {base : List String}
    (proper : ∀ n ∈ base, EntryName n) {name : String} {x : β} :
    x ∈ facet.get (loadNamed (pathText base) t.entries name) ↔
      ∃ content, (name, .file content) ∈ t.entries ∧ x ∈ facet.get (loadedFile base name content) := by
  have lookup (content : Option ByteArray) :
      t.entries.lookup name = some (.file content) ↔ (name, .file content) ∈ t.entries := wf.lookup_iff
  unfold loadNamed loadedFile
  split
  · next content h =>
    rw [below_pathText proper]
    constructor
    · exact fun hx => ⟨content, (lookup content).1 h, hx⟩
    · rintro ⟨content', hc, hx⟩
      cases h.symm.trans ((lookup content').2 hc)
      exact hx
  · next none =>
    rw [facet.empty]
    constructor
    · intro hx
      cases hx
    · rintro ⟨content, hc, -⟩
      exact (none content ((lookup content).2 hc)).elim

/-- **Loading.** What a tree says is what its loaded files say. -/
theorem mem_loadTree_iff {β : Type} (facet : Facet β) (wf : t.WellFormed) {base : List String}
    (proper : ∀ n ∈ base, EntryName n) {x : β} :
    x ∈ facet.get (loadTree names (pathText base) t) ↔
      ∃ dir name content, t.Loads names dir name content ∧
        x ∈ facet.get (loadedFile (base ++ dir) name content) := by
  induction wf generalizing base with
  | file content =>
    rw [loadTree, facet.empty]
    refine ⟨fun h => (by cases h), ?_⟩
    rintro ⟨_, _, _, h, -⟩
    exact (Tree.not_loads rfl h).elim
  | dirLink =>
    rw [loadTree, facet.empty]
    refine ⟨fun h => (by cases h), ?_⟩
    rintro ⟨_, _, _, h, -⟩
    exact (Tree.not_loads rfl h).elim
  | @dir es nodup named inner ih =>
    have wf : (Tree.dir es).WellFormed := .dir nodup named inner
    rw [Facet.get_loadTree_dir, List.mem_append, List.mem_flatMap, List.mem_flatMap]
    constructor
    · rintro (⟨name, hn, hx⟩ | ⟨e, he, hx⟩)
      · obtain ⟨content, hc, hx⟩ := (mem_loadNamed_iff facet wf proper).1 hx
        exact ⟨[], name, content, (Tree.loads_nil_iff wf).2 ⟨hn, hc⟩, by simpa using hx⟩
      · rw [List.mem_mergeSort, loadEntries_eq] at he
        obtain ⟨⟨d, u⟩, hu, rfl⟩ := List.mem_map.1 he
        obtain ⟨mem, searched⟩ := List.mem_filter.1 hu
        rw [below_pathText proper, ih _ mem (entryName_concat proper (named _ mem))] at hx
        obtain ⟨dir, name, content, loads, hx⟩ := hx
        exact ⟨d :: dir, name, content, (Tree.loads_cons_iff wf).2 ⟨u, mem, searched, loads⟩,
          by simpa using hx⟩
    · rintro ⟨dir, name, content, loads, hx⟩
      cases dir with
      | nil =>
        obtain ⟨hn, hc⟩ := (Tree.loads_nil_iff wf).1 loads
        exact .inl ⟨name, hn, (mem_loadNamed_iff facet wf proper).2 ⟨content, hc, by simpa using hx⟩⟩
      | cons d dir =>
        obtain ⟨u, mem, searched, loads⟩ := (Tree.loads_cons_iff wf).1 loads
        refine .inr ⟨(d, loadTree names (below (pathText base) d) u), ?_, ?_⟩
        · rw [List.mem_mergeSort, loadEntries_eq]
          exact List.mem_map.2 ⟨(d, u), List.mem_filter.2 ⟨mem, searched⟩, rfl⟩
        · rw [below_pathText proper, ih _ mem (entryName_concat proper (named _ mem))]
          exact ⟨dir, name, content, loads, by simpa using hx⟩

theorem mem_patterns_loadTree (wf : t.WellFormed) {base : List String}
    (proper : ∀ n ∈ base, EntryName n) {p : String} :
    p ∈ (loadTree names (pathText base) t).patterns ↔
      ∃ dir name content, t.Loads names dir name content ∧
        ∃ line ∈ patternLines content, p = prefixLine (pathText (base ++ dir)) line := by
  refine (mem_loadTree_iff patternFacet wf proper).trans ?_
  simp [patternFacet, loadedFile, patterns_ignoreFile, eq_comm]

theorem mem_files_loadTree (wf : t.WellFormed) {p : String} :
    p ∈ (loadTree names "" t).files ↔
      ∃ dir name content, t.Loads names dir name content ∧ p = pathText (dir ++ [name]) := by
  refine (mem_loadTree_iff fileFacet wf (List.forall_mem_nil EntryName)).trans ?_
  simp [fileFacet, loadedFile, files_ignoreFile]

/-- Only files at the root lift names. -/
theorem mem_lifted_loadTree (wf : t.WellFormed) {x : String} :
    x ∈ (loadTree names "" t).lifted ↔
      ∃ name content, t.Loads names [] name content ∧
        ∃ line ∈ patternLines content, x ∈ liftedBy line := by
  have lifted (dir : List String) (name : String) (content : Option ByteArray) :
      (loadedFile dir name content).lifted = (patternLines content).flatMap fun line =>
        if pathText dir = "" then liftedBy line else [] := by
    rw [loadedFile, lifted_append, List.append_nil]
    exact Facet.get_ignoreFile liftedFacet (pathText dir) content
  refine (mem_loadTree_iff liftedFacet wf (List.forall_mem_nil EntryName)).trans ⟨?_, ?_⟩
  · rintro ⟨dir, name, content, loads, hx⟩
    replace hx : x ∈ (loadedFile dir name content).lifted := hx
    rw [lifted] at hx
    obtain ⟨line, hl, hline⟩ := List.mem_flatMap.1 hx
    split at hline
    · next root =>
      have proper := List.forall_mem_append.1 (wf.at? loads.found).1
      obtain rfl := (pathText_eq_empty_iff proper.1).1 root
      exact ⟨name, content, loads, line, hl, hline⟩
    · cases hline
  · rintro ⟨name, content, loads, line, hl, hx⟩
    refine ⟨[], name, content, loads, ?_⟩
    show x ∈ (loadedFile [] name content).lifted
    rw [lifted]
    exact List.mem_flatMap.2 ⟨line, hl, hx⟩

end Trees

/-! ## Checkers -/

/-- A checker holds what its tree says, with every pattern compiled. -/
theorem IgnoreChecker.lines_of_load {t : Tree} {respectGit : Bool} {c : IgnoreChecker}
    (h : load t respectGit = .ok c) : c.lines = loadTree (ignoreNames respectGit) "" t ∧
      Glob.compileAll c.lines.patterns = .ok c.rules.rules := by
  unfold load Glob.Ruleset.ofLines at h
  cases compiled : Glob.compileAll (loadTree (ignoreNames respectGit) "" t).patterns with
  | error f => simp [compiled, Except.map] at h
  | ok rules =>
    simp only [compiled, Except.map, Except.ok.injEq] at h
    rw [← h]
    exact ⟨rfl, compiled⟩

theorem IgnoreChecker.load_of_compileAll {t : Tree} {respectGit : Bool} {rules : List Glob.Rule}
    (h : Glob.compileAll (loadTree (ignoreNames respectGit) "" t).patterns = .ok rules) :
    load t respectGit = .ok ⟨loadTree (ignoreNames respectGit) "" t, ⟨rules⟩⟩ := by
  simp [load, Glob.Ruleset.ofLines, h, Except.map]

end DomainAtlas
