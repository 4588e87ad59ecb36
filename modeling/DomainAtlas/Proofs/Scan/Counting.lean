import DomainAtlas.Proofs.Dialect
import DomainAtlas.Proofs.Discovery.Enumeration
import DomainAtlas.Proofs.Scan.Stopping
import Mathlib.Algebra.GroupWithZero.Nat
import Mathlib.Data.List.Dedup

/-!
# No file is lost or counted twice

Every enumerated file belongs to a dialect, and the enumeration lists no file twice. So each read
counts as one PHP file, one script file or one failure. A script file is kept under its own path,
which no other script file has and no PHP file can have as its key: a key is a namespace, a backslash
and a class name, and behind the last dot of a path there is no backslash.

Results:
* `Store.size_ofList`: a store has as many definitions as there are different keys.
* `UsageIndex.total_extend`: every reference is counted once.
* `finish_accounts`: the account of a scan.
-/
namespace DomainAtlas

/-! ## Stores and usage indexes by number -/

namespace Store

/-- A store has one definition for each of the different keys. -/
theorem size_ofList (ds : List Definition) :
    (ofList ds).size = (ds.map Definition.qualifiedKey).dedup.length := by
  have same : (ofList ds).keys.Perm (ds.map Definition.qualifiedKey).dedup := by
    refine (List.perm_ext_iff_of_nodup (proper_ofList ds).nodup (List.nodup_dedup _)).2 fun key => ?_
    have listed : key ∈ (ofList ds).keys ↔ key ∈ ds.map Definition.qualifiedKey := by
      rw [keys_ofList, List.mem_eraseDups]
    rw [List.mem_dedup]
    exact listed
  rw [← same.length_eq, keys, List.length_map, size]

theorem Proper.nodup_definitions {s : Store} (h : s.Proper) : s.definitions.Nodup := by
  have nodup : (s.definitions.map Definition.qualifiedKey).Nodup := h.map_qualifiedKey ▸ h.nodup
  exact List.Nodup.of_map _ nodup

end Store

theorem sum_length_putEntry {α : Type} (key : String) (files : List α)
    (es : List (String × List α)) :
    ((putEntry key files es).map fun e => e.2.length).sum + ((es.lookup key).getD []).length =
      (es.map fun e => e.2.length).sum + files.length := by
  induction es with
  | nil => simp [putEntry]
  | cons e es ih =>
    obtain ⟨k, old⟩ := e
    rw [putEntry, lookup_cons_eq]
    by_cases h : k = key
    · simp only [h, if_true, List.map_cons, List.sum_cons, Option.getD_some]
      omega
    · have other : ¬ key = k := fun e => h e.symm
      simp only [if_neg h, if_neg other, List.map_cons, List.sum_cons]
      omega

namespace UsageIndex

/-- The number of references to all names. -/
def total (u : UsageIndex) : Nat := (u.items.map fun e => u.count e.1).sum

theorem Proper.total_eq {u : UsageIndex} (h : u.Proper) :
    u.total = (u.items.map fun e => e.2.length).sum := by
  refine congrArg List.sum (List.map_congr_left fun e he => ?_)
  have found : u.items.lookup e.1 = some e.2 := (lookup_eq_some_iff_mem h.nodup e.1 e.2).2 he
  rw [count, filesFor, found, Option.getD_some]

theorem total_add {u : UsageIndex} (h : u.Proper) (name file : String) :
    (u.add name file).total = u.total + 1 := by
  have sum := sum_length_putEntry name (u.filesFor name ++ [file]) u.items
  rw [(h.add name file).total_eq, h.total_eq]
  rw [List.length_append, List.length_singleton] at sum
  have old : ((u.items.lookup name).getD []).length = (u.filesFor name).length := rfl
  simp only [add]
  omega

/-- Every reference is counted once. -/
theorem total_extend (names : List String) (file : String) {u : UsageIndex} (h : u.Proper) :
    (u.extend names file).total = u.total + names.length := by
  induction names generalizing u with
  | nil => rfl
  | cons name names ih =>
    have rest : (u.extend (name :: names) file).total = (u.add name file).total + names.length :=
      ih (h.add name file)
    rw [rest, total_add h, List.length_cons]
    omega

end UsageIndex

namespace Scan

open Extraction Syntax

/-! ## What single files contribute -/

/-- The names of the classes in the trees that a parser gives for PHP files have no dot. -/
def DotlessClasses (parser : SourceParser) : Prop :=
  ∀ path bytes root sentinel, parser .php path bytes = .tree root →
    ∀ c ∈ phpCaptures sentinel root, c.name = .className → '.' ∉ c.text.toList

/-- A definition of a PHP file: its key is a namespace and a class name, which is the text of a
capture. -/
theorem key_of_classDefinitionOf {markers : ClassMarkers} {cs : List Capture} {path : String}
    {d : Definition} (h : classDefinitionOf markers cs path = some d) :
    d.fileName = path ∧ ∃ space, ∃ c ∈ cs, c.name = .className ∧
      d.qualifiedKey = space ++ "\\" ++ c.text := by
  unfold classDefinitionOf at h
  split at h
  · next space cls hs hc =>
    simp only at h
    split at h
    · cases h
    · next filled =>
      obtain rfl := Option.some.inj h
      refine ⟨rfl, space.text, ?_⟩
      cases found : cs.find? fun c => c.name == .className && isChildOf cls.path c with
      | none => simp [found] at filled
      | some c =>
        have here := List.find?_some found
        simp only [Bool.and_eq_true, beq_iff_eq] at here
        exact ⟨c, List.mem_of_find?_eq_some found, here.1, by simp⟩
  · cases h

namespace Method

variable {m : Method} {path : String} {bytes : ByteArray}

/-- What is known of a file that can be taken apart. -/
theorem examine_eq_ok {c : Contribution} (h : m.examine path bytes = .ok c) :
    Dialect.ofPath? path = some c.dialect ∧ ∃ root cs, m.parser c.dialect path bytes = .tree root ∧
      m.extractor.captures c.dialect root = .ok cs ∧
      c.definition = m.extractor.definitionOf c.dialect path cs := by
  unfold examine at h
  split at h
  · cases h
  · next d hd =>
    split at h
    · cases h
    · next root ht =>
      simp only [Extractor.definition] at h
      cases hc : m.extractor.captures d root with
      | error p => rw [hc] at h; cases h
      | ok cs =>
        rw [hc] at h
        obtain rfl := Except.ok.inj h
        refine ⟨hd, root, cs, ?_, hc, rfl⟩
        unfold treeOf at ht
        split at ht
        · next hp => rw [hp, Except.ok.inj ht]
        · cases ht
        · cases ht
        · cases ht

/-- A file of a known dialect is never refused for want of one. -/
theorem code_of_examine {d : Dialect} (known : Dialect.ofPath? path = some d) {f : Failure}
    (h : m.examine path bytes = .error f) : f.problem.code ≠ .unsupportedDialect := by
  have parsing : ∀ outcome p, treeOf d path outcome = .error p → p.code ≠ .unsupportedDialect := by
    intro outcome p ht
    cases outcome <;> cases ht <;> simp [Problem.parseFailed, Problem.unexpected]
  have querying : ∀ root p, m.extractor.captures d root = .error p →
      p.code ≠ .unsupportedDialect := by
    intro root p hc
    unfold Extractor.captures at hc
    split at hc
    · cases hc
    · split at hc
      · cases hc
      · cases hc
        simp [Problem.unexpected]
  unfold examine at h
  rw [known] at h
  simp only at h
  split at h
  · next p ht =>
    obtain rfl := Except.error.inj h
    exact parsing _ p ht
  · next root ht =>
    cases hc : m.extractor.captures d root with
    | ok cs => simp [Extractor.definition, hc, Except.map] at h
    | error p =>
      simp only [Extractor.definition, hc, Except.map] at h
      obtain rfl := Except.error.inj h
      exact querying root p hc

end Method

/-- Whether this is a file of some dialect that was read. -/
def Read.isOf (d : Dialect) (r : Read) : Bool :=
  match r.content with
  | .ok _ => decide (Dialect.ofPath? r.path = some d)
  | .error _ => false

/-- A file has one dialect. -/
theorem Read.eq_of_isOf {r : Read} {d d' : Dialect} (h : r.isOf d = true) (h' : r.isOf d' = true) :
    d = d' := by
  unfold Read.isOf at h h'
  cases hc : r.content with
  | error e => simp [hc] at h
  | ok bytes =>
    simp only [hc, decide_eq_true_eq] at h h'
    exact Option.some.inj (h.symm.trans h')

namespace Method

variable {m : Method} {r : Read}

theorem exists_of_contribution {c : Contribution} (h : m.contribution? r = some c) :
    ∃ bytes, r.content = .ok bytes ∧ m.examine r.path bytes = .ok c := by
  unfold contribution? at h
  cases hc : r.content with
  | error e => simp [hc] at h
  | ok bytes =>
    cases he : m.examine r.path bytes with
    | error f => simp [hc, he] at h
    | ok c' =>
      simp only [hc, he, Option.some.injEq] at h
      exact ⟨bytes, rfl, h ▸ he⟩

theorem countsAs_eq (parses : m.Parses r) (d : Dialect) : m.countsAs d r = r.isOf d := by
  unfold countsAs contribution? Read.isOf
  cases hc : r.content with
  | error e => rfl
  | ok bytes =>
    obtain ⟨c, he⟩ := parses bytes hc
    simp only [he, Option.any_some, (examine_eq_ok he).1, Option.some.injEq]

/-- What a file gives is about that file. A script file has its path as the key, a PHP file a
qualified name. -/
theorem key_of_definition (dotless : DotlessClasses m.parser) {d : Definition}
    (h : m.definition? r = some d) :
    d.fileName = r.path ∧ (r.isOf .script = true ∧ d.qualifiedKey = r.path ∨
      r.isOf .php = true ∧ ∃ space name, '.' ∉ name.toList ∧
        d.qualifiedKey = space ++ "\\" ++ name) := by
  obtain ⟨c, hc, hd⟩ := Option.bind_eq_some_iff.1 h
  obtain ⟨bytes, hb, he⟩ := exists_of_contribution hc
  obtain ⟨known, root, cs, tree, captured, given⟩ := examine_eq_ok he
  rw [given] at hd
  cases dialect : c.dialect with
  | script =>
    rw [dialect] at known hd
    obtain rfl := Option.some.inj hd
    exact ⟨rfl, .inl ⟨by simp [Read.isOf, hb, known], rfl⟩⟩
  | php =>
    rw [dialect] at known hd tree captured
    obtain ⟨file, space, cap, hmem, named, key⟩ := key_of_classDefinitionOf hd
    refine ⟨file, .inr ⟨by simp [Read.isOf, hb, known], space, cap.text, ?_, key⟩⟩
    simp only [Extractor.captures] at captured
    split at captured
    · obtain rfl := Except.ok.inj captured
      exact dotless r.path bytes root _ tree cap hmem named
    · cases captured

/-- A script file that was read always gives a definition. -/
theorem definition_of_script (parses : m.Parses r) (script : r.isOf .script = true) :
    ∃ d, m.definition? r = some d := by
  unfold Read.isOf at script
  cases hb : r.content with
  | error e => simp [hb] at script
  | ok bytes =>
    obtain ⟨c, he⟩ := parses bytes hb
    obtain ⟨known, root, cs, -, -, given⟩ := examine_eq_ok he
    simp only [hb, decide_eq_true_eq] at script
    obtain dialect : c.dialect = .script := Option.some.inj (known.symm.trans script)
    rw [dialect] at given
    refine ⟨_, Option.bind_eq_some_iff.2 ⟨c, ?_, given⟩⟩
    simp only [contribution?, hb, he]

/-- The keys that PHP files give. -/
def phpKeys (m : Method) (reads : List Read) : List String :=
  ((reads.filter (Read.isOf .php)).filterMap m.definition?).map Definition.qualifiedKey

end Method

/-! ## What the reads contribute together -/

section Reads

variable {m : Method} {reads : List Read}

/-- Each read counts once. -/
theorem countP_add_countP (parses : ∀ r ∈ reads, m.Parses r) :
    reads.countP (m.countsAs .php) + reads.countP (m.countsAs .script) +
      (reads.filterMap Read.failure?).length = reads.length := by
  induction reads with
  | nil => rfl
  | cons r reads ih =>
    have rest := ih fun x hx => parses x (List.mem_cons_of_mem r hx)
    rw [List.countP_cons, List.countP_cons, List.filterMap_cons, List.length_cons]
    have one := m.countsAs_eq (parses r List.mem_cons_self)
    unfold Read.isOf at one
    cases hc : r.content with
    | error e =>
      simp only [one, hc, Read.failure?, Bool.false_eq_true, if_false, List.length_cons]
      omega
    | ok bytes =>
      obtain ⟨c, he⟩ := parses r List.mem_cons_self bytes hc
      have known := (Method.examine_eq_ok he).1
      cases hd : c.dialect <;> rw [hd] at known <;>
        simp [one, hc, Read.failure?, known] <;> omega

theorem total_foldl (reads : List Read) {u : UsageIndex} (h : u.Proper) :
    (reads.foldl (fun u r => u.extend (m.references r) r.path) u).total =
      u.total + (reads.map fun r => (m.references r).length).sum := by
  induction reads generalizing u with
  | nil => simp
  | cons r reads ih =>
    rw [List.foldl_cons, ih (h.extend _ _), UsageIndex.total_extend _ _ h, List.map_cons,
      List.sum_cons]
    omega

/-- Every definition is that of a file that was read. -/
theorem exists_read_of_definition (dotless : DotlessClasses m.parser) {d : Definition}
    (hd : d ∈ (Store.ofList (reads.filterMap m.definition?)).definitions) :
    ∃ r ∈ reads, r.path = d.fileName ∧ ∃ bytes, r.content = .ok bytes := by
  obtain ⟨r, hr, hrd⟩ := List.mem_filterMap.1 (Store.mem_of_mem_definitions_ofList hd)
  obtain ⟨c, hc, -⟩ := Option.bind_eq_some_iff.1 hrd
  obtain ⟨bytes, hb, -⟩ := Method.exists_of_contribution hc
  exact ⟨r, hr, (Method.key_of_definition dotless hrd).1.symm, bytes, hb⟩

/-- Files that have a dialect are not refused for want of one. -/
theorem code_of_stops (known : ∀ r ∈ reads, ∃ d, Dialect.ofPath? r.path = some d) {f : Failure}
    (stops : m.Stops reads f) : f.problem.code ≠ .unsupportedDialect := by
  obtain ⟨before, r, after, bytes, rfl, -, -, he⟩ := stops
  obtain ⟨d, hd⟩ := known r (by simp)
  exact Method.code_of_examine hd he

variable (dotless : DotlessClasses m.parser) (parses : ∀ r ∈ reads, m.Parses r)
  (distinct : (reads.map Read.path).Nodup)
  (sourced : ∀ r ∈ reads, ∃ names, (∀ n ∈ names, EntryName n) ∧ r.path = pathText names ∧
    ∃ d, Dialect.ofPath? r.path = some d)

include dotless distinct sourced

/-- No other file gives the key of a script file. -/
theorem eq_of_gives {r x : Read} (hr : r ∈ reads) (hx : x ∈ reads) (gives : m.Gives x r.path) :
    x = r := by
  obtain ⟨d, hd, key⟩ := gives
  rcases (Method.key_of_definition dotless hd).2 with ⟨-, own⟩ | ⟨-, space, name, noDot, qualified⟩
  · exact List.inj_on_of_nodup_map distinct hx hr (own.symm.trans key)
  · obtain ⟨names, proper, path, dialect, known⟩ := sourced r hr
    rw [path] at known key
    exact absurd (key.symm.trans qualified) (Dialect.ne_qualified proper known space noDot)

/-- A definition that a file gives under its own path stays. -/
theorem get?_own {r : Read} {d : Definition} (hr : r ∈ reads) (hd : m.definition? r = some d)
    (own : d.qualifiedKey = r.path) :
    (Store.ofList (reads.filterMap m.definition?)).get? r.path = some d := by
  obtain ⟨before, after, split⟩ := List.append_of_mem hr
  refine (m.get?_store_iff reads r.path d).2 ⟨before, r, after, split, hd, own, ?_⟩
  intro x hx gives
  have here : x ∈ reads := by simp [split, hx]
  obtain rfl := eq_of_gives dotless distinct sourced hr here gives
  rw [split, List.map_append, List.map_cons] at distinct
  have apart := (List.nodup_append.1 distinct).2.1
  exact (List.nodup_cons.1 apart).1 (List.mem_map_of_mem hx)

include parses

/-- A script file has one definition in the end, its own. -/
theorem one_of_script {r : Read} (hr : r ∈ reads) (script : r.isOf .script = true) :
    ∃ d, m.definition? r = some d ∧ d.qualifiedKey = r.path ∧ d.fileName = r.path ∧
      (Store.ofList (reads.filterMap m.definition?)).get? r.path = some d ∧
      (Store.ofList (reads.filterMap m.definition?)).definitions.filter
        (fun e => e.fileName = r.path) = [d] := by
  obtain ⟨d, hd⟩ := Method.definition_of_script (parses r hr) script
  obtain ⟨file, keys⟩ := Method.key_of_definition dotless hd
  have own : d.qualifiedKey = r.path := by
    rcases keys with ⟨-, own⟩ | ⟨php, -⟩
    · exact own
    · cases Read.eq_of_isOf script php
  have found := get?_own dotless distinct sourced hr hd own
  refine ⟨d, hd, own, file, found, ?_⟩
  have proper := Store.proper_ofList (reads.filterMap m.definition?)
  refine List.perm_singleton.1 ((List.perm_ext_iff_of_nodup
    (proper.nodup_definitions.filter _) (List.nodup_singleton d)).2 fun e => ?_)
  rw [List.mem_filter, List.mem_singleton, decide_eq_true_eq]
  constructor
  · rintro ⟨he, same⟩
    obtain ⟨x, hx, hxd⟩ := List.mem_filterMap.1 (Store.mem_of_mem_definitions_ofList he)
    have path : x.path = r.path := (Method.key_of_definition dotless hxd).1.symm.trans same
    rw [List.inj_on_of_nodup_map distinct hx hr path, hd] at hxd
    exact (Option.some.inj hxd).symm
  · rintro rfl
    exact ⟨List.mem_map.2 ⟨(r.path, e), (lookup_eq_some_iff_mem proper.nodup _ e).1 found, rfl⟩,
      file⟩

/-- The different keys are the paths of the script files and the keys that PHP files give. -/
theorem dedup_keys_perm :
    ((reads.filterMap m.definition?).map Definition.qualifiedKey).dedup.Perm
      ((reads.filter (Read.isOf .script)).map Read.path ++ (m.phpKeys reads).dedup) := by
  have apart : ∀ key ∈ (reads.filter (Read.isOf .script)).map Read.path,
      key ∉ m.phpKeys reads := by
    intro key hs hp
    obtain ⟨r, hr, rfl⟩ := List.mem_map.1 hs
    obtain ⟨d, hd, key⟩ := List.mem_map.1 hp
    obtain ⟨x, hx, hxd⟩ := List.mem_filterMap.1 hd
    obtain ⟨hr, script⟩ := List.mem_filter.1 hr
    obtain ⟨hx, php⟩ := List.mem_filter.1 hx
    rw [eq_of_gives dotless distinct sourced hr hx ⟨d, hxd, key⟩] at php
    cases Read.eq_of_isOf script php
  have scripts : ((reads.filter (Read.isOf .script)).map Read.path).Nodup :=
    distinct.sublist (List.filter_sublist.map _)
  refine (List.perm_ext_iff_of_nodup (List.nodup_dedup _) ?_).2 fun key => ?_
  · refine List.nodup_append.2 ⟨scripts, List.nodup_dedup _, fun a ha b hb e => ?_⟩
    exact apart a ha (List.mem_dedup.1 (e ▸ hb))
  · simp only [List.mem_dedup, List.mem_append, List.mem_map, List.mem_filterMap, List.mem_filter,
      Method.phpKeys]
    constructor
    · rintro ⟨d, ⟨r, hr, hd⟩, rfl⟩
      rcases (Method.key_of_definition dotless hd).2 with ⟨script, own⟩ | ⟨php, -⟩
      · exact .inl ⟨r, ⟨hr, script⟩, own.symm⟩
      · exact .inr ⟨d, ⟨r, ⟨hr, php⟩, hd⟩, rfl⟩
    · rintro (⟨r, ⟨hr, script⟩, rfl⟩ | ⟨d, ⟨r, ⟨hr, -⟩, hd⟩, rfl⟩)
      · obtain ⟨d, hd, own, -⟩ := one_of_script dotless parses distinct sourced hr script
        exact ⟨d, ⟨r, hr, hd⟩, own⟩
      · exact ⟨d, ⟨r, hr, hd⟩, rfl⟩

/-- There is one definition for each script file and each different key of the PHP files. -/
theorem size_definitions :
    (Store.ofList (reads.filterMap m.definition?)).size =
      reads.countP (m.countsAs .script) + (m.phpKeys reads).dedup.length := by
  have scripts : reads.countP (m.countsAs .script) = (reads.filter (Read.isOf .script)).length := by
    rw [← List.countP_eq_length_filter]
    exact List.countP_congr fun r hr => by rw [m.countsAs_eq (parses r hr)]
  rw [Store.size_ofList, (dedup_keys_perm dotless parses distinct sourced).length_eq,
    List.length_append, List.length_map, scripts]

end Reads

/-! ## The account of a scan -/

/-- Every file that an enumeration lists is listed once, is reached by proper names, and has a
dialect. -/
theorem enumerate_spec {j : Job} {tree : Tree} (wf : tree.WellFormed) {paths : List String}
    (listed : (j.enumerate tree).2 = .ok paths) :
    paths.Nodup ∧ ∀ p ∈ paths, ∃ names, (∀ n ∈ names, EntryName n) ∧ p = pathText names ∧
      ∃ d, Dialect.ofPath? p = some d := by
  unfold Job.enumerate at listed
  split at listed
  · cases listed
  · next e made =>
    obtain rfl := Except.ok.inj listed
    have order : (e.paths tree).Pairwise PathBefore :=
      (pairwise_walk wf (List.forall_mem_nil EntryName)).filter e.accepts
    refine ⟨order.imp fun {p q} before same => ?_, fun p hp => ?_⟩
    · rw [PathBefore, same] at before
      exact WalkBefore.irrefl _ before
    · obtain ⟨visited, accepted⟩ := List.mem_filter.1 hp
      rw [Enumerator.visited, ← pathText_nil, mem_walk_iff wf (List.forall_mem_nil _)] at visited
      obtain ⟨names, -, rfl, reached⟩ := visited
      refine ⟨names, reached.entryName wf (List.forall_mem_nil _), rfl, ?_⟩
      unfold Enumerator.accepts Enumerator.rejection at accepted
      cases known : Dialect.ofPath? (pathText ([] ++ names)) with
      | some d => exact ⟨d, rfl⟩
      | none =>
        rw [known] at accepted
        cases accepted

/-- The account of a scan that read these files in this order. -/
structure Accounts (j : Job) (paths : List String) (reads : List Read) (result : Result)
    (s : Stats) : Prop where
  enumerated : s.filesEnumerated = paths.length
  files : s.filesEnumerated = s.phpFiles + s.scriptFiles + s.readFailures
  scripts : ∀ r ∈ reads, r.isOf .script = true → ∃ d, j.method.definition? r = some d ∧
    d.fileName = r.path ∧ result.definitions.get? r.path = some d ∧
    result.definitions.definitions.filter (fun e => e.fileName = r.path) = [d]
  size : s.records = result.definitions.size
  records : s.records = s.scriptFiles + (j.method.phpKeys reads).dedup.length
  origin : ∀ d ∈ result.definitions.definitions, d.fileName ∈ paths ∧
    ∃ r ∈ reads, r.path = d.fileName ∧ ∃ bytes, r.content = .ok bytes
  references : ∀ u, result.usages = some u →
    u.total = (reads.map fun r => (j.method.references r).length).sum

/-- **The account of a scan.** For every tree, every configuration and every order in which the reads
are completed: no file is refused for want of a dialect, and when there is a result, every file is
counted once and every script file has its one definition. -/
theorem finish_accounts (j : Job) {tree : Tree} (wf : tree.WellFormed)
    (dotless : DotlessClasses j.parser) {paths : List String}
    (listed : (j.enumerate tree).2 = .ok paths) {reads : List Read}
    (order : reads.Perm (paths.map j.readOf)) :
    (∀ p, (j.finish paths.length reads).2 = .error (.problem p) → p.code ≠ .unsupportedDialect) ∧
    ∀ result, (j.finish paths.length reads).2 = .ok result →
      ∃ s, result.stats = some s ∧ Accounts j paths reads result s := by
  obtain ⟨nodup, known⟩ := enumerate_spec wf listed
  have pathsPerm : (reads.map Read.path).Perm paths := by
    have back : (paths.map j.readOf).map Read.path = paths := by
      rw [List.map_map]
      exact List.map_id paths
    exact back ▸ order.map Read.path
  have distinct : (reads.map Read.path).Nodup := pathsPerm.nodup_iff.2 nodup
  have mem : ∀ r ∈ reads, r.path ∈ paths := fun r hr =>
    pathsPerm.mem_iff.1 (List.mem_map_of_mem hr)
  have sourced := fun r hr => known r.path (mem r hr)
  refine ⟨fun p failed => ?_, fun result done => ?_⟩
  · rcases j.method.parses_or_stops reads with parses | ⟨f, stops⟩
    · rw [finish_eq j _ parses] at failed
      cases failed
    · rw [finish_of_stops j _ stops] at failed
      cases failed
      exact code_of_stops (fun r hr => (sourced r hr).elim fun _ spec => spec.2.2) stops
  · have parses := (finish_eq_ok_iff j paths.length).1 ⟨result, done⟩
    have eq := finish_eq j paths.length parses
    rw [done] at eq
    obtain rfl := Except.ok.inj eq
    have dotless' : DotlessClasses j.method.parser := dotless
    have store := j.method.store_foldl reads (.start j.trackUsages)
    have unread := j.method.unread_foldl reads (.start j.trackUsages)
    obtain ⟨php, script⟩ := j.method.files_foldl reads (.start j.trackUsages)
    have length : reads.length = paths.length := by
      rw [← pathsPerm.length_eq, List.length_map]
    refine ⟨_, rfl, rfl, ?_, fun r hr hs => ?_, ?_, ?_, fun d hd => ?_, fun u hu => ?_⟩
    · have one := countP_add_countP parses
      simp only [Job.stats, Stats.readFailures, php, script, unread]
      simp only [Gathered.start, List.nil_append, List.length_map]
      omega
    · obtain ⟨d, hd, -, file, found, only⟩ :=
        one_of_script dotless' parses distinct sourced hr hs
      exact ⟨d, hd, file, found, only⟩
    · simp only [Job.stats, store]
      rfl
    · have size := size_definitions dotless' parses distinct sourced
      have counted := script.trans (Nat.zero_add _)
      simp only [Job.stats, store, counted]
      exact size
    · obtain ⟨r, hr, path, bytes, hb⟩ := exists_read_of_definition dotless' hd
      exact ⟨path ▸ mem r hr, r, hr, path, bytes, hb⟩
    · rw [j.method.usages_foldl] at hu
      cases track : j.trackUsages with
      | false => simp [Gathered.start, track] at hu
      | true =>
        simp only [Gathered.start, track, if_true, Option.map_some, Option.some.injEq] at hu
        rw [← hu, total_foldl reads UsageIndex.proper_empty]
        exact Nat.zero_add _

/-! ## A scan of three files -/

/-- Two PHP files and a script. -/
def shopTree : Tree := .dir [("a.php", .file none), ("b.php", .file none), ("c.js", .file none)]

def shopPaths : List String := ["a.php", "b.php", "c.js"]

/-- A scan in which one of the PHP files cannot be read. -/
def shopJob : Job := { oneClassJob with
  settings := ⟨["**/*.php", "**/*.js"], [], false, 8, true⟩
  read := fun p => if p.name = "b.php" then .error (.told "denied") else .ok .empty }

def shopEnumerator : Enumerator where
  includes := ⟨[
    ⟨true, .atoms [.leadingDirs, .many, .char '.', .char 'p', .char 'h', .char 'p', .close]⟩,
    ⟨true, .atoms [.leadingDirs, .many, .char '.', .char 'j', .char 's', .close]⟩]⟩
  excludes := ⟨[]⟩
  ignore := ⟨⟨[], [], []⟩, ⟨[]⟩⟩

theorem wellFormed_shopTree : shopTree.WellFormed := by
  refine .dir (by decide) (by decide) ?_
  simp only [List.forall_mem_cons]
  exact ⟨.file _, .file _, .file _, List.forall_mem_nil _⟩

theorem enumerate_shopTree : (shopJob.enumerate shopTree).2 = .ok shopPaths := by
  have lines : loadTree (ignoreNames false) "" shopTree = ⟨[], [], []⟩ := by
    rw [shopTree, loadTree, loadEntries_eq, List.mergeSort_of_pairwise (by decide +kernel)]
    decide +kernel
  have made : Enumerator.make shopTree ["**/*.php", "**/*.js"] [] false = .ok shopEnumerator := by
    unfold Enumerator.make IgnoreChecker.load
    rw [lines]
    rfl
  have paths : shopEnumerator.paths shopTree = shopPaths := by
    unfold Enumerator.paths Enumerator.visited shopTree
    rw [walk, Text.sort, List.mergeSort_of_pairwise (by decide +kernel), walkEntries_eq,
      List.mergeSort_of_pairwise (by decide +kernel)]
    decide +kernel
  have settings : shopJob.settings = ⟨["**/*.php", "**/*.js"], [], false, 8, true⟩ := rfl
  rw [Job.enumerate, settings]
  simp only [made, paths]

theorem dotless_oneClass : DotlessClasses oneClass := by
  intro path bytes root sentinel h c hc named
  obtain rfl := ParserOutcome.tree.inj h
  rw [phpCaptures, List.mem_mergeSort, List.mem_flatMap] at hc
  obtain ⟨place, found, hc⟩ := hc
  revert named
  simp only [nodesAt, nodesOf, List.mem_append, List.mem_cons, List.not_mem_nil, or_false,
    List.append_nil, or_assoc] at found
  -- One case for each node of the tree.
  rcases found with rfl | rfl | rfl | rfl | rfl
  all_goals
    revert c
    simp [phpCapturesAt, Node.kind, capturesOf, ofKind, inField, childrenAt, Node.children,
      Node.field, Capture.text, Node.text]

/-- The account of that scan, with its reads completed from the last to the first. -/
theorem finish_accounts_shop : shopTree.WellFormed ∧ DotlessClasses shopJob.parser ∧
    (shopJob.enumerate shopTree).2 = .ok shopPaths ∧
    ∃ result s, (shopJob.finish shopPaths.length (shopPaths.map shopJob.readOf).reverse).2 =
      .ok result ∧ result.stats = some s ∧
      Accounts shopJob shopPaths (shopPaths.map shopJob.readOf).reverse result s := by
  have parses : ∀ r ∈ (shopPaths.map shopJob.readOf).reverse, shopJob.method.Parses r := by
    intro r hr
    obtain ⟨p, hp, rfl⟩ := List.mem_map.1 (List.mem_reverse.1 hr)
    obtain ⟨-, -, -, d, known⟩ := (enumerate_spec wellFormed_shopTree enumerate_shopTree).2 p hp
    cases d with
    | php => exact Method.parses_of_tree _ known (fun _ => _) (fun _ => _) (fun _ => rfl) fun _ => rfl
    | script =>
      exact Method.parses_of_tree _ known (fun _ => _) (fun _ => _) (fun _ => rfl) fun _ => rfl
  obtain ⟨result, done⟩ := (finish_eq_ok_iff shopJob shopPaths.length).2 parses
  obtain ⟨s, counted, accounts⟩ := (finish_accounts shopJob wellFormed_shopTree dotless_oneClass
    enumerate_shopTree (List.reverse_perm _)).2 result done
  exact ⟨wellFormed_shopTree, dotless_oneClass, enumerate_shopTree, result, s, done, counted,
    accounts⟩

end Scan

end DomainAtlas
