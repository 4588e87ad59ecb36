import DomainAtlas.Proofs.Index.Store
import DomainAtlas.Scan.Run
import Mathlib.Data.List.Induction

/-!
# What a scan gathers, whatever the order of its reads

When no file fails to parse, gathering is a fold over the reads (`Method.gather_eq`), and each part of
what was gathered is a fold of its own over what the single reads contribute. From that follows what
depends on the order in which reads are completed and what does not.

Results:
* `Method.get?_store_iff`: the definition at a key is that of the last read that gives the key.
* `Method.filesFor_usages`: a name has the files of all reads, one entry per reference.
* `finish_perm`: two orders of the same reads lead to the same keys, the same definition at every key
  that one file alone gives, the same names with the same files up to order, and the same counters.
-/
namespace DomainAtlas.Scan

/-! ## The last of its kind -/

/-- The `P` with no `Q` behind it, when a list grows at its end. -/
theorem exists_last_concat {α : Type} {P Q : α → Prop} (l : List α) (a : α) :
    (∃ before x after, l ++ [a] = before ++ x :: after ∧ P x ∧ ∀ y ∈ after, ¬ Q y) ↔
      P a ∨ (¬ Q a ∧ ∃ before x after, l = before ++ x :: after ∧ P x ∧ ∀ y ∈ after, ¬ Q y) := by
  constructor
  · rintro ⟨before, x, after, he, hx, hno⟩
    rcases List.eq_nil_or_concat after with rfl | ⟨rest, y, rfl⟩
    · obtain rfl : a = x := by simpa using (List.append_inj' he rfl).2
      exact .inl hx
    · rw [List.concat_eq_append] at he hno
      rw [← List.cons_append, ← List.append_assoc] at he
      have hy := List.append_inj' he rfl
      obtain rfl : a = y := by simpa using hy.2
      exact .inr ⟨hno a (by simp), before, x, rest, hy.1, hx,
        fun z hz => hno z (List.mem_append_left _ hz)⟩
  · rintro (ha | ⟨hno, before, x, after, rfl, hx, hrest⟩)
    · exact ⟨l, a, [], rfl, ha, by simp⟩
    · refine ⟨before, x, after ++ [a], by simp, hx, fun z hz => ?_⟩
      rcases List.mem_append.1 hz with hz | hz
      · exact hrest z hz
      · exact List.mem_singleton.1 hz ▸ hno

/-! ## Reads -/

/-- The failure of a read, with its path. -/
def Read.failure? (r : Read) : Option (String × OsError) :=
  match r.content with
  | .error e => some (r.path, e)
  | .ok _ => none

namespace Method

variable (m : Method)

/-- The file was not read, or it can be taken apart. -/
def Parses (r : Read) : Prop := ∀ bytes, r.content = .ok bytes → ∃ c, m.examine r.path bytes = .ok c

/-- A file parses when its ending is known, there is a tree, and the query is well formed. -/
theorem parses_of_tree {r : Read} {d : Dialect} (hd : Dialect.ofPath? r.path = some d)
    (root : ByteArray → Syntax.Node) (cs : ByteArray → List Syntax.Capture)
    (ht : ∀ bytes, m.parser d r.path bytes = .tree (root bytes))
    (hc : ∀ bytes, m.extractor.captures d (root bytes) = .ok (cs bytes)) : m.Parses r := by
  intro bytes _
  refine ⟨⟨d, (root bytes).faultCount, m.extractor.definitionOf d r.path (cs bytes),
    Extraction.Extractor.usagesOf d (root bytes)⟩, ?_⟩
  rw [examine]
  simp only [hd, ht, Extraction.treeOf, Extraction.Extractor.definition, hc]
  rfl

/-- What a read contributes; nothing if the file was not read. -/
def contribution? (r : Read) : Option Contribution :=
  match r.content with
  | .error _ => none
  | .ok bytes =>
    match m.examine r.path bytes with
    | .error _ => none
    | .ok c => some c

def definition? (r : Read) : Option Definition := (m.contribution? r).bind Contribution.definition

/-- The names a read refers to. -/
def references (r : Read) : List String :=
  match m.contribution? r with
  | none => []
  | some c => c.usages

def countsAs (d : Dialect) (r : Read) : Bool := (m.contribution? r).any fun c => c.dialect = d

def take (g : Gathered) (r : Read) : Gathered :=
  match r.content with
  | .error e => g.miss r.path e
  | .ok bytes =>
    match m.examine r.path bytes with
    | .error _ => g
    | .ok c => g.add r.path c

theorem gather_cons_error (g : Gathered) {r : Read} {e : OsError} (h : r.content = .error e)
    (reads : List Read) : m.gather g (r :: reads) = m.gather (g.miss r.path e) reads := by
  rw [gather, h]

theorem gather_cons_ok (g : Gathered) {r : Read} {bytes : ByteArray} {c : Contribution}
    (h : r.content = .ok bytes) (hc : m.examine r.path bytes = .ok c) (reads : List Read) :
    m.gather g (r :: reads) =
      (g.events r.path c ++ (m.gather (g.add r.path c) reads).1,
        (m.gather (g.add r.path c) reads).2) := by
  rw [gather, h]
  simp only [hc]

/-- Gathering is a fold over the reads, as long as every file that was read can be taken apart. -/
theorem gather_eq (g : Gathered) {reads : List Read} (h : ∀ r ∈ reads, m.Parses r) :
    (m.gather g reads).2 = .ok (reads.foldl m.take g) := by
  induction reads generalizing g with
  | nil => rfl
  | cons r reads ih =>
    have hr := h r List.mem_cons_self
    have hrest := fun x hx => h x (List.mem_cons_of_mem r hx)
    rw [List.foldl_cons, take]
    cases hc : r.content with
    | error e => rw [gather_cons_error m g hc]; exact ih _ hrest
    | ok bytes =>
      obtain ⟨c, hok⟩ := hr bytes hc
      rw [gather_cons_ok m g hc hok]
      simp only [hok]
      exact ih _ hrest

/-! ## The parts of what was gathered -/

theorem take_cases (g : Gathered) (r : Read) :
    (∃ e, r.content = .error e ∧ m.contribution? r = none ∧ m.take g r = g.miss r.path e) ∨
    (∃ bytes c, r.content = .ok bytes ∧ m.contribution? r = some c ∧ m.take g r = g.add r.path c) ∨
    (∃ bytes, r.content = .ok bytes ∧ m.contribution? r = none ∧ m.take g r = g) := by
  unfold take contribution?
  cases hc : r.content with
  | error e => exact .inl ⟨e, rfl, rfl, rfl⟩
  | ok bytes =>
    cases he : m.examine r.path bytes with
    | error f => exact .inr (.inr ⟨bytes, rfl, by simp [he], by simp [he]⟩)
    | ok c => exact .inr (.inl ⟨bytes, c, rfl, by simp [he], by simp [he]⟩)

theorem store_foldl (reads : List Read) (g : Gathered) :
    (reads.foldl m.take g).store = (reads.filterMap m.definition?).foldl Store.insert g.store := by
  induction reads generalizing g with
  | nil => rfl
  | cons r reads ih =>
    rw [List.foldl_cons, ih, List.filterMap_cons]
    rcases m.take_cases g r with ⟨e, -, hc, ht⟩ | ⟨bytes, c, -, hc, ht⟩ | ⟨bytes, -, hc, ht⟩
    · simp [definition?, hc, ht, Gathered.miss]
    · cases hd : c.definition <;> simp [definition?, hc, ht, Gathered.add, hd]
    · simp [definition?, hc, ht]

theorem usages_foldl (reads : List Read) (g : Gathered) :
    (reads.foldl m.take g).usages =
      g.usages.map fun u => reads.foldl (fun u r => u.extend (m.references r) r.path) u := by
  induction reads generalizing g with
  | nil => cases h : g.usages <;> simp [h]
  | cons r reads ih =>
    rw [List.foldl_cons, ih]
    rcases m.take_cases g r with ⟨e, -, hc, ht⟩ | ⟨bytes, c, -, hc, ht⟩ | ⟨bytes, -, hc, ht⟩
    · simp [references, hc, ht, Gathered.miss, UsageIndex.extend]
    · cases hu : g.usages <;> simp [references, hc, ht, Gathered.add, hu]
    · simp [references, hc, ht, UsageIndex.extend]

theorem files_foldl (reads : List Read) (g : Gathered) :
    (reads.foldl m.take g).phpFiles = g.phpFiles + reads.countP (m.countsAs .php) ∧
    (reads.foldl m.take g).scriptFiles = g.scriptFiles + reads.countP (m.countsAs .script) := by
  induction reads generalizing g with
  | nil => exact ⟨rfl, rfl⟩
  | cons r reads ih =>
    rw [List.foldl_cons, (ih _).1, (ih _).2, List.countP_cons, List.countP_cons]
    rcases m.take_cases g r with ⟨e, -, hc, ht⟩ | ⟨bytes, c, -, hc, ht⟩ | ⟨bytes, -, hc, ht⟩
    · simp [countsAs, hc, ht, Gathered.miss]
    · cases hd : c.dialect <;> simp [countsAs, hc, ht, Gathered.add, hd] <;> omega
    · simp [countsAs, hc, ht]

theorem unread_foldl (reads : List Read) (g : Gathered) :
    (reads.foldl m.take g).unread = g.unread ++ reads.filterMap Read.failure? := by
  induction reads generalizing g with
  | nil => simp
  | cons r reads ih =>
    rw [List.foldl_cons, ih, List.filterMap_cons]
    rcases m.take_cases g r with ⟨e, hr, -, ht⟩ | ⟨bytes, c, hr, -, ht⟩ | ⟨bytes, hr, -, ht⟩
    · simp [Read.failure?, hr, ht, Gathered.miss]
    · simp [Read.failure?, hr, ht, Gathered.add]
    · simp [Read.failure?, hr, ht]

/-! ## Definitions: the last read decides -/

/-- A read gives a definition with this key. -/
def Gives (r : Read) (key : String) : Prop := ∃ d, m.definition? r = some d ∧ d.qualifiedKey = key

/-- Of the reads that give a key, the last one gives this definition. -/
def LastGives (reads : List Read) (key : String) (d : Definition) : Prop :=
  ∃ before r after, reads = before ++ r :: after ∧ m.definition? r = some d ∧
    d.qualifiedKey = key ∧ ∀ x ∈ after, ¬ m.Gives x key

theorem lastGives_concat (reads : List Read) (r : Read) (key : String) (d : Definition) :
    m.LastGives (reads ++ [r]) key d ↔
      (m.definition? r = some d ∧ d.qualifiedKey = key) ∨
      (¬ m.Gives r key ∧ m.LastGives reads key d) := by
  have last := exists_last_concat (P := fun r => m.definition? r = some d ∧ d.qualifiedKey = key)
    (Q := fun x => m.Gives x key) reads r
  simp only [and_assoc] at last
  exact last

theorem get?_store_iff (reads : List Read) (key : String) (d : Definition) :
    (Store.ofList (reads.filterMap m.definition?)).get? key = some d ↔ m.LastGives reads key d := by
  unfold Store.ofList
  induction reads using List.reverseRecOn with
  | nil => simp [LastGives]
  | append_singleton reads r ih =>
    rw [lastGives_concat, List.filterMap_append, List.foldl_append, ← ih]
    cases hr : m.definition? r with
    | none => simp [hr, Gives]
    | some e =>
      simp only [hr, List.filterMap_cons, List.filterMap_nil, List.foldl_cons, List.foldl_nil,
        Store.get?_insert, Gives, Option.some.injEq, exists_eq_left']
      by_cases hk : key = e.qualifiedKey
      · subst hk
        simp only [↓reduceIte, Option.some.injEq, not_true_eq_false, false_and, or_false]
        exact ⟨fun h => ⟨h, h ▸ rfl⟩, fun h => h.1⟩
      · rw [if_neg hk]
        constructor
        · exact fun h => .inr ⟨fun e' => hk e'.symm, h⟩
        · rintro (⟨rfl, h⟩ | ⟨-, h⟩)
          · exact absurd h.symm hk
          · exact h

theorem mem_keys_iff (reads : List Read) (key : String) :
    key ∈ (Store.ofList (reads.filterMap m.definition?)).keys ↔ ∃ r ∈ reads, m.Gives r key := by
  have proper := Store.proper_ofList (reads.filterMap m.definition?)
  have get_iff := m.get?_store_iff reads key
  constructor
  · intro h
    obtain ⟨⟨k, d⟩, he, rfl⟩ := List.mem_map.1 h
    have hg := (lookup_eq_some_iff_mem proper.nodup k d).2 he
    obtain ⟨before, r, after, rfl, hd, hk, -⟩ := (get_iff d).1 hg
    exact ⟨r, by simp, d, hd, hk⟩
  · rintro ⟨r, hr, d, hd, rfl⟩
    cases hg : (Store.ofList (reads.filterMap m.definition?)).get? d.qualifiedKey with
    | some e =>
      exact List.mem_map.2 ⟨_, (lookup_eq_some_iff_mem proper.nodup _ e).1 hg, rfl⟩
    | none =>
      have hin : d ∈ reads.filterMap m.definition? := List.mem_filterMap.2 ⟨r, hr, hd⟩
      rw [Store.get?_ofList, List.getLast?_eq_none_iff, List.filter_eq_nil_iff] at hg
      simp only [decide_eq_true_eq] at hg
      exact absurd rfl (hg d hin)

/-! ## References -/

theorem filesFor_usages (reads : List Read) (u : UsageIndex) (name : String) :
    (reads.foldl (fun u r => u.extend (m.references r) r.path) u).filesFor name =
      u.filesFor name ++
        reads.flatMap fun r => List.replicate ((m.references r).count name) r.path := by
  induction reads generalizing u with
  | nil => simp
  | cons r reads ih =>
    rw [List.foldl_cons, ih, UsageIndex.filesFor_extend, List.flatMap_cons, List.append_assoc]

theorem proper_usages (reads : List Read) {u : UsageIndex} (h : u.Proper) :
    (reads.foldl (fun u r => u.extend (m.references r) r.path) u).Proper := by
  induction reads generalizing u with
  | nil => exact h
  | cons r reads ih => exact ih (h.extend _ _)

end Method

/-! ## Two orders of the same reads -/

/-- Two usage indexes, where there are any, list the same names with the same files up to order. -/
def SameReferences : Option UsageIndex → Option UsageIndex → Prop
  | none, none => True
  | some u, some v =>
    ∀ name, u.contains name = v.contains name ∧ (u.filesFor name).Perm (v.filesFor name)
  | _, _ => False

/-- The counters of two scans are the same, and so are the unread paths up to order. -/
structure SameCounters (s t : Stats) : Prop where
  filesEnumerated : s.filesEnumerated = t.filesEnumerated
  phpFiles : s.phpFiles = t.phpFiles
  scriptFiles : s.scriptFiles = t.scriptFiles
  records : s.records = t.records
  readFailures : s.readFailures = t.readFailures
  readFailedPaths : s.readFailedPaths.Perm t.readFailedPaths

section Orders

variable (m : Method) {reads other : List Read} (order : reads.Perm other)

include order

theorem gives_perm (key : String) :
    (∃ r ∈ reads, m.Gives r key) ↔ ∃ r ∈ other, m.Gives r key := by
  simp only [order.mem_iff]

theorem keys_perm : (Store.ofList (reads.filterMap m.definition?)).keys.Perm
    (Store.ofList (other.filterMap m.definition?)).keys := by
  refine (List.perm_ext_iff_of_nodup (Store.proper_ofList _).nodup (Store.proper_ofList _).nodup).2 ?_
  intro key
  exact (m.mem_keys_iff reads key).trans ((gives_perm m order key).trans (m.mem_keys_iff other key).symm)

/-- A key that one file alone gives has the same definition in both orders. -/
theorem get?_perm (distinct : (reads.map Read.path).Nodup) (key : String)
    (one : ∀ r ∈ reads, ∀ x ∈ reads, m.Gives r key → m.Gives x key → r.path = x.path) :
    (Store.ofList (reads.filterMap m.definition?)).get? key =
      (Store.ofList (other.filterMap m.definition?)).get? key := by
  have agree : ∀ {rs : List Read} {d e : Definition}, (∀ r ∈ rs, r ∈ reads) → ∀ x ∈ reads,
      m.definition? x = some e → e.qualifiedKey = key →
      (Store.ofList (rs.filterMap m.definition?)).get? key = some d → d = e := by
    intro rs d e sub x hx he hk hd
    obtain ⟨before, r, after, rfl, hr, hkr, -⟩ := (m.get?_store_iff rs key d).1 hd
    have hmem : r ∈ reads := sub r (by simp)
    have hpath := one r hmem x hx ⟨d, hr, hkr⟩ ⟨e, he, hk⟩
    obtain rfl : r = x := List.inj_on_of_nodup_map distinct hmem hx hpath
    rw [hr] at he
    exact Option.some.inj he
  have found : ∀ {rs : List Read}, (∃ r ∈ rs, m.Gives r key) →
      ∃ d, (Store.ofList (rs.filterMap m.definition?)).get? key = some d := by
    intro rs h
    obtain ⟨⟨k, d⟩, he, rfl⟩ := List.mem_map.1 ((m.mem_keys_iff rs key).2 h)
    exact ⟨d, (lookup_eq_some_iff_mem (Store.proper_ofList _).nodup k d).2 he⟩
  by_cases h : ∃ r ∈ reads, m.Gives r key
  · obtain ⟨x, hx, e, he, hk⟩ := h
    obtain ⟨d, hd⟩ := found ⟨x, hx, e, he, hk⟩
    obtain ⟨d', hd'⟩ := found ((gives_perm m order key).1 ⟨x, hx, e, he, hk⟩)
    rw [hd, hd', agree (fun _ h => h) x hx he hk hd,
      agree (fun r hr => order.mem_iff.2 hr) x hx he hk hd']
  · have none_of : ∀ {rs : List Read}, ¬ (∃ r ∈ rs, m.Gives r key) →
        (Store.ofList (rs.filterMap m.definition?)).get? key = none := by
      intro rs hno
      rw [Option.eq_none_iff_forall_ne_some]
      intro d hd
      obtain ⟨before, r, after, rfl, hr, hkr, -⟩ := (m.get?_store_iff rs key d).1 hd
      exact hno ⟨r, by simp, d, hr, hkr⟩
    rw [none_of h, none_of fun ho => h ((gives_perm m order key).2 ho)]

theorem sameReferences_perm (trackUsages : Bool) :
    SameReferences (reads.foldl m.take (.start trackUsages)).usages
      (other.foldl m.take (.start trackUsages)).usages := by
  rw [m.usages_foldl, m.usages_foldl]
  cases trackUsages with
  | false => trivial
  | true =>
    intro name
    have files : ((reads.foldl (fun u r => u.extend (m.references r) r.path)
        UsageIndex.empty).filesFor name).Perm ((other.foldl (fun u r =>
          u.extend (m.references r) r.path) UsageIndex.empty).filesFor name) := by
      rw [m.filesFor_usages, m.filesFor_usages]
      exact (order.flatMap_right _).append_left _
    refine ⟨?_, files⟩
    have hu := m.proper_usages reads UsageIndex.proper_empty
    have hv := m.proper_usages other UsageIndex.proper_empty
    rw [Bool.eq_iff_iff, UsageIndex.contains_iff hu, UsageIndex.contains_iff hv, ne_eq, ne_eq,
      ← List.length_eq_zero_iff, ← List.length_eq_zero_iff, files.length_eq]

theorem sameCounters_perm (j : Job) (n : Nat) :
    SameCounters (j.stats n (reads.foldl m.take (.start j.trackUsages)))
      (j.stats n (other.foldl m.take (.start j.trackUsages))) := by
  have unread : ((reads.foldl m.take (.start j.trackUsages)).unread.map Prod.fst).Perm
      ((other.foldl m.take (.start j.trackUsages)).unread.map Prod.fst) := by
    rw [m.unread_foldl, m.unread_foldl]
    exact ((order.filterMap _).append_left _).map _
  refine ⟨rfl, ?_, ?_, ?_, unread.length_eq, unread⟩
  · exact ((m.files_foldl reads _).1.trans (by rw [order.countP_eq])).trans
      (m.files_foldl other _).1.symm
  · exact ((m.files_foldl reads _).2.trans (by rw [order.countP_eq])).trans
      (m.files_foldl other _).2.symm
  · show Store.size _ = Store.size _
    rw [m.store_foldl, m.store_foldl]
    have := (keys_perm m order).length_eq
    simpa [Store.keys, Store.ofList, Store.size, Gathered.start] using this

end Orders

/-- What a scan comes to when every file that was read can be taken apart. -/
theorem finish_eq (j : Job) (n : Nat) {reads : List Read} (h : ∀ r ∈ reads, j.method.Parses r) :
    (j.finish n reads).2 = .ok ⟨Store.ofList (reads.filterMap j.method.definition?),
      (reads.foldl j.method.take (.start j.trackUsages)).usages,
      some (j.stats n (reads.foldl j.method.take (.start j.trackUsages))), false⟩ := by
  have hg := j.method.gather_eq (.start j.trackUsages) h
  have hs := j.method.store_foldl reads (.start j.trackUsages)
  unfold Job.finish
  rcases he : j.method.gather (.start j.trackUsages) reads with ⟨events, gathered⟩
  rw [he] at hg
  simp only at hg
  subst hg
  simp only [hs]
  rfl

/-- **The order of the reads.** For reads of distinct paths, none of which fails to parse, and any two
orders in which they are completed, both scans give a result. The keys are the same; so is the
definition at each key that one file alone gives, and at every key it is that of the last file to give
it; so are the names and the files referring to each, up to order, and the counters. -/
theorem finish_perm (j : Job) (n : Nat) {reads other : List Read}
    (distinct : (reads.map Read.path).Nodup) (order : reads.Perm other)
    (parses : ∀ r ∈ reads, j.method.Parses r) :
    ∃ a b s t, (j.finish n reads).2 = .ok a ∧ (j.finish n other).2 = .ok b ∧
      a.definitions.keys.Perm b.definitions.keys ∧
      (∀ key, (∀ r ∈ reads, ∀ x ∈ reads, j.method.Gives r key → j.method.Gives x key →
          r.path = x.path) → a.definitions.get? key = b.definitions.get? key) ∧
      (∀ key d, (a.definitions.get? key = some d ↔ j.method.LastGives reads key d) ∧
        (b.definitions.get? key = some d ↔ j.method.LastGives other key d)) ∧
      SameReferences a.usages b.usages ∧
      a.stats = some s ∧ b.stats = some t ∧ SameCounters s t := by
  have parses' : ∀ r ∈ other, j.method.Parses r := fun r hr => parses r (order.mem_iff.2 hr)
  refine ⟨_, _, _, _, finish_eq j n parses, finish_eq j n parses', keys_perm _ order, ?_, ?_, ?_,
    rfl, rfl, sameCounters_perm _ order j n⟩
  · exact fun key one => get?_perm _ order distinct key one
  · exact fun key d => ⟨j.method.get?_store_iff reads key d, j.method.get?_store_iff other key d⟩
  · exact sameReferences_perm _ order j.trackUsages

/-- A parser to which every PHP file is one class of one namespace. -/
def oneClass : Extraction.SourceParser := fun d _ _ =>
  match d with
  | .php => .tree (.mk .program none false 0 "" [
      .mk .namespaceDefinition none false 6 "namespace Shop;" [
        .mk .namespaceName (some .name) false 16 "Shop" []],
      .mk .classDeclaration none false 22 "class Cart {}" [.mk .name (some .name) false 28 "Cart" []]])
  | .script => .tree (.mk .program none false 0 "" [])

def oneClassJob : Job :=
  ⟨⟨"/", ["shop"]⟩, .default, .default, true, oneClass, fun _ => .ok .empty, false, .ofInt 0,
    .enumeration⟩

/-- Two files that give the same key, a script, and a file that cannot be read. -/
def clashingReads : List Read :=
  [⟨"a.php", .ok .empty⟩, ⟨"b.php", .ok .empty⟩, ⟨"c.js", .ok .empty⟩,
    ⟨"d.php", .error (.told "denied")⟩]

theorem finish_perm_clash :
    (clashingReads.map Read.path).Nodup ∧ clashingReads.Perm clashingReads.reverse ∧
    (∀ r ∈ clashingReads, oneClassJob.method.Parses r) ∧
    ∃ a b, (oneClassJob.finish 4 clashingReads).2 = .ok a ∧
      (oneClassJob.finish 4 clashingReads.reverse).2 = .ok b ∧
      a.definitions.keys.Perm b.definitions.keys ∧ SameReferences a.usages b.usages := by
  have distinct : (clashingReads.map Read.path).Nodup := by decide
  have order : clashingReads.Perm clashingReads.reverse := (List.reverse_perm _).symm
  have php : ∀ r : Read, Dialect.ofPath? r.path = some .php → oneClassJob.method.Parses r :=
    fun r h => Method.parses_of_tree _ h (fun _ => _) (fun _ => _) (fun _ => rfl) fun _ => rfl
  have script : ∀ r : Read, Dialect.ofPath? r.path = some .script →
      oneClassJob.method.Parses r :=
    fun r h => Method.parses_of_tree _ h (fun _ => _) (fun _ => _) (fun _ => rfl) fun _ => rfl
  have parses : ∀ r ∈ clashingReads, oneClassJob.method.Parses r := by
    simp only [clashingReads, List.forall_mem_cons]
    exact ⟨php _ (by decide +kernel), php _ (by decide +kernel), script _ (by decide +kernel),
      php _ (by decide +kernel), by simp⟩
  obtain ⟨a, b, _, _, ha, hb, keys, _, _, refs, _⟩ := finish_perm oneClassJob 4 distinct order parses
  exact ⟨distinct, order, parses, a, b, ha, hb, keys, refs⟩

end DomainAtlas.Scan
