import DomainAtlas.Proofs.Index.Views
import Mathlib.Algebra.BigOperators.Group.List.Lemmas
import Mathlib.Algebra.BigOperators.Ring.Finset
import Mathlib.Algebra.Field.Rat

/-!
# Rankings by count

Two views of a scan count names and put the most frequent first: the buckets count the domains of the
definitions, and the usages count the names that files refer to. Both are rankings of a list of names
(`Ranking`): every name of the list once, with the number of its occurrences, in strict order. That the
counts add up to the length of the list then holds for both.

The usages also say what a name refers to: the definition that has the name as its key, or else the one
that has it but for a leading separator.

Results:
* `ranking_mergeSort`, `Ranking.total`: what makes a ranking, and what its counts add up to.
* `domainBuckets_partition`: the buckets are a partition of the store.
* `resolveUsage_eq_some_iff`: what a name refers to.
* `usageFrequency_faithful`: the usages account for every reference.
-/
namespace DomainAtlas

/-! ## Rankings -/

/-- The strict order of a ranking: larger counts first, then names in order. -/
def RanksBefore (a b : Nat × String) : Prop := b.1 < a.1 ∨ a.1 = b.1 ∧ a.2 < b.2

/-- The names of a list, each of them once and with the number of its occurrences, in strict order. -/
structure Ranking {α : Type} (name : α → String) (count : α → Nat) (names : List String)
    (entries : List α) : Prop where
  listed : ∀ n, n ∈ entries.map name ↔ n ∈ names
  once : (entries.map name).Nodup
  counted : ∀ e ∈ entries, count e = names.count (name e)
  ordered : entries.Pairwise fun a b => RanksBefore (count a, name a) (count b, name b)

section Rankings

variable {α : Type} {name : α → String} {count : α → Nat} {names : List String} {entries : List α}

theorem ranksBefore_iff (a b : Nat × String) :
    RanksBefore a b ↔ byCount a b = true ∧ (a.1 = b.1 → a.2 ≠ b.2) := by
  rw [byCount_iff, RanksBefore, text_lt_iff]
  constructor
  · rintro (lt | ⟨eq, ne, le⟩)
    · exact ⟨.inl lt, fun eq => absurd eq (by omega)⟩
    · exact ⟨.inr ⟨eq, le⟩, fun _ => ne⟩
  · rintro ⟨lt | ⟨eq, le⟩, ne⟩
    · exact .inl lt
    · exact .inr ⟨eq, ne eq, le⟩

/-- Entries with distinct names and the right counts need only be sorted. -/
theorem ranking_mergeSort (listed : ∀ n, n ∈ entries.map name ↔ n ∈ names)
    (once : (entries.map name).Nodup) (counted : ∀ e ∈ entries, count e = names.count (name e)) :
    Ranking name count names
      (entries.mergeSort fun a b => byCount (count a, name a) (count b, name b)) := by
  have same := List.mergeSort_perm entries fun a b => byCount (count a, name a) (count b, name b)
  have apart := (same.map name).nodup_iff.2 once
  refine ⟨fun n => (same.map name).mem_iff.trans (listed n), apart,
    fun e he => counted e (same.mem_iff.1 he), ?_⟩
  have sorted : (entries.mergeSort fun a b => byCount (count a, name a) (count b, name b)).Pairwise
      fun a b => byCount (count a, name a) (count b, name b) = true :=
    List.pairwise_mergeSort
      (fun a b c => byCount_trans (count a, name a) (count b, name b) (count c, name c))
      (fun a b => byCount_total (count a, name a) (count b, name b)) entries
  exact (sorted.and (List.pairwise_map.1 apart)).imp fun {a b} h =>
    (ranksBefore_iff _ _).2 ⟨h.1, fun _ => h.2⟩

namespace Ranking

theorem positive (h : Ranking name count names entries) {e : α} (he : e ∈ entries) : 0 < count e := by
  rw [h.counted e he]
  exact List.count_pos_iff.2 ((h.listed _).1 (List.mem_map_of_mem he))

/-- The counts add up to the length of the list. -/
theorem total (h : Ranking name count names entries) : (entries.map count).sum = names.length := by
  have counts : entries.map count = (entries.map name).map fun n => names.count n := by
    rw [List.map_map]
    exact List.map_congr_left h.counted
  have distinct : (entries.map name).Perm names.dedup :=
    (List.perm_ext_iff_of_nodup h.once (List.nodup_dedup names)).2 fun n => by
      rw [h.listed, List.mem_dedup]
  calc (entries.map count).sum
      = ((entries.map name).map fun n => names.count n).sum := by rw [counts]
    _ = (names.dedup.map fun n => names.count n).sum := (distinct.map _).sum_eq
    _ = names.length := names.sum_map_count_dedup_eq_length

theorem eq_nil_iff (h : Ranking name count names entries) : entries = [] ↔ names = [] := by
  rw [← List.map_eq_nil_iff (f := name), List.eq_nil_iff_forall_not_mem,
    List.eq_nil_iff_forall_not_mem]
  exact forall_congr' fun n => not_congr (h.listed n)

end Ranking

end Rankings

/-! ## Domains -/

theorem ranking_domainBuckets (s : Store) : Ranking Bucket.domain Bucket.count
    (s.definitions.map Definition.effectiveDomain) (domainBuckets s) := by
  have once : (((s.definitions.map Definition.effectiveDomain).foldl tally []).map Prod.fst).Nodup :=
    nodup_foldl_tally _ List.nodup_nil
  have mem (n : String) (c : Nat) :
      (n, c) ∈ (s.definitions.map Definition.effectiveDomain).foldl tally [] ↔
        n ∈ s.definitions.map Definition.effectiveDomain ∧
          (s.definitions.map Definition.effectiveDomain).count n = c := by
    rw [← lookup_eq_some_iff_mem once, lookup_foldl_tally]
    split <;> simp_all
  refine ranking_mergeSort (fun n => ?_) ?_ fun b hb => ?_
  · rw [List.map_map, List.mem_map]
    constructor
    · rintro ⟨⟨d, c⟩, h, rfl⟩
      exact ((mem d c).1 h).1
    · exact fun h => ⟨(n, _), (mem n _).2 ⟨h, rfl⟩, rfl⟩
  · rw [List.map_map]
    exact once
  · obtain ⟨⟨d, c⟩, h, rfl⟩ := List.mem_map.1 hb
    exact ((mem d c).1 h).2.symm

/-- The buckets of a store: every domain of its definitions once, with their number. -/
structure Bucket.Partition (s : Store) (bs : List Bucket) : Prop where
  /-- A definition counts under its domain, which once checked is never the empty text, or as unknown. -/
  effective : ∀ d ∈ s.definitions, d.domain ≠ some "" → d.effectiveDomain = d.domain.getD unknownDomain
  listed : ∀ name, name ∈ bs.map Bucket.domain ↔ ∃ d ∈ s.definitions, d.effectiveDomain = name
  once : (bs.map Bucket.domain).Nodup
  counted : ∀ b ∈ bs, b.count = s.definitions.countP fun d => d.effectiveDomain = b.domain
  positive : ∀ b ∈ bs, 0 < b.count
  total : (bs.map Bucket.count).sum = s.size
  shares : s.size ≠ 0 → (bs.map fun b => (b.count * 100 : ℚ) / s.size).sum = 100
  ordered : bs.Pairwise fun a b => RanksBefore (a.count, a.domain) (b.count, b.domain)
  empty : bs = [] ↔ s.size = 0

theorem sum_shares {bs : List Bucket} {total : Nat} (sum : (bs.map Bucket.count).sum = total)
    (filled : total ≠ 0) : (bs.map fun b => (b.count * 100 : ℚ) / total).sum = 100 := by
  have cast : (bs.map fun b => (b.count : ℚ)).sum = total := by
    rw [← sum, Nat.cast_list_sum, List.map_map]
    rfl
  have nonzero : (total : ℚ) ≠ 0 := Nat.cast_ne_zero.2 filled
  calc (bs.map fun b => (b.count * 100 : ℚ) / total).sum
      = (bs.map fun b => (b.count : ℚ) * (100 / total)).sum := by simp only [mul_div_assoc]
    _ = (bs.map fun b => (b.count : ℚ)).sum * (100 / total) := List.sum_map_mul_right ..
    _ = 100 := by rw [cast, mul_div_cancel₀ _ nonzero]

/-- **Buckets.** The buckets of every store are a partition of it. -/
theorem domainBuckets_partition (s : Store) : Bucket.Partition s (domainBuckets s) := by
  have ranking := ranking_domainBuckets s
  have length : (s.definitions.map Definition.effectiveDomain).length = s.size := by
    rw [List.length_map, Store.definitions, List.length_map, Store.size]
  have total := ranking.total.trans length
  refine ⟨fun d _ ne => ?_, fun name => ?_, ranking.once, fun b hb => ?_, fun b hb => ranking.positive hb,
    total, sum_shares total, ranking.ordered, ?_⟩
  · unfold Definition.effectiveDomain
    cases h : d.domain with
    | none => rfl
    | some t => exact if_neg fun e => ne (by rw [h, e])
  · rw [ranking.listed, List.mem_map]
  · rw [ranking.counted b hb, List.count, List.countP_map]
    rfl
  · rw [ranking.eq_nil_iff, ← List.length_eq_zero_iff, length]

/-! ## What a name refers to -/

/-- A text that starts with the separator is the separator and its rest. -/
theorem eq_separator_append_iff {name rest : String} :
    name = "\\" ++ rest ↔ name.toList = namespaceSeparator :: rest.toList := by
  rw [← String.toList_inj, String.toList_append]
  rfl

/-- **What a name refers to.** The definition that has the name as its key; where no definition has, the one
that has it but for a leading separator. -/
theorem resolveUsage_eq_some_iff {s : Store} (h : s.Proper) {name : String} {d : Definition} :
    resolveUsage name s = some d ↔ d ∈ s.definitions ∧
      (name = d.qualifiedKey ∨ name = "\\" ++ d.qualifiedKey ∧ name ∉ s.keys) := by
  rw [← Store.get?_eq_none_iff, resolveUsage]
  cases found : s.get? name with
  | some e =>
    obtain ⟨mem, rfl⟩ := h.get?_iff.1 found
    simp only [Option.some.injEq, reduceCtorEq, and_false, or_false]
    constructor
    · rintro rfl
      exact ⟨mem, rfl⟩
    · rintro ⟨hd, key⟩
      exact Option.some.inj (found.symm.trans (h.get?_iff.2 ⟨hd, key.symm⟩))
  | none =>
    simp only [and_true]
    constructor
    · intro referred
      split at referred
      · next c rest e =>
        split at referred
        · next separator =>
          obtain ⟨mem, key⟩ := h.get?_iff.1 referred
          exact ⟨mem, .inr (eq_separator_append_iff.2 (by rw [e, separator, key, String.toList_ofList]))⟩
        · cases referred
      · cases referred
    · rintro ⟨mem, rfl | e⟩
      · cases found.symm.trans (h.get?_of_mem mem)
      · rw [eq_separator_append_iff.1 e]
        simpa using h.get?_of_mem mem

theorem isSome_resolveUsage_iff {s : Store} (h : s.Proper) {name : String} :
    (resolveUsage name s).isSome = true ↔ name ∈ s.keys ∨ ∃ key ∈ s.keys, name = "\\" ++ key := by
  simp only [Option.isSome_iff_exists, resolveUsage_eq_some_iff h, ← h.map_qualifiedKey, List.mem_map]
  constructor
  · rintro ⟨d, mem, rfl | ⟨e, -⟩⟩
    · exact .inl ⟨d, mem, rfl⟩
    · exact .inr ⟨_, ⟨d, mem, rfl⟩, e⟩
  · intro present
    by_cases own : ∃ d ∈ s.definitions, d.qualifiedKey = name
    · obtain ⟨d, mem, rfl⟩ := own
      exact ⟨d, mem, .inl rfl⟩
    · obtain ⟨_, ⟨d, mem, rfl⟩, e⟩ := present.resolve_left own
      exact ⟨d, mem, .inr ⟨e, own⟩⟩

/-! ## Usages -/

/-- The references that a call adds, each by the name and the file. -/
def UsageCall.references : UsageCall → List (String × String)
  | .add name file => [(name, file)]
  | .extend names file => names.map fun name => (name, file)

theorem UsageCall.filesOf_eq (name : String) (c : UsageCall) :
    c.filesOf name = (c.references.filter fun r => r.1 = name).map Prod.snd := by
  cases c with
  | add n file =>
    by_cases h : n = name <;> simp [filesOf, references, h]
  | extend names file =>
    have same : (names.map fun n => (n, file)).filter (fun r => r.1 = name) =
        (names.filter fun n => n = name).map fun n => (n, file) := List.filter_map ..
    rw [filesOf, references, same, List.filter_eq, List.map_replicate, List.map_replicate]

namespace UsageIndex

/-- The files of a name are those of its references, in order. -/
theorem filesFor_ofCalls_eq (cs : List UsageCall) (name : String) : (ofCalls cs).filesFor name =
    ((cs.flatMap UsageCall.references).filter fun r => r.1 = name).map Prod.snd := by
  rw [filesFor_ofCalls, List.filter_flatMap, List.map_flatMap]
  exact congrArg (cs.flatMap ·) (funext (UsageCall.filesOf_eq name))

variable {u : UsageIndex} (h : u.Proper)

include h

theorem Proper.mem_names_iff {name : String} :
    name ∈ u.items.map Prod.fst ↔ u.filesFor name ≠ [] := by
  rw [← contains_iff h, contains, Option.isSome_iff_exists, List.mem_map]
  constructor
  · rintro ⟨e, he, rfl⟩
    exact ⟨e.2, (lookup_eq_some_iff_mem h.nodup e.1 e.2).2 he⟩
  · rintro ⟨files, found⟩
    exact ⟨(name, files), (lookup_eq_some_iff_mem h.nodup name files).1 found, rfl⟩

theorem Proper.filesFor_of_mem {e : String × List String} (he : e ∈ u.items) :
    u.filesFor e.1 = e.2 := by
  rw [filesFor, (lookup_eq_some_iff_mem h.nodup e.1 e.2).2 he, Option.getD_some]

end UsageIndex

theorem fields_of_mem_usageFrequency {u : UsageIndex} (h : u.Proper) {s : Store} {e : UsageEntry}
    (he : e ∈ usageFrequency u s) : e.count = u.count e.name ∧ e.files = u.filesFor e.name ∧
      e.definition = resolveUsage e.name s := by
  obtain ⟨x, hx, rfl⟩ := List.mem_map.1 (List.mem_mergeSort.1 he)
  have files := h.filesFor_of_mem hx
  exact ⟨by rw [UsageIndex.count, files], files.symm, rfl⟩

theorem ranking_usageFrequency {u : UsageIndex} (h : u.Proper) {names : List String}
    (counts : ∀ name, u.count name = names.count name) (s : Store) :
    Ranking UsageEntry.name UsageEntry.count names (usageFrequency u s) := by
  have listed : (u.items.map fun e => UsageEntry.mk e.1 e.2.length e.2 (resolveUsage e.1 s)).map
      UsageEntry.name = u.items.map Prod.fst := List.map_map
  refine ranking_mergeSort (fun name => ?_) (listed ▸ h.nodup) fun e he => ?_
  · have number : (u.filesFor name).length = names.count name := counts name
    rw [listed, h.mem_names_iff, ← List.count_pos_iff, ← number, List.length_pos_iff]
  · obtain ⟨x, hx, rfl⟩ := List.mem_map.1 he
    rw [← counts, UsageIndex.count, h.filesFor_of_mem hx]

/-- The usages of some references, whose names are looked up in a store. -/
structure UsageEntry.Faithful (refs : List (String × String)) (s : Store) (es : List UsageEntry) :
    Prop where
  listed : ∀ name, name ∈ es.map UsageEntry.name ↔ ∃ file, (name, file) ∈ refs
  once : (es.map UsageEntry.name).Nodup
  counted : ∀ e ∈ es, e.count = refs.countP fun r => r.1 = e.name
  files : ∀ e ∈ es, e.files = (refs.filter fun r => r.1 = e.name).map Prod.snd
  ordered : es.Pairwise fun a b => RanksBefore (a.count, a.name) (b.count, b.name)
  total : (es.map UsageEntry.count).sum = refs.length
  /-- The name itself comes first: the one without its separator counts only where that is no key. -/
  refers : ∀ e ∈ es, ∀ d, e.definition = some d ↔ d ∈ s.definitions ∧
    (e.name = d.qualifiedKey ∨ e.name = "\\" ++ d.qualifiedKey ∧ e.name ∉ s.keys)
  present : ∀ e ∈ es, e.definition.isSome = true ↔
    e.name ∈ s.keys ∨ ∃ key ∈ s.keys, e.name = "\\" ++ key

/-- **Usages.** After any calls and for any store, the usages account for every reference, and each name
refers to the definition it should. -/
theorem usageFrequency_faithful (cs : List UsageCall) (ds : List Definition) :
    UsageEntry.Faithful (cs.flatMap UsageCall.references) (Store.ofList ds)
      (usageFrequency (UsageIndex.ofCalls cs) (Store.ofList ds)) := by
  have usages := UsageIndex.proper_ofCalls cs
  have store := Store.proper_ofList ds
  have counts (name : String) : (UsageIndex.ofCalls cs).count name =
      ((cs.flatMap UsageCall.references).map Prod.fst).count name := by
    rw [UsageIndex.count, UsageIndex.filesFor_ofCalls_eq, List.length_map, List.count, List.countP_map,
      List.countP_eq_length_filter]
    rfl
  have ranking := ranking_usageFrequency usages counts (Store.ofList ds)
  have refers (e : UsageEntry) (he : e ∈ usageFrequency (UsageIndex.ofCalls cs) (Store.ofList ds))
      (d : Definition) : e.definition = some d ↔ d ∈ (Store.ofList ds).definitions ∧
        (e.name = d.qualifiedKey ∨ e.name = "\\" ++ d.qualifiedKey ∧ e.name ∉ (Store.ofList ds).keys) := by
    rw [(fields_of_mem_usageFrequency usages he).2.2, resolveUsage_eq_some_iff store]
  refine ⟨fun name => ?_, ranking.once, fun e he => ?_, fun e he => ?_, ranking.ordered, ?_, refers,
    fun e he => ?_⟩
  · rw [ranking.listed, List.mem_map]
    simp
  · rw [ranking.counted e he, List.count, List.countP_map]
    rfl
  · rw [(fields_of_mem_usageFrequency usages he).2.1, UsageIndex.filesFor_ofCalls_eq]
  · rw [ranking.total, List.length_map]
  · rw [(fields_of_mem_usageFrequency usages he).2.2, isSome_resolveUsage_iff store]

end DomainAtlas
