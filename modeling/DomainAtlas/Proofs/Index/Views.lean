import DomainAtlas.Index.Views
import DomainAtlas.Proofs.Index.Store

/-!
# Views do not depend on the order of a store

Each view sorts a list that depends on the order of insertion only up to permutation, by an order
that leaves no tie between two of its members: bucket domains and usage names are distinct, and so
are the qualified keys at the end of every listing key. Sorting such a list gives one result.

Results:
* `mergeSort_congr`: permutations without ties are sorted alike.
* `domainBuckets_congr`, `sortedByNamespace_congr`: stores with the same mapping have the same buckets
  and the same listing.
* `usageFrequency_congr`: so have indexes with the same counts, up to the files of each name.
-/
namespace DomainAtlas

/-! ## Sorting without ties -/

theorem mergeSort_congr {α : Type} {le : α → α → Bool} {xs ys : List α}
    (trans : ∀ a b c, le a b → le b c → le a c) (total : ∀ a b, (le a b || le b a) = true)
    (ties : ∀ a ∈ xs, ∀ b ∈ xs, le a b → le b a → a = b) (h : xs.Perm ys) :
    xs.mergeSort le = ys.mergeSort le := by
  have perm : (xs.mergeSort le).Perm (ys.mergeSort le) :=
    (List.mergeSort_perm xs le).trans (h.trans (List.mergeSort_perm ys le).symm)
  refine List.Perm.eq_of_pairwise ?_ (List.pairwise_mergeSort trans total xs)
    (List.pairwise_mergeSort trans total ys) perm
  intro a b ha hb
  have hx : a ∈ xs := (List.mergeSort_perm xs le).mem_iff.1 ha
  have hy : b ∈ xs := h.mem_iff.2 ((List.mergeSort_perm ys le).mem_iff.1 hb)
  exact ties a hx b hy

theorem le_iff (a b : String) : Text.le a b = true ↔ a ≤ b := decide_eq_true_iff

theorem text_le_trans (a b c : String) (h : Text.le a b = true) (h' : Text.le b c = true) :
    Text.le a c = true :=
  (le_iff a c).2 (String.le_trans ((le_iff a b).1 h) ((le_iff b c).1 h'))

theorem text_le_total (a b : String) : (Text.le a b || Text.le b a) = true := by
  rw [Bool.or_eq_true, le_iff, le_iff]
  exact String.le_total a b

theorem text_le_antisymm {a b : String} (h : Text.le a b = true) (h' : Text.le b a = true) : a = b :=
  String.le_antisymm ((le_iff a b).1 h) ((le_iff b a).1 h')

theorem text_lt_iff (a b : String) : a < b ↔ a ≠ b ∧ a ≤ b := by
  constructor
  · intro lt
    refine ⟨fun e => String.lt_irrefl a (e ▸ lt), String.not_lt.1 (String.lt_asymm lt)⟩
  · rintro ⟨ne, le⟩
    exact String.not_le.1 fun ge => ne (String.le_antisymm le ge)

theorem byCount_iff (a b : Nat × String) :
    byCount a b = true ↔ b.1 < a.1 ∨ a.1 = b.1 ∧ a.2 ≤ b.2 := by
  unfold byCount
  split
  · next h => simp [h, le_iff]
  · next h => simp [h]

theorem byCount_trans (a b c : Nat × String) (h : byCount a b = true) (h' : byCount b c = true) :
    byCount a c = true := by
  rw [byCount_iff] at h h' ⊢
  rcases h with h | ⟨h, hs⟩ <;> rcases h' with h' | ⟨h', hs'⟩
  · exact .inl (by omega)
  · exact .inl (by omega)
  · exact .inl (by omega)
  · exact .inr ⟨by omega, String.le_trans hs hs'⟩

theorem byCount_total (a b : Nat × String) : (byCount a b || byCount b a) = true := by
  rw [Bool.or_eq_true, byCount_iff, byCount_iff]
  rcases Nat.lt_trichotomy a.1 b.1 with h | h | h
  · exact .inr (.inl h)
  · rcases String.le_total a.2 b.2 with hs | hs
    · exact .inl (.inr ⟨h, hs⟩)
    · exact .inr (.inr ⟨h.symm, hs⟩)
  · exact .inl (.inl h)

theorem byCount_antisymm {a b : Nat × String} (h : byCount a b = true) (h' : byCount b a = true) :
    a = b := by
  rw [byCount_iff] at h h'
  rcases h with h | ⟨h, hs⟩ <;> rcases h' with h' | ⟨h', hs'⟩
  · omega
  · omega
  · omega
  · exact Prod.ext h (String.le_antisymm hs hs')

/-- Compares by one text first, and by the rest where that is the same. -/
def byText {α : Type} (f : α → String) (rest : α → α → Bool) (a b : α) : Bool :=
  if f a = f b then rest a b else Text.le (f a) (f b)

section ByText

variable {α : Type} {f : α → String} {rest : α → α → Bool}

theorem byText_iff (a b : α) :
    byText f rest a b = true ↔ f a = f b ∧ rest a b = true ∨ f a ≠ f b ∧ f a ≤ f b := by
  unfold byText
  split
  · next h => simp [h]
  · next h => simp [h, le_iff]

theorem byText_trans (trans : ∀ a b c, rest a b → rest b c → rest a c) (a b c : α)
    (h : byText f rest a b = true) (h' : byText f rest b c = true) :
    byText f rest a c = true := by
  rw [byText_iff] at h h' ⊢
  rcases h with ⟨e, h⟩ | ⟨ne, h⟩ <;> rcases h' with ⟨e', h'⟩ | ⟨ne', h'⟩
  · exact .inl ⟨e.trans e', trans a b c h h'⟩
  · exact .inr ⟨e ▸ ne', e ▸ h'⟩
  · exact .inr ⟨e' ▸ ne, e' ▸ h⟩
  · refine .inr ⟨fun e => ?_, String.le_trans h h'⟩
    exact ne (String.le_antisymm h (e ▸ h'))

theorem byText_total (total : ∀ a b, (rest a b || rest b a) = true) (a b : α) :
    (byText f rest a b || byText f rest b a) = true := by
  rw [Bool.or_eq_true, byText_iff, byText_iff]
  by_cases h : f a = f b
  · rcases Bool.or_eq_true .. ▸ total a b with hr | hr
    · exact .inl (.inl ⟨h, hr⟩)
    · exact .inr (.inl ⟨h.symm, hr⟩)
  · rcases String.le_total (f a) (f b) with hs | hs
    · exact .inl (.inr ⟨h, hs⟩)
    · exact .inr (.inr ⟨fun e => h e.symm, hs⟩)

theorem byText_ties {a b : α} (h : byText f rest a b = true) (h' : byText f rest b a = true) :
    rest a b = true ∧ rest b a = true := by
  rw [byText_iff] at h h'
  rcases h with ⟨e, h⟩ | ⟨ne, h⟩ <;> rcases h' with ⟨e', h'⟩ | ⟨ne', h'⟩
  · exact ⟨h, h'⟩
  · exact absurd e.symm ne'
  · exact absurd e'.symm ne
  · exact absurd (String.le_antisymm h h') ne

end ByText

theorem leKeys_eq : leKeys = byText Prod.fst (byText (fun k => k.2.1) fun a b =>
    Text.le a.2.2 b.2.2) := rfl

theorem leKeys_trans (a b c : String × String × String) :
    leKeys a b = true → leKeys b c = true → leKeys a c = true := by
  rw [leKeys_eq]
  exact byText_trans (byText_trans fun a b c => text_le_trans a.2.2 b.2.2 c.2.2) a b c

theorem leKeys_total (a b : String × String × String) : (leKeys a b || leKeys b a) = true := by
  rw [leKeys_eq]
  exact byText_total (byText_total fun a b => text_le_total a.2.2 b.2.2) a b

/-- Keys that tie have the same last text. -/
theorem leKeys_ties {a b : String × String × String} (h : leKeys a b = true)
    (h' : leKeys b a = true) : a.2.2 = b.2.2 := by
  rw [leKeys_eq] at h h'
  obtain ⟨h, h'⟩ := byText_ties h h'
  obtain ⟨h, h'⟩ := byText_ties h h'
  exact text_le_antisymm h h'

/-! ## Members -/

/-- The listing has every definition once. -/
theorem sortedByNamespace_perm (s : Store) : (sortedByNamespace s).Perm s.definitions := by
  have sorted := (List.mergeSort_perm (s.definitions.map fun d => (listingKey d, d))
    fun a b => leKeys a.1 b.1).map Prod.snd
  rw [List.map_map] at sorted
  exact sorted.trans (.of_eq (List.map_id _))

/-- The view has every name once. -/
theorem names_usageFrequency (u : UsageIndex) (s : Store) :
    ((usageFrequency u s).map UsageEntry.name).Perm (u.items.map Prod.fst) := by
  have sorted := (List.mergeSort_perm (u.items.map fun e => UsageEntry.mk e.1 e.2.length e.2
    (resolveUsage e.1 s)) fun a b => byCount (a.count, a.name) (b.count, b.name)).map UsageEntry.name
  rw [List.map_map] at sorted
  exact sorted

/-! ## Domains -/

theorem lookup_foldl_tally (names : List String) (counts : List (String × Nat)) (n : String) :
    (names.foldl tally counts).lookup n =
      if n ∈ names then some ((counts.lookup n).getD 0 + names.count n) else counts.lookup n := by
  induction names generalizing counts with
  | nil => simp
  | cons m names ih =>
    have step : (tally counts m).lookup n =
        if n = m then some ((counts.lookup m).getD 0 + 1) else counts.lookup n :=
      lookup_putEntry m n _ counts
    rw [List.foldl_cons, ih, step]
    by_cases h : n = m
    · subst h
      by_cases hn : n ∈ names
      · simp only [hn, ↓reduceIte, Option.getD_some, List.mem_cons, or_true, List.count_cons_self]
        congr 1
        omega
      · simp [hn, List.count_eq_zero_of_not_mem]
    · simp [h, List.count_cons_of_ne fun e => h e.symm]

theorem nodup_foldl_tally (names : List String) {counts : List (String × Nat)}
    (h : (counts.map Prod.fst).Nodup) : ((names.foldl tally counts).map Prod.fst).Nodup := by
  induction names generalizing counts with
  | nil => exact h
  | cons n names ih => exact ih (nodup_putEntry n _ h)

theorem tally_perm {names other : List String} (h : names.Perm other) :
    (names.foldl tally []).Perm (other.foldl tally []) := by
  refine perm_of_lookup_eq (nodup_foldl_tally _ (by simp)) (nodup_foldl_tally _ (by simp)) fun n => ?_
  rw [lookup_foldl_tally, lookup_foldl_tally, h.count_eq]
  simp only [h.mem_iff]

section Stores

variable {s t : Store} (hs : s.Proper) (ht : t.Proper) (same : ∀ key, s.get? key = t.get? key)

include hs ht same

theorem definitions_perm : s.definitions.Perm t.definitions :=
  (Store.items_perm hs ht same).map Prod.snd

theorem domainBuckets_congr : domainBuckets s = domainBuckets t := by
  have size : s.size = t.size := (Store.items_perm hs ht same).length_eq
  have counts := tally_perm ((definitions_perm hs ht same).map Definition.effectiveDomain)
  unfold domainBuckets
  simp only [size]
  refine mergeSort_congr (fun a b c => byCount_trans _ _ _) (fun a b => byCount_total _ _) ?_
    (counts.map _)
  intro a ha b hb h h'
  obtain ⟨x, -, rfl⟩ := List.mem_map.1 ha
  obtain ⟨y, -, rfl⟩ := List.mem_map.1 hb
  obtain ⟨hn, hd⟩ := Prod.mk.inj (byCount_antisymm h h')
  obtain ⟨d, n⟩ := x
  obtain ⟨d', n'⟩ := y
  simp only at hn hd
  rw [hn, hd]

theorem sortedByNamespace_congr : sortedByNamespace s = sortedByNamespace t := by
  unfold sortedByNamespace
  refine congrArg (List.map Prod.snd) ?_
  refine mergeSort_congr (fun a b c => leKeys_trans _ _ _) (fun a b => leKeys_total _ _) ?_
    ((definitions_perm hs ht same).map _)
  intro a ha b hb h h'
  obtain ⟨d, hd, rfl⟩ := List.mem_map.1 ha
  obtain ⟨e, he, rfl⟩ := List.mem_map.1 hb
  have key : d.qualifiedKey = e.qualifiedKey := leKeys_ties h h'
  have found := hs.get?_of_mem hd
  rw [key, hs.get?_of_mem he] at found
  rw [Option.some.inj found]

end Stores

theorem resolveUsage_congr {s t : Store} (same : ∀ key, s.get? key = t.get? key) (name : String) :
    resolveUsage name s = resolveUsage name t := by
  simp only [resolveUsage, same]

/-! ## Usages -/

/-- What a view shows of a name: the name, its count and the definition it refers to. -/
def UsageEntry.shown (e : UsageEntry) : String × Nat × Option Definition :=
  (e.name, e.count, e.definition)

theorem shown_usageFrequency (u : UsageIndex) (s : Store) :
    (usageFrequency u s).map UsageEntry.shown =
      (((u.items.map fun e => (e.1, e.2.length)).map fun e =>
        (e.1, e.2, resolveUsage e.1 s)).mergeSort
          fun a b => byCount (a.2.1, a.1) (b.2.1, b.1)) := by
  have sorted : ∀ es : List UsageEntry,
      (es.mergeSort fun a b => byCount (a.count, a.name) (b.count, b.name)).map UsageEntry.shown =
        (es.map UsageEntry.shown).mergeSort fun a b => byCount (a.2.1, a.1) (b.2.1, b.1) :=
    fun es => List.map_mergeSort fun a _ b _ => rfl
  unfold usageFrequency
  simp only
  rw [sorted, List.map_map, List.map_map]
  rfl

theorem lookup_map_length (es : List (String × List String)) (name : String) :
    (es.map fun e => (e.1, e.2.length)).lookup name = (es.lookup name).map List.length := by
  induction es with
  | nil => rfl
  | cons e es ih =>
    obtain ⟨n, files⟩ := e
    rw [List.map_cons, lookup_cons_eq, lookup_cons_eq, ih]
    split <;> rfl

theorem counts_perm {u v : UsageIndex} (hu : u.Proper) (hv : v.Proper)
    (same : ∀ name, u.count name = v.count name) :
    (u.items.map fun e => (e.1, e.2.length)).Perm (v.items.map fun e => (e.1, e.2.length)) := by
  have names : ∀ es : List (String × List String),
      (es.map fun e => (e.1, e.2.length)).map Prod.fst = es.map Prod.fst := by simp
  refine perm_of_lookup_eq (names u.items ▸ hu.nodup) (names v.items ▸ hv.nodup) fun name => ?_
  have contains : u.contains name = v.contains name := by
    have := same name
    rw [Bool.eq_iff_iff, UsageIndex.contains_iff hu, UsageIndex.contains_iff hv, ne_eq, ne_eq,
      ← List.length_eq_zero_iff, ← List.length_eq_zero_iff]
    simp only [UsageIndex.count] at this
    rw [this]
  have count := same name
  unfold UsageIndex.contains at contains
  unfold UsageIndex.count UsageIndex.filesFor at count
  rw [lookup_map_length, lookup_map_length]
  cases hx : u.items.lookup name with
  | none =>
    rw [hx] at contains
    rw [Option.isSome_eq_false_iff.1 contains.symm |> Option.isNone_iff_eq_none.1]
  | some files =>
    rw [hx] at contains count
    obtain ⟨others, hy⟩ := Option.isSome_iff_exists.1 contains.symm
    rw [hy] at count ⊢
    exact congrArg some count

theorem usageFrequency_congr {u v : UsageIndex} {s t : Store} (hu : u.Proper) (hv : v.Proper)
    (counts : ∀ name, u.count name = v.count name) (same : ∀ key, s.get? key = t.get? key) :
    (usageFrequency u s).map UsageEntry.shown = (usageFrequency v t).map UsageEntry.shown := by
  rw [shown_usageFrequency, shown_usageFrequency]
  simp only [resolveUsage_congr same]
  refine mergeSort_congr (fun a b c => byCount_trans _ _ _) (fun a b => byCount_total _ _) ?_
    ((counts_perm hu hv counts).map _)
  intro a ha b hb h h'
  obtain ⟨⟨n, c⟩, -, rfl⟩ := List.mem_map.1 ha
  obtain ⟨⟨n', c'⟩, -, rfl⟩ := List.mem_map.1 hb
  obtain ⟨hc, hn⟩ := Prod.mk.inj (byCount_antisymm h h')
  simp only at hc hn
  rw [hc, hn]

end DomainAtlas
