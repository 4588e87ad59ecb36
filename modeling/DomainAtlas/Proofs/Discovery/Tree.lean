import DomainAtlas.Discovery.Ignore
import DomainAtlas.Proofs.Index.Store
import DomainAtlas.Proofs.Index.Views
import DomainAtlas.Proofs.Text.Parts

/-!
# Trees and the paths in them

A directory lists each of its entries once, under a name that is no path of its own
(`Tree.WellFormed`). A path is then the same as the list of the names on it: `pathText` writes it, and
cutting at the slashes reads it back. `Tree.at?` is what stands at the end of such a list.

Results:
* `split_pathText`, `pathText_inj`: paths and lists of names are the same.
* `Tree.at?_append`, `Tree.WellFormed.at?`: going down a path in steps.
* `filter_mergeSort`, `foldl_mergeSort_eq`: entries in order of name, of which only some matter.
-/
namespace DomainAtlas

/-! ## Names and paths -/

/-- What can be the name of an entry. -/
structure EntryName (name : String) : Prop where
  ne_empty : name ≠ ""
  noSlash : '/' ∉ name.toList
  ne_dot : name ≠ "."
  ne_dots : name ≠ ".."

instance : DecidablePred EntryName := fun name =>
  decidable_of_iff (name ≠ "" ∧ '/' ∉ name.toList ∧ name ≠ "." ∧ name ≠ "..")
    ⟨fun h => ⟨h.1, h.2.1, h.2.2.1, h.2.2.2⟩, fun h => ⟨h.1, h.2, h.3, h.4⟩⟩

theorem EntryName.toList_ne_nil {name : String} (h : EntryName name) : name.toList ≠ [] :=
  fun e => h.ne_empty (String.toList_inj.1 e)

theorem entryName_concat {names : List String} (proper : ∀ n ∈ names, EntryName n) {name : String}
    (h : EntryName name) : ∀ n ∈ names ++ [name], EntryName n :=
  List.forall_mem_append.2 ⟨proper, List.forall_mem_singleton.2 h⟩

/-- The path through entries of the given names. -/
def pathText (names : List String) : String := Text.join "/" names

theorem toList_pathText (names : List String) :
    (pathText names).toList = ['/'].intercalate (names.map String.toList) := by
  rw [pathText, Text.join, String.toList_intercalate]
  rfl

theorem pathText_nil : pathText [] = "" := rfl

@[simp] theorem pathText_singleton (name : String) : pathText [name] = name := by
  simp [← String.toList_inj, toList_pathText]

theorem toList_pathText_append {a b : List String} (ha : a ≠ []) (hb : b ≠ []) :
    (pathText (a ++ b)).toList = (pathText a).toList ++ '/' :: (pathText b).toList := by
  simp only [toList_pathText]
  induction a with
  | nil => exact absurd rfl ha
  | cons name a ih =>
    obtain ⟨first, b, rfl⟩ := List.exists_cons_of_ne_nil hb
    cases a with
    | nil => simp [List.intercalate_cons_cons]
    | cons next a =>
      simpa [List.intercalate_cons_cons, List.append_assoc] using ih (by simp)

theorem toList_pathText_cons (name : String) {names : List String} (h : names ≠ []) :
    (pathText (name :: names)).toList = name.toList ++ '/' :: (pathText names).toList := by
  simpa using toList_pathText_append (List.cons_ne_nil name []) h

section Names

variable {names : List String} (proper : ∀ n ∈ names, EntryName n)

include proper

theorem toList_pathText_ne_nil (h : names ≠ []) : (pathText names).toList ≠ [] := by
  cases names with
  | nil => exact absurd rfl h
  | cons name names =>
    have first := (proper name List.mem_cons_self).toList_ne_nil
    cases names with
    | nil => simpa using first
    | cons next names =>
      rw [toList_pathText_cons _ (by simp)]
      simp

theorem pathText_eq_empty_iff : pathText names = "" ↔ names = [] := by
  constructor
  · intro h
    by_contra ne
    exact toList_pathText_ne_nil proper ne (by rw [h]; rfl)
  · rintro rfl
    rfl

theorem below_pathText (name : String) : below (pathText names) name = pathText (names ++ [name]) := by
  unfold below
  split
  · next h =>
    rw [(pathText_eq_empty_iff proper).1 h]
    simp
  · next h =>
    have ne : names ≠ [] := fun e => h ((pathText_eq_empty_iff proper).2 e)
    rw [← String.toList_inj, toList_pathText_append ne (by simp)]
    simp

theorem splitChars_pathText (h : names ≠ []) :
    Text.splitChars '/' (pathText names).toList = names.map String.toList := by
  rw [toList_pathText]
  refine Text.splitChars_intercalate (by simpa using h) fun part hp => ?_
  obtain ⟨name, hn, rfl⟩ := List.mem_map.1 hp
  exact (proper name hn).noSlash

theorem split_pathText (h : names ≠ []) : Text.split '/' (pathText names) = names := by
  rw [Text.split, splitChars_pathText proper h, List.map_map]
  simp

end Names

theorem pathText_inj {a b : List String} (ha : ∀ n ∈ a, EntryName n) (hb : ∀ n ∈ b, EntryName n)
    (h : pathText a = pathText b) : a = b := by
  by_cases ea : a = []
  · subst ea
    exact ((pathText_eq_empty_iff hb).1 (h.symm.trans pathText_nil)).symm
  · have eb : b ≠ [] := fun e => ea ((pathText_eq_empty_iff ha).1 (by rw [h, e]; rfl))
    rw [← split_pathText ha ea, h, split_pathText hb eb]

/-! ## Trees -/

namespace Tree

/-- What stands at the end of the given names. -/
def at? : Tree → List String → Option Tree
  | t, [] => some t
  | t, name :: names => (t.entries.lookup name).bind fun u => u.at? names

/-- Every directory lists each entry once, under a proper name. -/
inductive WellFormed : Tree → Prop
  | file (content : Option ByteArray) : WellFormed (.file content)
  | dirLink : WellFormed .dirLink
  | dir {es : List (String × Tree)} (nodup : (es.map Prod.fst).Nodup)
      (named : ∀ e ∈ es, EntryName e.1) (inner : ∀ e ∈ es, WellFormed e.2) : WellFormed (.dir es)

variable {t u : Tree}

@[simp] theorem at?_nil (t : Tree) : t.at? [] = some t := by
  cases t <;> rfl

theorem at?_cons (t : Tree) (name : String) (names : List String) :
    t.at? (name :: names) = (t.entries.lookup name).bind fun u => u.at? names := by
  cases t <;> rfl

theorem at?_append (t : Tree) (a b : List String) :
    t.at? (a ++ b) = (t.at? a).bind fun u => u.at? b := by
  induction a generalizing t with
  | nil => simp
  | cons name a ih =>
    rw [List.cons_append, at?_cons, at?_cons, Option.bind_assoc]
    exact congrArg _ (funext ih)

/-- Only a directory has something below it. -/
theorem eq_dir_of_at? {names : List String} (h : t.at? names = some u) (ne : names ≠ []) :
    ∃ es, t = .dir es := by
  obtain ⟨name, names, rfl⟩ := List.exists_cons_of_ne_nil ne
  cases t with
  | dir es => exact ⟨es, rfl⟩
  | file _ => simp [at?_cons, entries] at h
  | dirLink => simp [at?_cons, entries] at h

theorem exists_dir_of_at? {names rest : List String} (h : t.at? (names ++ rest) = some u)
    (ne : rest ≠ []) : ∃ es, t.at? names = some (.dir es) := by
  rw [at?_append, Option.bind_eq_some_iff] at h
  obtain ⟨v, hv, h⟩ := h
  obtain ⟨es, rfl⟩ := eq_dir_of_at? h ne
  exact ⟨es, hv⟩

namespace WellFormed

theorem nodup_entries (wf : t.WellFormed) : (t.entries.map Prod.fst).Nodup := by
  cases wf with
  | dir nodup _ _ => exact nodup
  | file _ => exact List.nodup_nil
  | dirLink => exact List.nodup_nil

theorem named_entries (wf : t.WellFormed) {e : String × Tree} (h : e ∈ t.entries) : EntryName e.1 := by
  cases wf with
  | dir _ named _ => exact named e h
  | file _ => cases h
  | dirLink => cases h

theorem inner_entries (wf : t.WellFormed) {e : String × Tree} (h : e ∈ t.entries) :
    e.2.WellFormed := by
  cases wf with
  | dir _ _ inner => exact inner e h
  | file _ => cases h
  | dirLink => cases h

theorem lookup_iff (wf : t.WellFormed) {name : String} :
    t.entries.lookup name = some u ↔ (name, u) ∈ t.entries :=
  lookup_eq_some_iff_mem wf.nodup_entries name u

theorem at?_cons_iff (wf : t.WellFormed) {name : String} {names : List String} :
    t.at? (name :: names) = some u ↔ ∃ v, (name, v) ∈ t.entries ∧ v.at? names = some u := by
  simp only [at?_cons, Option.bind_eq_some_iff, wf.lookup_iff]

/-- The names on a path in a tree are proper names, and lead to a tree. -/
theorem at? (wf : t.WellFormed) {names : List String} (h : t.at? names = some u) :
    (∀ n ∈ names, EntryName n) ∧ u.WellFormed := by
  induction names generalizing t with
  | nil =>
    rw [at?_nil] at h
    exact ⟨by simp, Option.some.inj h ▸ wf⟩
  | cons name names ih =>
    obtain ⟨v, hv, h⟩ := wf.at?_cons_iff.1 h
    obtain ⟨proper, wf'⟩ := ih (wf.inner_entries hv) h
    exact ⟨List.forall_mem_cons.2 ⟨wf.named_entries hv, proper⟩, wf'⟩

end WellFormed

end Tree

/-! ## Entries in order of name -/

section Sorting

variable {α σ : Type}

theorem entryLe_trans (a b c : String × α) (h : entryLe a b = true) (h' : entryLe b c = true) :
    entryLe a c = true :=
  text_le_trans a.1 b.1 c.1 h h'

theorem entryLe_total (a b : String × α) : (entryLe a b || entryLe b a) = true :=
  text_le_total a.1 b.1

/-- Entries with distinct names never tie. -/
theorem entryLe_ties {es : List (String × α)} (nodup : (es.map Prod.fst).Nodup) :
    ∀ a ∈ es, ∀ b ∈ es, entryLe a b = true → entryLe b a = true → a = b := by
  intro a ha b hb h h'
  have name : a.1 = b.1 := text_le_antisymm h h'
  have hb' : (a.1, b.2) ∈ es := name ▸ hb
  exact Prod.ext name (Option.some.inj
    (((lookup_eq_some_iff_mem nodup a.1 a.2).2 ha).symm.trans
      ((lookup_eq_some_iff_mem nodup a.1 b.2).2 hb')))

/-- Leaving entries out before or after sorting is the same. -/
theorem filter_mergeSort {es : List (String × α)} (nodup : (es.map Prod.fst).Nodup)
    (p : String × α → Bool) : (es.mergeSort entryLe).filter p = (es.filter p).mergeSort entryLe := by
  have sorted : ((es.mergeSort entryLe).filter p).Pairwise fun a b => entryLe a b = true :=
    (List.pairwise_mergeSort entryLe_trans entryLe_total es).filter p
  rw [← List.mergeSort_of_pairwise sorted]
  refine mergeSort_congr entryLe_trans entryLe_total ?_ ((List.mergeSort_perm es entryLe).filter p)
  intro a ha b hb
  exact entryLe_ties nodup a (List.mem_mergeSort.1 (List.mem_filter.1 ha).1) b
    (List.mem_mergeSort.1 (List.mem_filter.1 hb).1)

/-- Entries that make no difference can be left out of a fold over the sorted entries. -/
theorem foldl_mergeSort_eq {es : List (String × α)} (nodup : (es.map Prod.fst).Nodup)
    {f : σ → String × α → σ} (p : String × α → Bool)
    (quiet : ∀ e ∈ es, p e = false → ∀ s, f s e = s) (s : σ) :
    (es.mergeSort entryLe).foldl f s = ((es.filter p).mergeSort entryLe).foldl f s := by
  rw [← filter_mergeSort nodup, List.foldl_filter]
  refine List.foldl_ext _ _ s fun s e he => ?_
  cases h : p e with
  | true => rfl
  | false => exact quiet e (List.mem_mergeSort.1 he) h s

end Sorting

end DomainAtlas
