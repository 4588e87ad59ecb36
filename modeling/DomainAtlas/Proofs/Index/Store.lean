import DomainAtlas.Index.Store
import Mathlib.Data.List.Induction
import Mathlib.Data.List.Nodup

/-!
# Laws of the stores of a scan

Both stores are lists of entries that only `putEntry` changes. Its laws say what a lookup finds
afterwards, which keys there are and in which order; the laws of `Store` and `UsageIndex` follow.

Results:
* `Store.proper_ofList`, `UsageIndex.proper_ofCalls`: whatever is inserted, no key is listed twice, every
  definition stands at its own key, and no name is without files.
* `Store.get?_ofList`: the last definition inserted at a key is the one found there.
* `Store.keys_ofList`: the keys stand in the order of their first insertion.
* `Store.ofList_definitions`, `Store.items_perm`: a store is rebuilt by inserting its definitions in
  order, and the mapping alone fixes its entries up to order.
* `UsageIndex.filesFor_ofCalls`: one entry for each reference, in order.
-/
namespace DomainAtlas

/-! ## Entries -/

section Entries

variable {α : Type}

theorem lookup_cons_eq (key k : String) (v : α) (es : List (String × α)) :
    ((key, v) :: es).lookup k = if k = key then some v else es.lookup k := by
  by_cases h : k = key
  · simp [h]
  · have : (k == key) = false := by simpa using h
    simp [List.lookup_cons, this, h]

theorem lookup_putEntry (key k : String) (v : α) (es : List (String × α)) :
    (putEntry key v es).lookup k = if k = key then some v else es.lookup k := by
  induction es with
  | nil => exact lookup_cons_eq key k v []
  | cons e es ih =>
    obtain ⟨k', v'⟩ := e
    rw [putEntry]
    split
    · next h =>
      subst h
      rw [lookup_cons_eq, lookup_cons_eq]
      split <;> rfl
    · next h =>
      rw [lookup_cons_eq, lookup_cons_eq, ih]
      by_cases hk : k = k'
      · subst hk; simp [h]
      · simp [hk]

theorem map_fst_putEntry (key : String) (v : α) (es : List (String × α)) :
    (putEntry key v es).map Prod.fst =
      if key ∈ es.map Prod.fst then es.map Prod.fst else es.map Prod.fst ++ [key] := by
  induction es with
  | nil => simp [putEntry]
  | cons e es ih =>
    obtain ⟨k', v'⟩ := e
    rw [putEntry]
    split
    · next h => subst h; simp
    · next h =>
      have hne : key ≠ k' := fun e => h e.symm
      simp only [List.map_cons, ih, List.mem_cons, hne, false_or]
      split <;> rfl

theorem mem_of_mem_putEntry {key : String} {v : α} {es : List (String × α)} {e : String × α}
    (h : e ∈ putEntry key v es) : e = (key, v) ∨ e ∈ es := by
  induction es with
  | nil => simpa [putEntry] using h
  | cons e' es ih =>
    obtain ⟨k', v'⟩ := e'
    rw [putEntry] at h
    split at h
    · next hk =>
      subst hk
      rcases List.mem_cons.1 h with h | h
      · exact .inl h
      · exact .inr (List.mem_cons_of_mem _ h)
    · rcases List.mem_cons.1 h with h | h
      · exact .inr (h ▸ List.mem_cons_self)
      · exact (ih h).imp id (List.mem_cons_of_mem _)

theorem nodup_putEntry (key : String) (v : α) {es : List (String × α)}
    (h : (es.map Prod.fst).Nodup) : ((putEntry key v es).map Prod.fst).Nodup := by
  rw [map_fst_putEntry]
  split
  · exact h
  · next hk =>
    refine List.nodup_append.2 ⟨h, by simp, ?_⟩
    intro a ha b hb e
    rw [List.mem_singleton.1 hb] at e
    exact hk (e ▸ ha)

/-- A new key goes to the end. -/
theorem putEntry_of_notMem {key : String} {es : List (String × α)} (v : α)
    (h : key ∉ es.map Prod.fst) : putEntry key v es = es ++ [(key, v)] := by
  induction es with
  | nil => rfl
  | cons e es ih =>
    obtain ⟨k', v'⟩ := e
    simp only [List.map_cons, List.mem_cons, not_or] at h
    rw [putEntry, if_neg fun e => h.1 e.symm, ih h.2, List.cons_append]

/-- A key that stands last is overwritten there. -/
theorem putEntry_append_singleton {key : String} {es : List (String × α)} (v w : α)
    (h : key ∉ es.map Prod.fst) : putEntry key w (es ++ [(key, v)]) = es ++ [(key, w)] := by
  induction es with
  | nil => simp [putEntry]
  | cons e es ih =>
    obtain ⟨k', v'⟩ := e
    simp only [List.map_cons, List.mem_cons, not_or] at h
    rw [List.cons_append, putEntry, if_neg fun e => h.1 e.symm, ih h.2, List.cons_append]

/-- Putting entries of new keys one after the other appends them. -/
theorem foldl_putEntry (es rest : List (String × α)) (h : ((es ++ rest).map Prod.fst).Nodup) :
    rest.foldl (fun acc e => putEntry e.1 e.2 acc) es = es ++ rest := by
  induction rest generalizing es with
  | nil => simp
  | cons e rest ih =>
    have hnot : e.1 ∉ es.map Prod.fst := by
      rw [List.map_append, List.map_cons] at h
      intro hm
      exact (List.nodup_append.1 h).2.2 _ hm _ List.mem_cons_self rfl
    rw [List.foldl_cons, putEntry_of_notMem _ hnot, ih _ (by simpa using h)]
    simp

theorem lookup_eq_some_iff_mem {es : List (String × α)} (h : (es.map Prod.fst).Nodup)
    (k : String) (v : α) : es.lookup k = some v ↔ (k, v) ∈ es := by
  induction es with
  | nil => simp
  | cons e es ih =>
    obtain ⟨k', v'⟩ := e
    simp only [List.map_cons, List.nodup_cons] at h
    rw [lookup_cons_eq, List.mem_cons]
    by_cases hk : k = k'
    · subst hk
      have hnot : (k, v) ∉ es := fun hm => h.1 (List.mem_map.2 ⟨_, hm, rfl⟩)
      simp [hnot, eq_comm]
    · simp [hk, ih h.2]

/-- The mapping fixes the entries up to order. -/
theorem perm_of_lookup_eq {es fs : List (String × α)} (he : (es.map Prod.fst).Nodup)
    (hf : (fs.map Prod.fst).Nodup) (h : ∀ k, es.lookup k = fs.lookup k) : es.Perm fs := by
  refine (List.perm_ext_iff_of_nodup (List.Nodup.of_map _ he) (List.Nodup.of_map _ hf)).2 ?_
  intro e
  rw [← lookup_eq_some_iff_mem he e.1 e.2, ← lookup_eq_some_iff_mem hf e.1 e.2, h]

end Entries

/-! ## Definitions -/

namespace Store

/-- No key is listed twice, and every definition stands at its own key. -/
structure Proper (s : Store) : Prop where
  nodup : (s.items.map Prod.fst).Nodup
  own : ∀ e ∈ s.items, e.1 = e.2.qualifiedKey

theorem proper_empty : empty.Proper := ⟨by simp [empty], by simp [empty]⟩

theorem Proper.insert {s : Store} (h : s.Proper) (d : Definition) : (s.insert d).Proper := by
  refine ⟨nodup_putEntry _ _ h.nodup, fun e he => ?_⟩
  rcases mem_of_mem_putEntry he with rfl | he
  · rfl
  · exact h.own e he

theorem Proper.foldl_insert (ds : List Definition) {s : Store} (h : s.Proper) :
    (ds.foldl Store.insert s).Proper := by
  induction ds generalizing s with
  | nil => exact h
  | cons d ds ih => exact ih (h.insert d)

theorem proper_ofList (ds : List Definition) : (ofList ds).Proper := proper_empty.foldl_insert ds

@[simp] theorem get?_empty (k : String) : empty.get? k = none := rfl

theorem get?_insert (s : Store) (d : Definition) (k : String) :
    (s.insert d).get? k = if k = d.qualifiedKey then some d else s.get? k :=
  lookup_putEntry d.qualifiedKey k d s.items

/-- The last definition inserted at a key is found there. -/
theorem get?_foldl_insert (ds : List Definition) (s : Store) (k : String) :
    (ds.foldl Store.insert s).get? k =
      ((ds.filter fun d => d.qualifiedKey = k).getLast?).or (s.get? k) := by
  induction ds generalizing s with
  | nil => simp
  | cons d ds ih =>
    rw [List.foldl_cons, ih, get?_insert]
    by_cases hk : k = d.qualifiedKey
    · subst hk
      rw [if_pos rfl, List.filter_cons_of_pos (by simp)]
      cases ds.filter fun e => e.qualifiedKey = d.qualifiedKey with
      | nil => simp
      | cons e es => simp [List.getLast?_cons]
    · rw [if_neg hk, List.filter_cons_of_neg (by simpa using fun e => hk e.symm)]

theorem get?_ofList (ds : List Definition) (k : String) :
    (ofList ds).get? k = (ds.filter fun d => d.qualifiedKey = k).getLast? := by
  rw [ofList, get?_foldl_insert, get?_empty, Option.or_none]

theorem keys_insert (s : Store) (d : Definition) :
    (s.insert d).keys = if d.qualifiedKey ∈ s.keys then s.keys else s.keys ++ [d.qualifiedKey] :=
  map_fst_putEntry d.qualifiedKey d s.items

theorem ofList_concat (ds : List Definition) (d : Definition) :
    ofList (ds ++ [d]) = (ofList ds).insert d := by
  rw [ofList, List.foldl_append]
  rfl

/-- The keys stand in the order in which they were inserted first. -/
theorem keys_ofList (ds : List Definition) :
    (ofList ds).keys = (ds.map Definition.qualifiedKey).eraseDups := by
  induction ds using List.reverseRecOn with
  | nil => rfl
  | append_singleton ds d ih =>
    rw [ofList_concat, keys_insert, ih, List.map_append, List.eraseDups_append]
    by_cases h : d.qualifiedKey ∈ ds.map Definition.qualifiedKey
    · rw [if_pos (List.mem_eraseDups.mpr h)]
      simp [List.removeAll, List.mem_map.mp h]
    · rw [if_neg (mt List.mem_eraseDups.mp h)]
      have new : ¬ ∃ e ∈ ds, e.qualifiedKey = d.qualifiedKey := by simpa using h
      simp [List.removeAll, new, List.eraseDups_cons]

theorem mem_definitions_insert {s : Store} {d e : Definition}
    (h : e ∈ (s.insert d).definitions) : e = d ∨ e ∈ s.definitions := by
  obtain ⟨x, hx, rfl⟩ := List.mem_map.1 h
  rcases mem_of_mem_putEntry hx with rfl | hx
  · exact .inl rfl
  · exact .inr (List.mem_map.2 ⟨x, hx, rfl⟩)

theorem mem_of_mem_definitions_foldl {ds : List Definition} {s : Store} {e : Definition}
    (h : e ∈ (ds.foldl Store.insert s).definitions) : e ∈ ds ∨ e ∈ s.definitions := by
  induction ds generalizing s with
  | nil => exact .inr h
  | cons d ds ih =>
    rcases ih h with h | h
    · exact .inl (List.mem_cons_of_mem _ h)
    · rcases mem_definitions_insert h with rfl | h
      · exact .inl List.mem_cons_self
      · exact .inr h

theorem mem_of_mem_definitions_ofList {ds : List Definition} {e : Definition}
    (h : e ∈ (ofList ds).definitions) : e ∈ ds := by
  rcases mem_of_mem_definitions_foldl h with h | h
  · exact h
  · simp [definitions, empty] at h

theorem items_foldl_insert {es : List (String × Definition)}
    (own : ∀ e ∈ es, e.1 = e.2.qualifiedKey) (s : Store) :
    ((es.map Prod.snd).foldl Store.insert s).items =
      es.foldl (fun acc e => putEntry e.1 e.2 acc) s.items := by
  induction es generalizing s with
  | nil => rfl
  | cons e es ih =>
    rw [List.map_cons, List.foldl_cons, List.foldl_cons,
      ih fun x hx => own x (List.mem_cons_of_mem _ hx), own e List.mem_cons_self]
    rfl

/-- Inserting the definitions of a store in order gives it back. -/
theorem ofList_definitions {s : Store} (h : s.Proper) : ofList s.definitions = s := by
  have items := items_foldl_insert h.own empty
  rw [show empty.items = [] from rfl, foldl_putEntry [] s.items (by simpa using h.nodup)] at items
  show (s.items.map Prod.snd).foldl Store.insert empty = s
  exact congrArg Store.mk items

/-- A definition is found at its own key. -/
theorem Proper.get?_of_mem {s : Store} (h : s.Proper) {d : Definition} (hd : d ∈ s.definitions) :
    s.get? d.qualifiedKey = some d := by
  obtain ⟨e, he, rfl⟩ := List.mem_map.1 hd
  rw [← h.own e he]
  exact (lookup_eq_some_iff_mem h.nodup e.1 e.2).2 he

/-- The definition at a key is the one that has this key. -/
theorem Proper.get?_iff {s : Store} (h : s.Proper) {key : String} {d : Definition} :
    s.get? key = some d ↔ d ∈ s.definitions ∧ d.qualifiedKey = key := by
  constructor
  · intro found
    have mem := (lookup_eq_some_iff_mem h.nodup key d).1 found
    exact ⟨List.mem_map_of_mem mem, (h.own _ mem).symm⟩
  · rintro ⟨mem, rfl⟩
    exact h.get?_of_mem mem

theorem get?_eq_none_iff {s : Store} {key : String} : s.get? key = none ↔ key ∉ s.keys := by
  rw [get?, List.lookup_eq_none_iff, keys, List.mem_map]
  constructor
  · rintro none ⟨e, he, rfl⟩
    simpa using none e he
  · intro absent e he
    exact bne_iff_ne.2 fun same => absent ⟨e, he, same.symm⟩

theorem Proper.map_qualifiedKey {s : Store} (h : s.Proper) :
    s.definitions.map Definition.qualifiedKey = s.keys := by
  rw [definitions, keys, List.map_map]
  exact List.map_congr_left fun e he => (h.own e he).symm

/-- Where no two definitions have the same key, each is found at its own. -/
theorem get?_ofList_iff {ds : List Definition} (distinct : (ds.map Definition.qualifiedKey).Nodup)
    {key : String} {d : Definition} :
    (ofList ds).get? key = some d ↔ d ∈ ds ∧ d.qualifiedKey = key := by
  rw [get?_ofList]
  constructor
  · intro found
    simpa using List.mem_of_getLast? found
  · rintro ⟨mem, rfl⟩
    have here : d ∈ ds.filter fun e => e.qualifiedKey = d.qualifiedKey := by simpa using mem
    obtain ⟨e, last⟩ := Option.isSome_iff_exists.1 (List.getLast?_isSome.2 (List.ne_nil_of_mem here))
    have he := List.mem_filter.1 (List.mem_of_getLast? last)
    rw [last, List.inj_on_of_nodup_map distinct he.1 mem (by simpa using he.2)]

theorem items_perm {s t : Store} (hs : s.Proper) (ht : t.Proper)
    (h : ∀ k, s.get? k = t.get? k) : s.items.Perm t.items :=
  perm_of_lookup_eq hs.nodup ht.nodup h

end Store

/-! ## References -/

/-- A call that adds references to an index. -/
inductive UsageCall where
  | add (name file : String)
  | extend (names : List String) (file : String)

/-- The files that a call adds to a name, one for each reference. -/
def UsageCall.filesOf (name : String) : UsageCall → List String
  | .add n file => if n = name then [file] else []
  | .extend names file => List.replicate (names.count name) file

namespace UsageIndex

def call (u : UsageIndex) : UsageCall → UsageIndex
  | .add name file => u.add name file
  | .extend names file => u.extend names file

def ofCalls (cs : List UsageCall) : UsageIndex := cs.foldl call empty

/-- No name is listed twice, and none is without files. -/
structure Proper (u : UsageIndex) : Prop where
  nodup : (u.items.map Prod.fst).Nodup
  filled : ∀ e ∈ u.items, e.2 ≠ []

theorem proper_empty : empty.Proper := ⟨by simp [empty], by simp [empty]⟩

theorem Proper.add {u : UsageIndex} (h : u.Proper) (name file : String) :
    (u.add name file).Proper := by
  refine ⟨nodup_putEntry _ _ h.nodup, fun e he => ?_⟩
  rcases mem_of_mem_putEntry he with rfl | he
  · simp
  · exact h.filled e he

theorem Proper.extend (names : List String) (file : String) {u : UsageIndex} (h : u.Proper) :
    (u.extend names file).Proper := by
  induction names generalizing u with
  | nil => exact h
  | cons n names ih => exact ih (h.add n file)

theorem Proper.call {u : UsageIndex} (h : u.Proper) (c : UsageCall) : (u.call c).Proper := by
  cases c with
  | add name file => exact h.add name file
  | extend names file => exact h.extend names file

theorem Proper.foldl_call (cs : List UsageCall) {u : UsageIndex} (h : u.Proper) :
    (cs.foldl UsageIndex.call u).Proper := by
  induction cs generalizing u with
  | nil => exact h
  | cons c cs ih => exact ih (h.call c)

theorem proper_ofCalls (cs : List UsageCall) : (ofCalls cs).Proper := proper_empty.foldl_call cs

theorem filesFor_add (u : UsageIndex) (name file n : String) :
    (u.add name file).filesFor n =
      if n = name then u.filesFor name ++ [file] else u.filesFor n := by
  unfold filesFor add
  rw [lookup_putEntry]
  split
  · next h => simp [filesFor]
  · rfl

/-- Each reference adds the file once. -/
theorem filesFor_extend (names : List String) (file n : String) (u : UsageIndex) :
    (u.extend names file).filesFor n =
      u.filesFor n ++ List.replicate (names.count n) file := by
  induction names generalizing u with
  | nil => simp [extend]
  | cons m names ih =>
    rw [show u.extend (m :: names) file = (u.add m file).extend names file from rfl, ih,
      filesFor_add]
    by_cases h : n = m
    · subst h
      rw [if_pos rfl, List.count_cons_self, List.replicate_succ, List.append_assoc]
      rfl
    · rw [if_neg h, List.count_cons_of_ne fun e => h e.symm]

theorem filesFor_foldl_call (cs : List UsageCall) (u : UsageIndex) (name : String) :
    (cs.foldl call u).filesFor name = u.filesFor name ++ cs.flatMap (UsageCall.filesOf name) := by
  induction cs generalizing u with
  | nil => simp
  | cons c cs ih =>
    have one : (u.call c).filesFor name = u.filesFor name ++ c.filesOf name := by
      cases c with
      | add n file =>
        rw [call, filesFor_add, UsageCall.filesOf]
        by_cases h : name = n
        · subst h
          simp
        · rw [if_neg h, if_neg fun e => h e.symm, List.append_nil]
      | extend names file => exact filesFor_extend names file name u
    rw [List.foldl_cons, ih, one, List.append_assoc, List.flatMap_cons]

/-- A name has the files of all calls that mention it, in order. -/
theorem filesFor_ofCalls (cs : List UsageCall) (name : String) :
    (ofCalls cs).filesFor name = cs.flatMap (UsageCall.filesOf name) :=
  filesFor_foldl_call cs empty name

/-- A name is listed exactly if it has files. -/
theorem contains_iff {u : UsageIndex} (h : u.Proper) (name : String) :
    u.contains name = true ↔ u.filesFor name ≠ [] := by
  unfold contains filesFor
  cases hl : u.items.lookup name with
  | none => simp
  | some files =>
    have := h.filled _ ((lookup_eq_some_iff_mem h.nodup name files).1 hl)
    simpa using this

end UsageIndex

end DomainAtlas
