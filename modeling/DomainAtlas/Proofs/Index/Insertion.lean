import DomainAtlas.Proofs.Index.Store
import Mathlib.Data.Finset.Card

/-!
# What a store says about the insertions behind it

A store starts empty, and definitions are inserted one after the other. Everything it answers follows
from the list of these definitions: `latest` is the one inserted last at a key, and `distinctKeys` lists
the keys in the order in which they came up. `Recounts` says so for each of the store's views, and the
answers of the insertions themselves are what a lookup would have said just before.

Results:
* `getElem?_putEntry_of_ne`: an insertion moves and changes no entry of another key.
* `recounts_ofList`: the views of a store after any insertions.
* `exchanged_eq`: the answers of a run of insertions.
* `exchanged_recounts`: all of it for every list of definitions.
-/
namespace DomainAtlas

/-- Setting one key leaves the entries of all others where they are. -/
theorem getElem?_putEntry_of_ne {α : Type} {key k : String} (h : k ≠ key) (v w : α)
    (es : List (String × α)) (i : Nat) :
    (putEntry key v es)[i]? = some (k, w) ↔ es[i]? = some (k, w) := by
  have fresh : (key, v) ≠ (k, w) := fun e => h (Prod.mk.inj e).1.symm
  induction es generalizing i with
  | nil => cases i <;> simp [putEntry, fresh]
  | cons e es ih =>
    obtain ⟨k', v'⟩ := e
    rw [putEntry]
    split
    · next same =>
      -- Only the first entry differs, and neither version of it has the key `k`.
      have old : (k', v') ≠ (k, w) := fun e => h ((Prod.mk.inj e).1.symm.trans same)
      have new : (k', v) ≠ (k, w) := fun e => h ((Prod.mk.inj e).1.symm.trans same)
      cases i <;> simp [old, new]
    · cases i with
      | zero => simp
      | succ i => simpa using ih i

namespace Store

/-! ## Views -/

def latest (ds : List Definition) (key : String) : Option Definition :=
  (ds.filter fun d => d.qualifiedKey = key).getLast?

/-- The keys of some definitions, each where it comes up first. -/
def distinctKeys (ds : List Definition) : List String := (ds.map Definition.qualifiedKey).eraseDups

/-- A store whose views all follow from the definitions inserted, the first one first. -/
structure Recounts (ds : List Definition) (s : Store) : Prop where
  get? : ∀ key, s.get? key = latest ds key
  contains : ∀ key, s.contains key = true ↔ ∃ d ∈ ds, d.qualifiedKey = key
  keys : s.keys = distinctKeys ds
  definitions : s.definitions.map some = (distinctKeys ds).map (latest ds)
  items : s.items = s.keys.zip s.definitions
  own : ∀ e ∈ s.items, e.1 = e.2.qualifiedKey
  size : s.size = (ds.map Definition.qualifiedKey).toFinset.card
  rebuilt : ofList s.definitions = s

theorem latest_isSome_iff {ds : List Definition} {key : String} :
    (latest ds key).isSome = true ↔ ∃ d ∈ ds, d.qualifiedKey = key := by
  rw [latest, List.getLast?_isSome, ne_eq, List.filter_eq_nil_iff]
  simp

/-- The definitions of a store are those found at its keys. -/
theorem Proper.map_some_definitions {s : Store} (h : s.Proper) :
    s.definitions.map some = s.keys.map s.get? := by
  rw [Store.definitions, Store.keys, List.map_map, List.map_map]
  refine List.map_congr_left fun e he => ?_
  exact ((lookup_eq_some_iff_mem h.nodup e.1 e.2).2 he).symm

theorem length_keys (s : Store) : s.keys.length = s.size := List.length_map Prod.fst

theorem recounts_ofList (ds : List Definition) : Recounts ds (ofList ds) := by
  have proper := proper_ofList ds
  have found : (ofList ds).get? = latest ds := funext fun key => get?_ofList ds key
  have keys : (ofList ds).keys = distinctKeys ds := keys_ofList ds
  refine ⟨get?_ofList ds, fun key => ?_, keys, ?_, ?_, proper.own, ?_, ofList_definitions proper⟩
  · rw [Store.contains, found, latest_isSome_iff]
  · rw [proper.map_some_definitions, found, keys]
  · exact (List.zip_unzip (ofList ds).items).symm.trans (by rw [List.unzip_eq_map]; rfl)
  · have nodup : (ofList ds).keys.Nodup := proper.nodup
    have same : (ofList ds).keys.toFinset = (ds.map Definition.qualifiedKey).toFinset := by
      ext key
      rw [keys, List.mem_toFinset, List.mem_toFinset, distinctKeys, List.mem_eraseDups]
    rw [← length_keys, ← List.toFinset_card_of_nodup nodup, same]

/-! ## Runs -/

/-- Definitions inserted in order: what each of them replaced, and the store after all of them. -/
def exchanged (s : Store) : List Definition → List (Option Definition) × Store
  | [] => ([], s)
  | d :: ds =>
    let step := s.exchange d
    let rest := exchanged step.2 ds
    (step.1 :: rest.1, rest.2)

/-- What the insertions answer that follow others. -/
def answersAfter (front : List Definition) : List Definition → List (Option Definition)
  | [] => []
  | d :: ds => latest front d.qualifiedKey :: answersAfter (front ++ [d]) ds

/-- A run of insertions that follows others: it goes on from their store. -/
theorem exchanged_eq (front ds : List Definition) :
    exchanged (ofList front) ds = (answersAfter front ds, ofList (front ++ ds)) := by
  induction ds generalizing front with
  | nil => simp [exchanged, answersAfter]
  | cons d ds ih =>
    have step : (ofList front).exchange d = (latest front d.qualifiedKey, ofList (front ++ [d])) := by
      rw [exchange, get?_ofList, ofList_concat]
      rfl
    rw [exchanged, step, ih (front ++ [d]), List.append_assoc]
    rfl

theorem getElem?_answersAfter (front ds : List Definition) (i : Nat) :
    (answersAfter front ds)[i]? =
      ds[i]?.map fun d => latest (front ++ ds.take i) d.qualifiedKey := by
  induction ds generalizing front i with
  | nil => simp [answersAfter]
  | cons d ds ih =>
    cases i with
    | zero => simp [answersAfter]
    | succ i => simp [answersAfter, ih]

/-- **The last write wins.** For every list of definitions inserted one after the other: the views of
the store follow from the list; each insertion answers what was inserted last at its key among those
before it, which is what a lookup says at that time; and one more insertion leaves the entries of all
other keys where they are and as they are. -/
theorem exchanged_recounts (ds : List Definition) :
    Recounts ds (exchanged empty ds).2 ∧
    (∀ i, (exchanged empty ds).1[i]? = ds[i]?.map fun d => latest (ds.take i) d.qualifiedKey) ∧
    (∀ i, (exchanged empty ds).1[i]? =
      ds[i]?.map fun d => (exchanged empty (ds.take i)).2.get? d.qualifiedKey) ∧
    ∀ (d : Definition) (i : Nat) (key : String) (e : Definition), key ≠ d.qualifiedKey →
      (((exchanged empty ds).2.exchange d).2.items[i]? = some (key, e) ↔
        (exchanged empty ds).2.items[i]? = some (key, e)) := by
  have run (ds : List Definition) : exchanged empty ds = (answersAfter [] ds, ofList ds) :=
    exchanged_eq [] ds
  refine ⟨?_, fun i => ?_, fun i => ?_, fun d i key e other => ?_⟩
  · rw [run]
    exact recounts_ofList ds
  · rw [run, getElem?_answersAfter, List.nil_append]
  · rw [run, getElem?_answersAfter, List.nil_append, run]
    simp only [get?_ofList, latest]
  · exact getElem?_putEntry_of_ne other d e _ i

end Store

end DomainAtlas
