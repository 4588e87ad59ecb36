import DomainAtlas.Proofs.Index.Views

/-!
# The listing keeps namespaces together

The listing sorts the definitions of a store by a key of three texts: the folded namespace or file name,
the folded class name and the qualified key. Definitions whose first texts agree stand next to each other,
since in a sorted list nothing else fits between them; within such a group the other two texts decide.
The listing is a function of the store and leaves it as it is; that nothing gets lost on the way is said
by putting the listed definitions into an empty store.

Results:
* `leKeys_iff`, `pairwise_sortedByNamespace`: the order of the listing.
* `eq_of_between`: what stands between two members with the same text has that text.
* `sortedByNamespace_grouped`: the listing is complete and grouped.
-/
namespace DomainAtlas

/-! ## The order of the listing -/

theorem leKeys_iff (a b : String × String × String) : leKeys a b = true ↔
    a.1 < b.1 ∨ a.1 = b.1 ∧ (a.2.1 < b.2.1 ∨ a.2.1 = b.2.1 ∧ a.2.2 ≤ b.2.2) := by
  rw [leKeys_eq, byText_iff, byText_iff, ← text_lt_iff, ← text_lt_iff, le_iff, or_comm,
    or_comm (a := a.2.1 < b.2.1)]

theorem fst_le_of_leKeys {a b : String × String × String} (h : leKeys a b = true) : a.1 ≤ b.1 := by
  rcases (leKeys_iff a b).1 h with lt | ⟨eq, -⟩
  · exact ((text_lt_iff _ _).1 lt).2
  · exact String.not_lt.1 fun lt => String.lt_irrefl b.1 (eq ▸ lt)

/-- The listing sorts the definitions by their keys. -/
theorem sortedByNamespace_eq (s : Store) : sortedByNamespace s =
    s.definitions.mergeSort fun a b => leKeys (listingKey a) (listingKey b) := by
  have keyed := List.map_mergeSort (f := fun d => (listingKey d, d)) (l := s.definitions)
    (r := fun a b => leKeys (listingKey a) (listingKey b)) (s := fun a b => leKeys a.1 b.1)
    fun a _ b _ => rfl
  rw [sortedByNamespace, ← keyed, List.map_map]
  exact List.map_id _

theorem pairwise_sortedByNamespace (s : Store) :
    (sortedByNamespace s).Pairwise fun a b => leKeys (listingKey a) (listingKey b) = true := by
  rw [sortedByNamespace_eq]
  exact List.pairwise_mergeSort (fun a b c => leKeys_trans (listingKey a) (listingKey b) (listingKey c))
    (fun a b => leKeys_total (listingKey a) (listingKey b)) _

/-- In a list that is sorted by a text, what stands between two members with the same text has it too. -/
theorem eq_of_between {α : Type} {f : α → String} {front mid back : List α} {a b : α}
    (sorted : (front ++ a :: mid ++ b :: back).Pairwise fun x y => f x ≤ f y) (same : f a = f b) {m : α}
    (hm : m ∈ mid) : f m = f a := by
  obtain ⟨start, -, across⟩ := List.pairwise_append.1 sorted
  have after : f a ≤ f m := (List.pairwise_cons.1 (List.pairwise_append.1 start).2.1).1 m hm
  have before : f m ≤ f b := across m (by simp [hm]) b List.mem_cons_self
  exact String.le_antisymm (same ▸ before) after

/-- **The listing.** It has every definition of the store once, and makes up the same store again.
Definitions with the same namespace, or file name where they have none, stand together whatever the case of
its letters, and are ordered by class name, whatever the case, and then by key. -/
theorem sortedByNamespace_grouped (s : Store) :
    (sortedByNamespace s).Perm s.definitions ∧
      (s.Proper → ∀ key, (Store.ofList (sortedByNamespace s)).get? key = s.get? key) ∧
      (∀ front a mid b back, sortedByNamespace s = front ++ a :: mid ++ b :: back →
        Text.foldCase a.sortKey = Text.foldCase b.sortKey →
          ∀ m ∈ mid, Text.foldCase m.sortKey = Text.foldCase a.sortKey) ∧
      (sortedByNamespace s).Pairwise fun a b => Text.foldCase a.sortKey = Text.foldCase b.sortKey →
        Text.foldCase (a.className.getD "") < Text.foldCase (b.className.getD "") ∨
          Text.foldCase (a.className.getD "") = Text.foldCase (b.className.getD "") ∧
            a.qualifiedKey ≤ b.qualifiedKey := by
  have all := sortedByNamespace_perm s
  have sorted := pairwise_sortedByNamespace s
  refine ⟨all, fun proper key => Option.ext fun d => ?_, fun front a mid b back e same m hm => ?_,
    sorted.imp fun {a b} le same => ?_⟩
  · have distinct : ((sortedByNamespace s).map Definition.qualifiedKey).Nodup :=
      (all.map _).nodup_iff.2 (proper.map_qualifiedKey ▸ proper.nodup)
    rw [Store.get?_ofList_iff distinct, proper.get?_iff, all.mem_iff]
  · have byFirst : (sortedByNamespace s).Pairwise fun x y =>
        Text.foldCase x.sortKey ≤ Text.foldCase y.sortKey :=
      sorted.imp fun {x y} le => fst_le_of_leKeys le
    rw [e] at byFirst
    exact eq_of_between byFirst same hm
  · rcases (leKeys_iff _ _).1 le with lt | ⟨-, rest⟩
    · exact absurd same ((text_lt_iff _ _).1 lt).1
    · exact rest

end DomainAtlas
