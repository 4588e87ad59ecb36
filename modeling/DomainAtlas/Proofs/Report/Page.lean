import DomainAtlas.Proofs.Index.Views
import DomainAtlas.Report.Page

/-!
# The report does not depend on the order of a store

The page shows the three views and, of a usage, only what `UsageEntry.shown` keeps. Stores filled in
different orders therefore give the same page, character by character.

Results:
* `Report.render_congr`: the same mapping and the same counts give the same page.
* `Report.render_ofList`: so do stores and indexes that were filled in any order.
-/
namespace DomainAtlas.Report

/-- The rows of the usages show nothing but the name, the count and the definition. -/
theorem flatMap_usageRow (es : List UsageEntry) :
    es.flatMap usageRow =
      (es.map UsageEntry.shown).flatMap fun x => usageRow ⟨x.1, x.2.1, [], x.2.2⟩ := by
  rw [List.flatMap_map]
  rfl

theorem usagesPart_congr {es fs : List UsageEntry}
    (h : es.map UsageEntry.shown = fs.map UsageEntry.shown) : usagesPart es = usagesPart fs := by
  have length : es.length = fs.length := by simpa using congrArg List.length h
  rw [usagesPart, usagesPart, flatMap_usageRow, flatMap_usageRow, h, length]

/-- Two usage indexes, where there are any, that hold the same number of files for every name. -/
def SameCounts : Option UsageIndex → Option UsageIndex → Prop
  | none, none => True
  | some u, some v => u.Proper ∧ v.Proper ∧ ∀ name, u.count name = v.count name
  | _, _ => False

theorem render_congr (head : ReportHead) {s t : Store} {u v : Option UsageIndex} (hs : s.Proper)
    (ht : t.Proper) (same : ∀ key, s.get? key = t.get? key) (counts : SameCounts u v) :
    render head s u = render head t v := by
  unfold render pieces
  rw [domainBuckets_congr hs ht same, sortedByNamespace_congr hs ht same]
  match u, v, counts with
  | none, none, _ => rfl
  | some u, some v, ⟨hu, hv, counts⟩ =>
    simp only [usagesPart_congr (usageFrequency_congr hu hv counts same)]

/-- **The order of insertion.** Two stores with the same definition at every key, and two usage indexes
with the same number of files for every name, whatever the order they were filled in: the buckets and
the listing are equal, the usages are equal in name, count and definition, and so are the pages. -/
theorem render_ofList (ds es : List Definition) (us vs : List UsageCall)
    (definitions : ∀ key, (Store.ofList ds).get? key = (Store.ofList es).get? key)
    (references : ∀ name, (UsageIndex.ofCalls us).count name = (UsageIndex.ofCalls vs).count name) :
    domainBuckets (Store.ofList ds) = domainBuckets (Store.ofList es) ∧
    sortedByNamespace (Store.ofList ds) = sortedByNamespace (Store.ofList es) ∧
    (usageFrequency (UsageIndex.ofCalls us) (Store.ofList ds)).map UsageEntry.shown =
      (usageFrequency (UsageIndex.ofCalls vs) (Store.ofList es)).map UsageEntry.shown ∧
    ∀ head, render head (Store.ofList ds) none = render head (Store.ofList es) none ∧
      render head (Store.ofList ds) (some (UsageIndex.ofCalls us)) =
        render head (Store.ofList es) (some (UsageIndex.ofCalls vs)) := by
  have hs := Store.proper_ofList ds
  have ht := Store.proper_ofList es
  have hu := UsageIndex.proper_ofCalls us
  have hv := UsageIndex.proper_ofCalls vs
  refine ⟨domainBuckets_congr hs ht definitions, sortedByNamespace_congr hs ht definitions,
    usageFrequency_congr hu hv references definitions, fun head => ⟨?_, ?_⟩⟩
  · exact render_congr head hs ht definitions trivial
  · exact render_congr head hs ht definitions ⟨hu, hv, references⟩

/-- Two definitions that fold to the same listing key but for the qualified key. -/
def twins : List Definition :=
  [⟨"Shop\\Cart", some "Shop", some "Cart", "a.php", some "checkout", false, some true⟩,
    ⟨"shop\\CART", some "shop", some "CART", "b.php", none, true, some false⟩]

theorem render_ofList_twins :
    (∀ key, (Store.ofList twins).get? key = (Store.ofList twins.reverse).get? key) ∧
    (∀ name, (UsageIndex.ofCalls [.add "Shop\\Cart" "a.php", .add "Money" "b.php"]).count name =
      (UsageIndex.ofCalls [.add "Money" "c.php", .add "Shop\\Cart" "c.php"]).count name) ∧
    sortedByNamespace (Store.ofList twins) = sortedByNamespace (Store.ofList twins.reverse) ∧
    ∀ head, render head (Store.ofList twins) (some (UsageIndex.ofCalls
        [.add "Shop\\Cart" "a.php", .add "Money" "b.php"])) =
      render head (Store.ofList twins.reverse) (some (UsageIndex.ofCalls
        [.add "Money" "c.php", .add "Shop\\Cart" "c.php"])) := by
  have definitions : ∀ key,
      (Store.ofList twins).get? key = (Store.ofList twins.reverse).get? key := by
    intro key
    simp only [twins, Store.ofList, List.reverse_cons, List.reverse_nil, List.nil_append,
      List.cons_append, List.foldl_cons, List.foldl_nil, Store.get?_insert, Store.get?_empty]
    split_ifs with h1 h2
    · exact absurd (h1.symm.trans h2) (by decide)
    · rfl
    · rfl
    · rfl
  have references : ∀ name,
      (UsageIndex.ofCalls [.add "Shop\\Cart" "a.php", .add "Money" "b.php"]).count name =
        (UsageIndex.ofCalls [.add "Money" "c.php", .add "Shop\\Cart" "c.php"]).count name := by
    intro name
    by_cases h1 : name = "Money"
    · subst h1; decide
    by_cases h2 : name = "Shop\\Cart"
    · subst h2; decide
    · simp [UsageIndex.ofCalls, UsageIndex.call, UsageIndex.count, UsageIndex.filesFor_add, h1, h2]
  obtain ⟨-, listing, -, page⟩ := render_ofList twins twins.reverse _ _ definitions references
  exact ⟨definitions, references, listing, fun head => (page head).2⟩

end DomainAtlas.Report
