import DomainAtlas.Proofs.Extraction.ClassDefinition

/-!
# Code behind what a definition is made of

A file that has a definition keeps it when more code is written behind it: whatever follows at the top
of the tree, declarations, namespaces or comments, starts behind the first namespace name and the first
class declaration, has another place than what belongs to that declaration, and is no comment before it.

The added nodes start where they stand, at or behind every node that was there, as the nodes of the tree
of a longer source do. This is all that is assumed of them.

Results:
* `definition_of_continues`: more code at the end of a file leaves its definition.
-/
namespace DomainAtlas.Extraction

open DomainAtlas.Syntax

/-- The tree of a file that goes on with more nodes after the last one of another file: these start at
or behind all nodes that were there. -/
structure Continues (root longer : Node) (more : List Node) : Prop where
  file : root.kind = .program
  longer_file : longer.kind = .program
  children : longer.children = root.children ++ more
  behind : ∀ a ∈ nodesOf [] 0 root.children, ∀ b ∈ nodesOf [] root.children.length more,
    a.1.start ≤ b.1.start

section Appending

variable {root longer : Node} {more : List Node}

/-- The nodes of a kind in a file, its root apart. -/
theorem nodesOfKind_file {k : Kind} (file : root.kind = .program) (ne : k ≠ .program) :
    nodesOfKind k root = (nodesOf [] 0 root.children).filter fun n => n.1.kind == k := by
  rw [nodesOfKind, nodesAt_eq, List.filter_cons, if_neg (by simpa [file] using ne.symm)]

namespace Continues

theorem nodesOf_children (h : Continues root longer more) : nodesOf [] 0 longer.children =
    nodesOf [] 0 root.children ++ nodesOf [] root.children.length more := by
  rw [h.children, nodesOf_append, Nat.zero_add]

theorem nodesOfKind_longer (h : Continues root longer more) {k : Kind} (ne : k ≠ .program) :
    nodesOfKind k longer = nodesOfKind k root ++
      (nodesOf [] root.children.length more).filter fun n => n.1.kind == k := by
  rw [nodesOfKind_file h.longer_file ne, nodesOfKind_file h.file ne, h.nodesOf_children,
    List.filter_append]

/-- What starts first in a file starts first in a longer one. -/
theorem earliest_append (h : Continues root longer more) {old new : List Located} {first : Located}
    (first_old : earliest old = some first) (old_nodes : ∀ a ∈ old, a ∈ nodesOf [] 0 root.children)
    (new_nodes : ∀ b ∈ new, b ∈ nodesOf [] root.children.length more) :
    earliest (old ++ new) = some first := by
  have ne : old ≠ [] := by
    rintro rfl
    cases first_old
  rw [← first_old]
  exact leading_append ne fun a ha b hb =>
    decide_eq_true (h.behind a (old_nodes a ha) b (new_nodes b hb))

theorem earliest_namespaceNames (h : Continues root longer more) {space : Located}
    (first : earliest (namespaceNames root) = some space) :
    earliest (namespaceNames longer) = some space := by
  have names {i : Nat} {ns : List Node} {name : Located}
      (h : name ∈ ((nodesOf [] i ns).filter fun n => n.1.kind == .namespaceDefinition).flatMap
        (inField .name .namespaceName)) : name ∈ nodesOf [] i ns := by
    obtain ⟨parent, hp, h⟩ := List.mem_flatMap.1 h
    exact mem_nodesOf_of_mem_childrenAt (List.mem_filter.1 hp).1 (mem_inField_iff.1 h).1
  rw [namespaceNames, h.nodesOfKind_longer (by decide), List.flatMap_append]
  refine h.earliest_append first (fun a ha => ?_) fun b hb => names hb
  rw [nodesOfKind_file h.file (by decide)] at ha
  exact names ha

theorem earliest_namedClasses (h : Continues root longer more) {cls : Located}
    (first : earliest (namedClasses root) = some cls) :
    earliest (namedClasses longer) = some cls := by
  rw [namedClasses, h.nodesOfKind_longer (by decide), List.filter_append]
  refine h.earliest_append first (fun a ha => ?_) fun b hb =>
    (List.mem_filter.1 (List.mem_filter.1 hb).1).1
  rw [nodesOfKind_file h.file (by decide)] at ha
  exact (List.mem_filter.1 (List.mem_filter.1 ha).1).1

/-- No added node is below a node that was there. -/
theorem not_prefix {a b : Located} (ha : a ∈ nodesOf [] 0 root.children)
    (hb : b ∈ nodesOf [] root.children.length more) : ¬ a.2 <+: b.2 := by
  obtain ⟨j, way, n, hj, ea, -⟩ := (mem_nodesOf_iff _).1 ha
  obtain ⟨j', way', -, -, eb, -⟩ := (mem_nodesOf_iff more).1 hb
  have := (List.getElem?_eq_some_iff.1 hj).1
  rw [ea, eb, List.nil_append, List.nil_append, List.cons_prefix_cons]
  omega

theorem classesWithin_eq (h : Continues root longer more) {cls : Located}
    (here : cls ∈ nodesOf [] 0 root.children) : classesWithin longer cls = classesWithin root cls := by
  have none : ((nodesOf [] root.children.length more).filter
      fun n => n.1.kind == .classDeclaration).filter (fun c => cls.2.isPrefixOf c.2) = [] :=
    List.filter_eq_nil_iff.2 fun c hc up =>
      not_prefix here (List.mem_filter.1 hc).1 (List.isPrefixOf_iff_prefix.1 up)
  rw [classesWithin, h.nodesOfKind_longer (by decide), List.filter_append, none, List.append_nil]
  rfl

/-- But for the added nodes a longer file has the comments that were there. -/
theorem mem_topComments_iff (h : Continues root longer more) {comment : Located}
    (old : comment ∉ nodesOf [] root.children.length more) :
    comment ∈ topComments longer ↔ comment ∈ topComments root := by
  have top : commentsAt (longer, []) = commentsAt (root, []) ++
      (siblingsAt [] root.children.length more).filter fun c => c.1.kind == .comment := by
    simp only [commentsAt, h.file, h.longer_file, ofKind]
    rw [childrenAt_append h.children, List.filter_append]
  have beside : comment ∉
      (siblingsAt [] root.children.length more).filter fun c => c.1.kind == .comment := fun hc =>
    old (mem_nodesOf_of_mem_siblingsAt (List.mem_filter.1 hc).1)
  have inside : comment ∉ (nodesOf [] root.children.length more).flatMap commentsAt := by
    intro hc
    obtain ⟨n, hn, hc⟩ := List.mem_flatMap.1 hc
    exact old (mem_nodesOf_of_mem_commentsAt hn hc)
  rw [topComments, topComments, nodesAt_eq, nodesAt_eq, h.nodesOf_children, List.flatMap_cons,
    List.flatMap_cons, List.flatMap_append, top]
  simp only [List.mem_append, beside, inside, or_false]

theorem markedBefore_eq (h : Continues root longer more) {cls : Located}
    (here : cls ∈ nodesOf [] 0 root.children) (tokens : List String) :
    markedBefore longer cls tokens = markedBefore root cls tokens := by
  rw [Bool.eq_iff_iff, markedBefore_iff, markedBefore_iff]
  refine exists_congr fun comment => and_congr_left fun ⟨before, _⟩ => ?_
  refine h.mem_topComments_iff fun added => ?_
  exact absurd (h.behind cls here comment added) (Nat.not_le.2 before)

end Continues

end Appending

/-- **Appended code.** Whatever follows at the end of a file with a definition, the definition stays. -/
theorem definition_of_continues {x : Extractor} {path : String} {r : Definition}
    {root longer : Node} {more : List Node}
    (given : x.definition .php path root = .ok (some r)) (h : Continues root longer more) :
    x.definition .php path longer = .ok (some r) := by
  obtain ⟨s, space, cls, name, query, first, declared, named, filled, filled', rfl⟩ :=
    Extractor.definition_php_iff.1 given
  have here : cls ∈ nodesOf [] 0 root.children := by
    have mem := (List.mem_filter.1 (mem_of_leading declared)).1
    rw [nodesOfKind_file h.file (by decide)] at mem
    exact (List.mem_filter.1 mem).1
  refine Extractor.definition_php_iff.2 ⟨s, space, cls, name, query, h.earliest_namespaceNames first,
    h.earliest_namedClasses declared, named, filled, filled', ?_⟩
  rw [definitionAt, definitionAt, h.classesWithin_eq here, h.markedBefore_eq here,
    h.markedBefore_eq here]

/-- The tree of a file with a namespace and a class in it. -/
def shortFile : Node := .mk .program none false 0 "" [
  namespaceNode 6 "A" [], classNode 19 [] "X" 25 []]

/-- More of a file: a comment with all markers, another namespace, and a final class in it. -/
def laterNodes : List Node := [
  .mk .comment none false 30 "/* @final @internal */" [],
  namespaceNode 53 "B" [bodyNode 65 [
    classNode 67 [.mk .finalModifier none false 67 "final" []] "Y" 79 []]]]

/-- The longer file has the same definition, neither final nor internal. -/
theorem definition_of_continues_laterNodes :
    let longer := Node.mk .program none false 0 "" (shortFile.children ++ laterNodes)
    Continues shortFile longer laterNodes ∧ defaultExtractor.definition .php "a.php" longer =
      .ok (some ⟨"A\\X", some "A", some "X", "a.php", none, false, some false⟩) := by
  have continues : Continues shortFile (.mk .program none false 0 "" (shortFile.children ++ laterNodes))
      laterNodes := ⟨rfl, rfl, rfl, by decide⟩
  have given : defaultExtractor.definition .php "a.php" shortFile =
      .ok (some ⟨"A\\X", some "A", some "X", "a.php", none, false, some false⟩) :=
    Extractor.definition_php_iff.2 ⟨_, _, _, _, rfl, rfl, rfl, rfl, by decide, by decide,
      by decide +kernel⟩
  exact ⟨continues, definition_of_continues given continues⟩

end DomainAtlas.Extraction
