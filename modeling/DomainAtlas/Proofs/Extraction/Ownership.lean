import DomainAtlas.Proofs.Extraction.ClassDefinition

/-!
# Whose attributes and modifiers count

A definition is about one declaration, the first class of its file. It is final exactly if that
declaration itself has the modifier, or a comment before it has the token. Its domain is taken from an
attribute on that declaration or on one inside it, whichever starts first: a class that has none gets
the domain of a class declared in one of its methods.

Results:
* `domain_and_final_of_definition`: where the two come from, and when the domain is the one of the
  declaration itself.
* `definition_outerClass`: a class without an attribute around one that has one.
-/
namespace DomainAtlas.Extraction

open DomainAtlas.Syntax

section Ownership

variable {root : Node}

theorem self_mem_classesWithin {cls : Located} (h : cls ∈ nodesOfKind .classDeclaration root) :
    cls ∈ classesWithin root cls :=
  List.mem_filter.2 ⟨h, List.isPrefixOf_iff_prefix.2 List.prefix_rfl⟩

/-- The contents that make the domain of a definition: the earliest on the declaration and inside it. -/
theorem domain_definitionAt {sentinel path d : String} {markers : ClassMarkers}
    {space cls name : Located}
    (h : (definitionAt sentinel markers root path space cls name).domain = some d) :
    ∃ owner ∈ classesWithin root cls, ∃ content ∈ attributeContents sentinel owner,
      content.1.text = d ∧ ∀ other ∈ classesWithin root cls,
        ∀ content' ∈ attributeContents sentinel other, content.1.start ≤ content'.1.start := by
  obtain ⟨h, -⟩ := Option.filter_eq_some_iff.1 h
  obtain ⟨content, first, rfl⟩ := Option.map_eq_some_iff.1 h
  obtain ⟨owner, inside, mem⟩ := List.mem_flatMap.1 (mem_of_leading first)
  exact ⟨owner, inside, content, mem, rfl, fun other ho content' hc =>
    start_le_of_earliest first content' (List.mem_flatMap.2 ⟨other, ho, hc⟩)⟩

theorem isFinal_definitionAt_iff {sentinel path : String} {markers : ClassMarkers}
    {space cls name : Located} {final : Bool}
    (h : (definitionAt sentinel markers root path space cls name).isFinal = some final) :
    final = true ↔ (∃ m ∈ childrenAt cls.2 cls.1, m.1.kind = .finalModifier) ∨
      ∃ comment ∈ topComments root, comment.1.start < cls.1.start ∧
        Text.contains comment.1.text markers.finalToken = true := by
  rw [← Option.some.inj h, Bool.or_eq_true, List.any_eq_true, markedBefore_iff]
  simp only [beq_iff_eq, List.mem_singleton, exists_eq_left]

end Ownership

/-- **Ownership.** A definition is final exactly if its declaration has the modifier itself or a comment
before it has the token. Its domain is the content of an attribute on that declaration or on one inside
it, of the first such attribute; if each attribute inside comes after one on the declaration itself, in
particular if there is none inside, it is the content of an attribute on the declaration itself. -/
theorem domain_and_final_of_definition {x : Extractor} {path : String} {root : Node} {r : Definition}
    (given : x.definition .php path root = .ok (some r)) :
    ∃ s cls final, queryString? x.sentinel.toList = some s ∧
      earliest (namedClasses root) = some cls ∧ r.isFinal = some final ∧
      (final = true ↔ (∃ m ∈ childrenAt cls.2 cls.1, m.1.kind = .finalModifier) ∨
        ∃ comment ∈ topComments root, comment.1.start < cls.1.start ∧
          Text.contains comment.1.text x.classes.finalToken = true) ∧
      (∀ d, r.domain = some d → ∃ owner ∈ classesWithin root cls,
        ∃ content ∈ attributeContents (String.ofList s) owner, content.1.text = d) ∧
      ((∀ inner ∈ classesWithin root cls, inner.2 ≠ cls.2 →
          ∀ content ∈ attributeContents (String.ofList s) inner,
            ∃ own ∈ attributeContents (String.ofList s) cls, own.1.start < content.1.start) →
        ∀ d, r.domain = some d →
          ∃ content ∈ attributeContents (String.ofList s) cls, content.1.text = d) := by
  obtain ⟨s, space, cls, name, query, -, declared, -, -, -, rfl⟩ :=
    Extractor.definition_php_iff.1 given
  obtain ⟨final, is⟩ : ∃ final,
      (definitionAt (String.ofList s) x.classes root path space cls name).isFinal = some final := ⟨_, rfl⟩
  refine ⟨s, cls, final, query, declared, is, isFinal_definitionAt_iff is, fun d hd => ?_,
    fun after d hd => ?_⟩
  · obtain ⟨owner, inside, content, mem, text, -⟩ := domain_definitionAt hd
    exact ⟨owner, inside, content, mem, text⟩
  · obtain ⟨owner, inside, content, mem, text, first⟩ := domain_definitionAt hd
    have this := (List.mem_filter.1 (mem_of_leading declared)).1
    by_cases own : owner.2 = cls.2
    · have same := eq_of_mem_nodesOfKind (List.mem_filter.1 inside).1 this own
      exact ⟨content, same ▸ mem, text⟩
    -- a content of the declaration itself would start before the first one
    · obtain ⟨before, hb, less⟩ := after owner inside own content mem
      exact absurd (first cls (self_mem_classesWithin this) before hb) (Nat.not_le.2 less)

/-- An attribute that gives a domain. -/
def packageNode (start : Nat) (domain : String) : Node :=
  .mk .attributeList (some .attributes) false start "" [.mk .attributeGroup none false start "" [
    .mk .attributeItem none false (start + 2) "" [
      .mk .name none false (start + 2) "Package" [],
      .mk .arguments (some .parameters) false (start + 9) "" [.mk .argument none false (start + 10) "" [
        .mk .string none false (start + 10) "" [
          .mk .stringContent none false (start + 11) domain []]]]]]]

/-- The tree of a file with a class, and another one with an attribute in a method of it. -/
def outerClass (before : List Node) (nameStart : Nat) : Node := .mk .program none false 0 "" [
  namespaceNode 6 "A" [],
  classNode 19 before "X" nameStart [.mk .other (some .body) false (nameStart + 2) "" [
    .mk .other none false (nameStart + 6) "" [bodyNode (nameStart + 19) [
      classNode (nameStart + 25) [packageNode (nameStart + 25) "inner"] "Y" (nameStart + 55) []]]]]]

/-- A final class with an attribute of its own has the domain of that. -/
theorem domain_of_outerClass_own :
    let root := outerClass [packageNode 19 "own", .mk .finalModifier none false 37 "final" []] 49
    ∃ r cls, defaultExtractor.definition .php "a.php" root = .ok (some r) ∧
      r.domain = some "own" ∧ r.isFinal = some true ∧ earliest (namedClasses root) = some cls ∧
      ∃ content ∈ attributeContents "Package" cls, content.1.text = "own" := by
  intro root
  have given : defaultExtractor.definition .php "a.php" root =
      .ok (some ⟨"A\\X", some "A", some "X", "a.php", some "own", false, some true⟩) :=
    Extractor.definition_php_iff.2 ⟨_, _, _, _, rfl, rfl, rfl, rfl, by decide, by decide,
      by decide +kernel⟩
  obtain ⟨s, cls, final, query, declared, -, -, -, own⟩ := domain_and_final_of_definition given
  have sentinel : queryString? defaultExtractor.sentinel.toList = some "Package".toList := by decide
  cases query.symm.trans sentinel
  cases declared
  rw [String.ofList_toList] at own
  exact ⟨_, _, given, rfl, rfl, rfl, own (by decide +kernel) "own" rfl⟩

/-- A class without an attribute has the domain of the class in a method of it. -/
theorem definition_outerClass :
    defaultExtractor.definition .php "a.php" (outerClass [] 25) =
      .ok (some ⟨"A\\X", some "A", some "X", "a.php", some "inner", false, some false⟩) ∧
    ∃ cls, earliest (namedClasses (outerClass [] 25)) = some cls ∧
      attributeContents "Package" cls = [] := by
  refine ⟨Extractor.definition_php_iff.2 ⟨_, _, _, _, rfl, rfl, rfl, rfl, by decide, by decide, ?_⟩,
    _, rfl, rfl⟩
  decide +kernel

end DomainAtlas.Extraction
