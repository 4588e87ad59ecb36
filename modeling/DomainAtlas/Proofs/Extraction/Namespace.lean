import DomainAtlas.Proofs.Extraction.ClassDefinition

/-!
# The namespace in the key of a class

The key of a class is meant to be its full name: the namespace it is declared in, and its own name. A
class lies in the namespace whose braces enclose it, or else in that of the last namespace statement
without braces before it (`scope`). The definition of a file has the first namespace name of the file
instead, wherever its first class stands. So the key is the full name exactly if the namespace of the
class is called like the first one of the file.

Results:
* `namespaceName_eq_scope_iff`: what the key of a definition is, and when its namespace is the one the
  class lies in.
* `definition_twoSpaces`: a class in the second of two namespaces.
-/
namespace DomainAtlas.Extraction

open DomainAtlas.Syntax

/-- Whether a node lies in the body in braces of a namespace. -/
def encloses (space at' : Located) : Bool :=
  (inField .body .compoundStatement space).any fun body => body.2.isPrefixOf at'.2

/-- The namespace definition in whose scope a node lies: the innermost that encloses it, or else the
last one without braces that starts before it. -/
def scope (root : Node) (at' : Located) : Option Located :=
  let spaces := nodesOfKind .namespaceDefinition root
  match (spaces.filter fun space => encloses space at').getLast? with
  | some space => some space
  | none => (spaces.filter fun space => (inField .body .compoundStatement space).isEmpty &&
      decide (space.1.start < at'.1.start)).getLast?

/-- The name of the namespace in whose scope a node lies; none if it lies in no namespace, or in one
without a name. -/
def scopeName (root : Node) (at' : Located) : Option String :=
  (scope root at').bind fun space => (earliest (inField .name .namespaceName space)).map (·.1.text)

section Scopes

variable {root : Node} {at' : Located}

theorem mem_of_scope {space : Located} (h : scope root at' = some space) :
    space ∈ nodesOfKind .namespaceDefinition root := by
  unfold scope at h
  dsimp only at h
  split at h
  · next last =>
    cases h
    exact (List.mem_filter.1 (List.mem_of_getLast? last)).1
  · exact (List.mem_filter.1 (List.mem_of_getLast? h)).1

theorem scopeName_eq_some_iff {text : String} : scopeName root at' = some text ↔
    ∃ space name, scope root at' = some space ∧
      earliest (inField .name .namespaceName space) = some name ∧ name.1.text = text := by
  simp [scopeName, Option.bind_eq_some_iff]

/-- The name of a scope is one of the namespace names of the file. -/
theorem exists_of_scopeName {text : String} (h : scopeName root at' = some text) :
    ∃ name ∈ namespaceNames root, name.1.text = text := by
  obtain ⟨space, name, hs, hn, ht⟩ := scopeName_eq_some_iff.1 h
  exact ⟨name, List.mem_flatMap.2 ⟨space, mem_of_scope hs, mem_of_leading hn⟩, ht⟩

end Scopes

/-- **Keys of classes.** The key of a definition is made of the first namespace name of the file and of
the name of its first class declaration. The namespace is the one this declaration lies in exactly if
that is called like the first one; so it is in a file where all namespaces have one name, if the
declaration lies in one of them. -/
theorem namespaceName_eq_scope_iff {x : Extractor} {path : String} {root : Node} {r : Definition}
    (given : x.definition .php path root = .ok (some r)) :
    ∃ space cls name, earliest (namespaceNames root) = some space ∧
      earliest (namedClasses root) = some cls ∧ earliest (inField .name .name cls) = some name ∧
      r.namespaceName = some space.1.text ∧ r.className = some name.1.text ∧
      r.qualifiedKey = space.1.text ++ "\\" ++ name.1.text ∧
      (r.namespaceName = scopeName root cls ↔ ∃ home called, scope root cls = some home ∧
        earliest (inField .name .namespaceName home) = some called ∧
        called.1.text = space.1.text) ∧
      ((∀ other ∈ namespaceNames root, other.1.text = space.1.text) →
        scopeName root cls ≠ none → r.namespaceName = scopeName root cls) := by
  obtain ⟨s, space, cls, name, -, first, declared, named, -, -, rfl⟩ :=
    Extractor.definition_php_iff.1 given
  refine ⟨space, cls, name, first, declared, named, rfl, rfl, rfl, ?_, fun same inside => ?_⟩
  · rw [← scopeName_eq_some_iff]
    exact eq_comm
  · obtain ⟨text, ht⟩ := Option.ne_none_iff_exists'.1 inside
    obtain ⟨other, mem, rfl⟩ := exists_of_scopeName ht
    rw [ht, same other mem]
    rfl

/-- The tree of a file with two namespaces in braces and a class in each. -/
def bracedSpaces : Node := .mk .program none false 0 "" [
  namespaceNode 6 "A" [bodyNode 18 [classNode 20 [] "X" 26 []]],
  namespaceNode 33 "B" [bodyNode 45 [classNode 47 [] "Y" 53 []]]]

/-- The first class lies in the first namespace, and that is in its key. -/
theorem namespaceName_eq_scope_bracedSpaces : ∃ r cls,
    defaultExtractor.definition .php "a.php" bracedSpaces = .ok (some r) ∧
      r.qualifiedKey = "A\\X" ∧ earliest (namedClasses bracedSpaces) = some cls ∧
      r.namespaceName = scopeName bracedSpaces cls := by
  have given : defaultExtractor.definition .php "a.php" bracedSpaces =
      .ok (some ⟨"A\\X", some "A", some "X", "a.php", none, false, some false⟩) :=
    Extractor.definition_php_iff.2 ⟨_, _, _, _, rfl, rfl, rfl, rfl, by decide, by decide,
      by decide +kernel⟩
  obtain ⟨space, cls, name, first, declared, -, -, -, -, home, -⟩ := namespaceName_eq_scope_iff given
  cases first
  cases declared
  exact ⟨_, _, given, rfl, rfl, home.2 ⟨_, _, rfl, rfl, rfl⟩⟩

/-- The tree of a file with a namespace statement, another one, and a class. -/
def twoSpaces : Node := .mk .program none false 0 "" [
  namespaceNode 6 "A" [], namespaceNode 35 "B" [], classNode 48 [] "X" 54 []]

/-- The class lies in the second namespace, its key has the first one. -/
theorem definition_twoSpaces :
    defaultExtractor.definition .php "a.php" twoSpaces =
      .ok (some ⟨"A\\X", some "A", some "X", "a.php", none, false, some false⟩) ∧
    ∃ cls, earliest (namedClasses twoSpaces) = some cls ∧ scopeName twoSpaces cls = some "B" := by
  refine ⟨Extractor.definition_php_iff.2 ⟨_, _, _, _, rfl, rfl, rfl, rfl, by decide, by decide, ?_⟩,
    _, rfl, ?_⟩
  · decide +kernel
  · decide +kernel

end DomainAtlas.Extraction
