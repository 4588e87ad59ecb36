import DomainAtlas.Extraction.SourceFile
import DomainAtlas.Proofs.Regex.Search
import DomainAtlas.Proofs.Syntax.Capture

/-!
# Definitions of scripts

A script always gives a definition, and nothing but the texts of the comments at its top decides what is
in it besides its path. With the default markers the domain is what stands behind the package marker: in
the first of those comments that has the marker with a domain behind it, behind the leftmost such marker,
as far as the characters of a domain go. The marker alone does not count, and the search goes on behind
it.

Results:
* `texts_scriptCaptures`: the captures of a script are the comments at its top.
* `search_eq_some_iff`: what the default pattern captures.
* `commentDomain_eq_some_iff`: which comment names the domain.
* `definition_of_topTexts`: the definition of a script.
-/
namespace DomainAtlas.Extraction

open DomainAtlas.Syntax

/-! ## Comments at the top -/

/-- The comments at the top of a script, those directly below the program node, in document order. -/
def topNodes (root : Node) : List Node :=
  if root.kind = .program then
    (root.children.filter fun n => n.kind == .comment).mergeSort fun a b => decide (a.start ≤ b.start)
  else []

def topTexts (root : Node) : List String := (topNodes root).map Node.text

theorem ofKind_root (k : Kind) (root : Node) :
    (ofKind k (root, [])).map Prod.fst = root.children.filter fun n => n.kind == k := by
  have nodes : (childrenAt [] root).map Prod.fst = root.children := by
    simp [childrenAt, Function.comp_def]
  rw [← nodes, List.filter_map]
  rfl

/-- Captures of one name are sorted by where their nodes start. -/
theorem map_node_mergeSort (name : CaptureName) (places : List Located) :
    ((capturesOf name places).mergeSort captureLe).map Capture.node =
      (places.map Prod.fst).mergeSort fun a b => decide (a.start ≤ b.start) := by
  have nodes : (capturesOf name places).map Capture.node = places.map Prod.fst := by
    rw [capturesOf_eq, List.map_map]
    rfl
  rw [← nodes]
  apply List.map_mergeSort
  intro a ha b hb
  obtain ⟨x, -, rfl⟩ := List.mem_map.1 ha
  obtain ⟨y, -, rfl⟩ := List.mem_map.1 hb
  exact captureLe_captured name x y

/-- The captures of a script are the comments at its top. -/
theorem texts_scriptCaptures (root : Node) : (scriptCaptures root).map Capture.text = topTexts root := by
  have captured : (scriptCaptures root).map Capture.node = topNodes root := by
    unfold scriptCaptures topNodes
    rw [map_node_mergeSort]
    by_cases program : root.kind = .program
    · simp [program, ofKind_root]
    · simp [program]
  rw [topTexts, ← captured, List.map_map]
  rfl

/-! ## What the default pattern captures -/

def packageMarker : List Char := "@sw-package ".toList

/-- Whether a character can stand in a domain. -/
def inDomain (c : Char) : Bool := c.isAlpha || c == '@' || c == '-'

def domainItems : List Regex.SetItem := [.range 97 122, .range 65 90, .range 45 45, .range 64 64]

theorem inDomain_iff (c : Char) : inDomain c = true ↔ (97 ≤ c.toNat ∧ c.toNat ≤ 122) ∨
    (65 ≤ c.toNat ∧ c.toNat ≤ 90) ∨ c.toNat = 45 ∨ c.toNat = 64 := by
  have letters : c.isAlpha =
      (decide (c.val ≥ 65 ∧ c.val ≤ 90) || (decide (c.val ≥ 97) && decide (c.val ≤ 122))) := rfl
  have same (d : Char) : c = d ↔ c.toNat = d.toNat := Char.toNat_inj.symm
  simp only [inDomain, letters, Bool.or_eq_true, Bool.and_eq_true, decide_eq_true_eq, beq_iff_eq, same,
    ge_iff_le, UInt32.le_iff_toNat_le, UInt32.reduceToNat, Char.reduceToNat, Char.toNat_val]
  omega

theorem setHas_domainItems : Regex.setHas false domainItems false = inDomain := by
  funext c
  rw [Bool.eq_iff_iff, inDomain_iff]
  simp [Regex.setHas, domainItems, Regex.SetItem.has]
  omega

theorem not_blank_of_inDomain {c : Char} (h : inDomain c = true) : Text.isBlank c = false := by
  rw [inDomain_iff] at h
  rw [← Bool.not_eq_true]
  simp only [Text.isBlank, Bool.or_eq_true, Bool.and_eq_true, decide_eq_true_eq, beq_iff_eq]
  omega

/-- Terms cannot be compared with one another, but what is read off them can. -/
theorem runOf?_packagePattern :
    ((Regex.compile MarkersConfig.default.packageCommentPattern).toOption.bind fun p =>
      if p.groups = 1 then Regex.runOf? p.terms else none) = some (packageMarker, domainItems) := by
  decide +kernel

theorem compile_packagePattern : Regex.compile MarkersConfig.default.packageCommentPattern =
    .ok (Regex.markedRun packageMarker domainItems) := by
  have read := runOf?_packagePattern
  cases compiled : Regex.compile MarkersConfig.default.packageCommentPattern with
  | error e =>
    rw [compiled] at read
    cases read
  | ok p =>
    rw [compiled] at read
    dsimp only [Except.toOption, Option.bind_some] at read
    split at read
    next groups => rw [Regex.eq_markedRun groups read]
    next => cases read

/-- What is searched for in scripts by default. -/
theorem scripts_default (sentinel : String) : (Extractor.ofMarkers sentinel MarkersConfig.default).scripts =
    ⟨["@internal", "@private"], Regex.markedRun packageMarker domainItems⟩ := by
  rw [Extractor.ofMarkers, compile_packagePattern]
  rfl

/-! ## The domain -/

/-- A comment names what stands behind the leftmost marker that has a domain behind it. -/
def NamesDomain (comment domain : String) : Prop :=
  Regex.LeftmostRun packageMarker inDomain comment.toList domain.toList

/-- Of some comments the first one that names a domain names it. -/
def FirstNames (comments : List String) (domain : String) : Prop :=
  ∃ before comment after, comments = before ++ comment :: after ∧ NamesDomain comment domain ∧
    ∀ earlier ∈ before, ∀ other, ¬ NamesDomain earlier other

theorem search_eq_some_iff {comment : String} {found : Option String} :
    (Regex.markedRun packageMarker domainItems).search comment = some found ↔
      ∃ domain, found = some domain ∧ NamesDomain comment domain := by
  rw [Regex.search_markedRun, setHas_domainItems, Option.map_eq_some_iff]
  constructor
  · intro ⟨run, first, e⟩
    refine ⟨String.ofList run, e.symm, ?_⟩
    rw [NamesDomain, String.toList_ofList]
    exact Regex.firstRun?_eq_some_iff.1 first
  · intro ⟨domain, e, names⟩
    refine ⟨domain.toList, Regex.firstRun?_eq_some_iff.2 names, ?_⟩
    rw [String.ofList_toList, e]

theorem search_eq_none_iff {comment : String} :
    (Regex.markedRun packageMarker domainItems).search comment = none ↔
      ∀ domain, ¬ NamesDomain comment domain := by
  rw [Option.eq_none_iff_forall_ne_some]
  constructor
  · intro none domain names
    exact none (some domain) (search_eq_some_iff.2 ⟨domain, rfl, names⟩)
  · intro free found some
    obtain ⟨domain, -, names⟩ := search_eq_some_iff.1 some
    exact free domain names

theorem commentDomain_eq_some_iff {comments : List String} {domain : String} :
    commentDomain (Regex.markedRun packageMarker domainItems) comments = some domain ↔
      FirstNames comments domain := by
  rw [commentDomain, Option.join_eq_some_iff, List.findSome?_eq_some_iff]
  simp only [search_eq_some_iff, search_eq_none_iff, Option.some.injEq, exists_eq_left', FirstNames]

/-- A domain has characters, and none of them is white space. -/
theorem not_blank_of_namesDomain {comment domain : String} (names : NamesDomain comment domain) :
    (!domain.toList.all Text.isBlank) = true := by
  obtain ⟨_, _, _, ⟨_, _, ne, admitted, _⟩, _⟩ := names
  obtain ⟨c, cs, front⟩ := List.exists_cons_of_ne_nil ne
  rw [front] at admitted ⊢
  simp [not_blank_of_inDomain (admitted c List.mem_cons_self)]

/-! ## The definition -/

theorem definition_script (x : Extractor) (path : String) (root : Node) :
    x.definition .script path root = .ok (some (scriptDefinitionOf x.scripts (topTexts root) path)) := by
  rw [← texts_scriptCaptures]
  rfl

/-- The domain is kept as it is found. -/
theorem domain_default (sentinel path : String) (comments : List String) :
    (scriptDefinitionOf (Extractor.ofMarkers sentinel MarkersConfig.default).scripts comments
      path).domain = commentDomain (Regex.markedRun packageMarker domainItems) comments := by
  rw [scripts_default]
  unfold scriptDefinitionOf
  cases found : commentDomain (Regex.markedRun packageMarker domainItems) comments with
  | none => rfl
  | some domain =>
    obtain ⟨_, _, _, _, names, _⟩ := commentDomain_eq_some_iff.1 found
    exact if_pos (not_blank_of_namesDomain names)

theorem commentDomain_eq_none_iff {comments : List String} :
    commentDomain (Regex.markedRun packageMarker domainItems) comments = none ↔
      ∀ comment ∈ comments, ∀ domain, ¬ NamesDomain comment domain := by
  rw [commentDomain, Option.join_eq_none_iff]
  constructor
  · intro nothing comment mem
    rw [← search_eq_none_iff]
    rcases nothing with none | captured
    · exact List.findSome?_eq_none_iff.1 none comment mem
    · -- a match without a capture would be one too, but every match captures a domain
      obtain ⟨other, -, found⟩ := List.exists_of_findSome?_eq_some captured
      obtain ⟨_, e, -⟩ := search_eq_some_iff.1 found
      cases e
  · intro free
    apply Or.inl
    apply List.findSome?_eq_none_iff.2
    intro comment mem
    exact search_eq_none_iff.2 (free comment mem)

theorem isInternal_default (sentinel path : String) (comments : List String) :
    (scriptDefinitionOf (Extractor.ofMarkers sentinel MarkersConfig.default).scripts comments
      path).isInternal = true ↔ ∃ comment ∈ comments,
        "@internal".toList <:+: comment.toList ∨ "@private".toList <:+: comment.toList := by
  rw [scripts_default]
  simp only [scriptDefinitionOf, commentsContain, Text.contains, List.any_eq_true, Text.occursIn_iff,
    List.mem_cons, List.not_mem_nil, or_false, exists_eq_or_imp, exists_eq_left]

/-- Every script has a definition. It is keyed by the path, has no namespace, class or final flag, its
domain is what the first comment at the top that names one names, and it is internal if one of these
comments has a marker for that. Trees with the same texts there have the same definition. -/
theorem definition_of_topTexts (sentinel path : String) (root : Node) :
    ∃ d, (Extractor.ofMarkers sentinel MarkersConfig.default).definition .script path root =
        .ok (some d) ∧
      d.qualifiedKey = path ∧ d.fileName = path ∧
      d.namespaceName = none ∧ d.className = none ∧ d.isFinal = none ∧
      (∀ domain, d.domain = some domain ↔ FirstNames (topTexts root) domain) ∧
      (d.domain = none ↔ ∀ comment ∈ topTexts root, ∀ domain, ¬ NamesDomain comment domain) ∧
      (d.isInternal = true ↔ ∃ comment ∈ topTexts root,
        "@internal".toList <:+: comment.toList ∨ "@private".toList <:+: comment.toList) ∧
      ∀ other, topTexts other = topTexts root →
        (Extractor.ofMarkers sentinel MarkersConfig.default).definition .script path other =
          .ok (some d) := by
  refine ⟨_, definition_script _ path root, rfl, rfl, rfl, rfl, rfl, ?domain, ?noDomain,
    isInternal_default sentinel path _, ?others⟩
  case domain =>
    intro domain
    rw [domain_default]
    exact commentDomain_eq_some_iff
  case noDomain =>
    rw [domain_default]
    exact commentDomain_eq_none_iff
  case others =>
    intro other same
    rw [definition_script, same]

/-- A script with one comment and, if wanted, more behind it. -/
def packageScript (more : List Node) : Node :=
  .mk .program none false 0 "" (.mk .comment none false 0 "// @sw-package core" [] :: more)

def commentedFunction : Node :=
  .mk .other none false 20 "" [.mk .comment none false 40 "// @internal @sw-package checkout" []]

theorem topTexts_packageScript : topTexts (packageScript [commentedFunction]) = ["// @sw-package core"] ∧
    topTexts (packageScript []) = ["// @sw-package core"] := by
  constructor <;> simp [topTexts, topNodes, packageScript, commentedFunction, Node.kind, Node.children,
    Node.text]

theorem definition_of_topTexts_packageScript :
    topTexts (packageScript [commentedFunction]) = topTexts (packageScript []) ∧
      ∃ d, (Extractor.ofMarkers "" MarkersConfig.default).definition .script "a.js" (packageScript []) =
          .ok (some d) ∧
        (Extractor.ofMarkers "" MarkersConfig.default).definition .script "a.js"
          (packageScript [commentedFunction]) = .ok (some d) ∧
        d.domain = some "core" ∧ ¬ d.isInternal = true := by
  have same := topTexts_packageScript.1.trans topTexts_packageScript.2.symm
  obtain ⟨d, is, -, -, -, -, -, domain, -, internal, others⟩ :=
    definition_of_topTexts "" "a.js" (packageScript [])
  rw [topTexts_packageScript.2] at domain internal
  refine ⟨same, d, is, others _ same, ?_, ?_⟩
  · apply (domain _).2
    have names : NamesDomain "// @sw-package core" "core" := Regex.firstRun?_eq_some_iff.1 (by decide)
    exact ⟨[], _, [], rfl, names, by simp⟩
  · rw [internal]
    simp only [List.mem_singleton, exists_eq_left, ← Text.occursIn_iff]
    decide

end DomainAtlas.Extraction
