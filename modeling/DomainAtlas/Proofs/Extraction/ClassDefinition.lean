import DomainAtlas.Extraction.SourceFile
import DomainAtlas.Proofs.Syntax.Capture

/-!
# What the definition of a PHP file is made of

The definition of a PHP file is put together from captures that are found independently of each other.
Said of the tree, it is made of the namespace name that starts first, of the class declaration that
starts first among those with a name, of the contents of attributes on that declaration and on the
declarations inside it, of its own modifiers, and of the comments before it (`definitionAt`).

Results:
* `classDefinition_eq_some_iff`, `Extractor.definition_php_iff`: when a file has a definition, and which.
* `attributeContents_below_iff`: the contents of an attribute are below a class declaration exactly if
  the declaration with the attribute is that one or is inside it.
-/
namespace DomainAtlas.Extraction

open DomainAtlas.Syntax

/-! ## What belongs to a class declaration -/

/-- A node of a tree at or below some node; between the two there is none of a kind. -/
structure Hangs (root : Node) (k : Kind) (top : List Nat) (at' : Located) : Prop where
  found : root.at? at'.2 = some at'.1
  under : top <+: at'.2
  clear : ∀ way n, top <+: way → way ≠ top → way <+: at'.2 → root.at? way = some n → n.kind ≠ k

section Ownership

variable {root : Node} {k : Kind}

theorem hangs_self {top : Located} (h : root.at? top.2 = some top.1) : Hangs root k top.2 top where
  found := h
  under := List.prefix_rfl
  clear _ _ down ne up _ := absurd (up.eq_of_length_le down.length_le) ne

theorem Hangs.child {top : List Nat} {parent child : Located} (h : Hangs root k top parent)
    (mem : child ∈ childrenAt parent.2 parent.1) (kind : child.1.kind ≠ k) :
    Hangs root k top child := by
  have found := at?_of_mem_childrenAt h.found mem
  obtain ⟨i, -, e⟩ := mem_childrenAt_iff.1 mem
  refine ⟨found, e ▸ h.under.trans (List.prefix_append _ _), fun way n down ne up hn => ?_⟩
  rw [e, List.prefix_concat_iff] at up
  rcases up with rfl | up
  · rw [← e, found] at hn
    exact Option.some.inj hn ▸ kind
  · exact h.clear way n down ne up hn

theorem Hangs.ofKind {top : List Nat} {parent child : Located} {k' : Kind} (h : Hangs root k top parent)
    (mem : child ∈ ofKind k' parent) (other : k' ≠ k) : Hangs root k top child := by
  obtain ⟨mem, kind⟩ := mem_ofKind_iff.1 mem
  exact h.child mem (kind ▸ other)

theorem Hangs.inField {top : List Nat} {parent child : Located} {f : Field} {k' : Kind}
    (h : Hangs root k top parent) (mem : child ∈ inField f k' parent) (other : k' ≠ k) :
    Hangs root k top child := by
  obtain ⟨mem, kind, -⟩ := mem_inField_iff.1 mem
  exact h.child mem (kind ▸ other)

theorem mem_firstStrings {args content : Located} (h : content ∈ firstStrings args) :
    ∃ arg ∈ childrenAt args.2 args.1, arg.1.kind = .argument ∧
      ∃ k, (k = .string ∨ k = .encapsedString) ∧
        ∃ str ∈ ofKind k arg, content ∈ ofKind .stringContent str := by
  unfold firstStrings at h
  split at h
  · cases h
  · next arg first =>
    split at h
    · next kind =>
      obtain ⟨str, hs, hc⟩ := List.mem_flatMap.1 h
      refine ⟨arg, List.mem_of_mem_head? first, by simpa using kind, ?_⟩
      rcases List.mem_append.1 hs with hs | hs
      · exact ⟨_, .inl rfl, str, hs, hc⟩
      · exact ⟨_, .inr rfl, str, hs, hc⟩
    · cases h

/-- Between a declaration and the contents of its attributes there is no other declaration. -/
theorem hangs_attributeContents {sentinel : String} {owner content : Located}
    (here : root.at? owner.2 = some owner.1) (h : content ∈ attributeContents sentinel owner) :
    Hangs root .classDeclaration owner.2 content ∧ owner.2.length < content.2.length := by
  simp only [attributeContents, List.mem_flatMap] at h
  obtain ⟨item, ⟨group, ⟨list, hl, hg⟩, hi⟩, h⟩ := h
  split at h
  · obtain ⟨args, ha, h⟩ := List.mem_flatMap.1 h
    obtain ⟨arg, harg, kind, k, hk, str, hs, hc⟩ := mem_firstStrings h
    have item : Hangs root .classDeclaration owner.2 item :=
      (((hangs_self here).inField hl (by decide)).ofKind hg (by decide)).ofKind hi (by decide)
    have str := ((item.inField ha (by decide)).child harg (by rw [kind]; decide)).ofKind hs
      (by rcases hk with rfl | rfl <;> decide)
    refine ⟨str.ofKind hc (by decide), ?_⟩
    obtain ⟨i, -, e⟩ := mem_childrenAt_iff.1 (mem_ofKind_iff.1 hc).1
    have := str.under.length_le
    simp [e]
    omega
  · cases h

/-- The contents of an attribute are below a class declaration exactly if the declaration with the
attribute is that one or is inside it. -/
theorem attributeContents_below_iff {sentinel : String} {cls owner content : Located}
    (hc : cls ∈ nodesOfKind .classDeclaration root) (ho : owner ∈ nodesOfKind .classDeclaration root)
    (h : content ∈ attributeContents sentinel owner) :
    cls.2 <+: content.2 ∧ cls.2.length < content.2.length ↔ cls.2 <+: owner.2 := by
  rw [mem_nodesOfKind_iff] at hc ho
  obtain ⟨hangs, long⟩ := hangs_attributeContents ho.1 h
  constructor
  · rintro ⟨above, -⟩
    -- both are above the contents; a declaration below the owner would stand between the two
    by_cases le : cls.2.length ≤ owner.2.length
    · exact List.prefix_of_prefix_length_le above hangs.under le
    · have between := List.prefix_of_prefix_length_le hangs.under above (by omega)
      exact absurd hc.2 (hangs.clear cls.2 cls.1 between (by rintro e; simp [e] at le) above hc.1)
  · intro above
    exact ⟨above.trans hangs.under, by have := above.length_le; omega⟩

theorem isChildOf_captured_iff {n parent child : Located} (h : child ∈ childrenAt n.2 n.1)
    (name : CaptureName) : isChildOf parent.2 (captured name child) = true ↔ n.2 = parent.2 := by
  obtain ⟨i, -, e⟩ := mem_childrenAt_iff.1 h
  simp [isChildOf, captured, e]

theorem eq_of_mem_nodesOfKind {a b : Located} (ha : a ∈ nodesOfKind k root)
    (hb : b ∈ nodesOfKind k root) (way : a.2 = b.2) : a = b := by
  have ha := (mem_nodesOfKind_iff.1 ha).1
  have hb := (mem_nodesOfKind_iff.1 hb).1
  rw [way, hb] at ha
  exact Prod.ext (Option.some.inj ha).symm way

/-- Of the children of all nodes of a kind, those of one node. -/
theorem filter_children {f : Located → List Located}
    (children : ∀ n, ∀ c ∈ f n, c ∈ childrenAt n.2 n.1) {parent : Located}
    (hp : parent ∈ nodesOfKind k root) (name : CaptureName) :
    ((nodesOfKind k root).flatMap f).filter (fun c => isChildOf parent.2 (captured name c)) =
      f parent := by
  have distinct : (nodesOfKind k root).Nodup := (nodup_nodesAt [] root).filter _
  have unique := fun n hn => eq_of_mem_nodesOfKind (a := n) hn hp
  -- a place is listed once, so no node before or after the parent has its way
  obtain ⟨front, back, split⟩ := List.append_of_mem hp
  rw [split] at distinct unique ⊢
  obtain ⟨-, tail, apart⟩ := List.nodup_append.1 distinct
  have none (ns : List Located) (others : ∀ n ∈ ns, n ∈ front ++ parent :: back ∧ n ≠ parent) :
      (ns.flatMap f).filter (fun c => isChildOf parent.2 (captured name c)) = [] := by
    refine List.filter_eq_nil_iff.2 fun c hc is => ?_
    obtain ⟨n, hn, hc⟩ := List.mem_flatMap.1 hc
    have way := (isChildOf_captured_iff (children n c hc) name).1 is
    exact (others n hn).2 (unique n (others n hn).1 way)
  have all : (f parent).filter (fun c => isChildOf parent.2 (captured name c)) = f parent :=
    List.filter_eq_self.2 fun c hc => (isChildOf_captured_iff (children parent c hc) name).2 rfl
  rw [List.flatMap_append, List.flatMap_cons, List.filter_append, List.filter_append, all,
    none front fun n hn => ⟨by simp [hn], fun e => apart n hn parent (by simp) e⟩,
    none back fun n hn => ⟨by simp [hn], fun e => (List.nodup_cons.1 tail).1 (e ▸ hn)⟩]
  simp

end Ownership

/-! ## The definition of a file -/

/-- The declarations of classes at some node or inside it. -/
def classesWithin (root : Node) (cls : Located) : List Located :=
  (nodesOfKind .classDeclaration root).filter fun c => cls.2.isPrefixOf c.2

/-- Whether a comment that starts before a node has one of the tokens. -/
def markedBefore (root : Node) (cls : Located) (tokens : List String) : Bool :=
  commentsContain (((topComments root).filter fun c => decide (c.1.start < cls.1.start)).map (·.1.text))
    tokens

theorem markedBefore_iff {root : Node} {cls : Located} {tokens : List String} :
    markedBefore root cls tokens = true ↔ ∃ comment, comment ∈ topComments root ∧
      comment.1.start < cls.1.start ∧
        ∃ token ∈ tokens, Text.contains comment.1.text token = true := by
  simp only [markedBefore, commentsContain, List.any_map, List.any_filter, List.any_eq_true,
    Function.comp_apply, Bool.and_eq_true, decide_eq_true_iff]

/-- The definition of a file whose first namespace name and first class declaration are these. -/
def definitionAt (sentinel : String) (markers : ClassMarkers) (root : Node) (path : String)
    (space cls name : Located) : Definition where
  qualifiedKey := space.1.text ++ "\\" ++ name.1.text
  namespaceName := some space.1.text
  className := some name.1.text
  fileName := path
  domain := ((earliest ((classesWithin root cls).flatMap (attributeContents sentinel))).map
    (·.1.text)).filter fun d => !d.toList.all Text.isBlank
  isInternal := markedBefore root cls markers.internalTokens
  isFinal := some ((childrenAt cls.2 cls.1).any (fun c => c.1.kind == .finalModifier) ||
    markedBefore root cls [markers.finalToken])

section Definitions

variable {sentinel : String} {markers : ClassMarkers} {root : Node} {path : String}

theorem firstNamed_namespaceName : firstNamed .namespaceName (phpCaptures sentinel root) =
    (earliest (namespaceNames root)).map (captured .namespaceName) := by
  refine find?_mergeSort_captures ?_
  simpa using filter_namespaceName sentinel root fun _ => true

theorem firstNamed_classNode : firstNamed .classNode (phpCaptures sentinel root) =
    (earliest (namedClasses root)).map (captured .classNode) := by
  refine find?_mergeSort_captures ?_
  simpa using filter_classNode sentinel root fun _ => true

theorem find?_className {cls : Located} (h : cls ∈ nodesOfKind .classDeclaration root) :
    (phpCaptures sentinel root).find?
        (fun c => c.name == .className && isChildOf (captured .classNode cls).path c) =
      (earliest (inField .name .name cls)).map (captured .className) := by
  refine find?_mergeSort_captures ?_
  rw [← filter_children (fun n c hc => (mem_inField_iff.1 hc).1) h .className]
  exact filter_className sentinel root fun c => isChildOf cls.2 (captured .className c)

theorem any_finalKeyword {cls : Located} (h : cls ∈ nodesOfKind .classDeclaration root) :
    (phpCaptures sentinel root).any
        (fun c => c.name == .finalKeyword && isChildOf (captured .classNode cls).path c) =
      (childrenAt cls.2 cls.1).any fun c => c.1.kind == .finalModifier := by
  have mine := filter_finalKeyword sentinel root
    fun c => isChildOf cls.2 (captured .finalKeyword c)
  rw [filter_children (fun n c hc => (mem_ofKind_iff.1 hc).1) h] at mine
  rw [phpCaptures, (List.mergeSort_perm _ captureLe).any_eq, Bool.eq_iff_iff, List.any_eq_true,
    List.any_eq_true]
  constructor
  · rintro ⟨c, hc, is⟩
    have mem := mine ▸ List.mem_filter.2 ⟨hc, is⟩
    obtain ⟨child, hchild, -⟩ := List.mem_map.1 mem
    obtain ⟨hchild, kind⟩ := mem_ofKind_iff.1 hchild
    exact ⟨child, hchild, by simpa using kind⟩
  · rintro ⟨child, hchild, kind⟩
    have mem := List.mem_map_of_mem (f := captured .finalKeyword)
      (mem_ofKind_iff.2 ⟨hchild, by simpa using kind⟩)
    rw [← mine] at mem
    exact ⟨_, List.mem_filter.1 mem⟩

theorem find?_package {cls : Located} (h : cls ∈ nodesOfKind .classDeclaration root) :
    (phpCaptures sentinel root).find?
        (fun c => c.name == .package && isBelow (captured .classNode cls).path c) =
      (earliest ((classesWithin root cls).flatMap (attributeContents sentinel))).map
        (captured .package) := by
  refine find?_mergeSort_captures ?_
  refine (filter_package sentinel root fun c => isBelow cls.2 (captured .package c)).trans ?_
  congr 1
  have each : ∀ owner ∈ nodesOfKind .classDeclaration root,
      (attributeContents sentinel owner).filter (fun c => isBelow cls.2 (captured .package c)) =
        if cls.2.isPrefixOf owner.2 then attributeContents sentinel owner else [] := by
    intro owner ho
    have below (content : Located) (hc : content ∈ attributeContents sentinel owner) :
        isBelow cls.2 (captured .package content) = true ↔ cls.2 <+: owner.2 := by
      rw [← attributeContents_below_iff h ho hc, isBelow, Bool.and_eq_true,
        List.isPrefixOf_iff_prefix, decide_eq_true_iff]
      rfl
    split
    · next inside =>
      exact List.filter_eq_self.2 fun c hc => (below c hc).2 (List.isPrefixOf_iff_prefix.1 inside)
    · next outside =>
      exact List.filter_eq_nil_iff.2 fun c hc is =>
        outside (List.isPrefixOf_iff_prefix.2 ((below c hc).1 is))
  rw [List.filter_flatMap, List.flatMap_congr each, classesWithin]
  induction nodesOfKind .classDeclaration root with
  | nil => rfl
  | cons n ns ih =>
    rw [List.flatMap_cons, List.filter_cons, ih]
    split <;> simp

theorem commentsContain_before (cls : Located) (tokens : List String) :
    commentsContain (((phpCaptures sentinel root).filter
      fun c => c.name == .comment && c.start < (captured .classNode cls).start).map Capture.text) tokens =
      markedBefore root cls tokens := by
  rw [Bool.eq_iff_iff, markedBefore_iff]
  simp only [commentsContain, List.any_map, List.any_filter, List.any_eq_true, Function.comp_apply,
    Bool.and_eq_true, beq_iff_eq, decide_eq_true_iff]
  constructor
  · rintro ⟨c, hc, ⟨name, before⟩, has⟩
    exact ⟨_, (mem_phpCaptures_comment_iff sentinel root name).1 hc, before, has⟩
  · rintro ⟨comment, hc, before, has⟩
    exact ⟨captured .comment comment, (mem_phpCaptures_comment_iff sentinel root rfl).2 hc,
      ⟨rfl, before⟩, has⟩

/-- **Definitions of PHP files.** -/
theorem classDefinition_eq_some_iff {r : Definition} :
    classDefinition sentinel markers root path = some r ↔
      ∃ space cls name, earliest (namespaceNames root) = some space ∧
        earliest (namedClasses root) = some cls ∧ earliest (inField .name .name cls) = some name ∧
        space.1.text ≠ "" ∧ name.1.text ≠ "" ∧
        r = definitionAt sentinel markers root path space cls name := by
  unfold classDefinition classDefinitionOf
  rw [firstNamed_namespaceName, firstNamed_classNode]
  cases hs : earliest (namespaceNames root) with
  | none => simp
  | some space =>
    cases hc : earliest (namedClasses root) with
    | none => simp
    | some cls =>
      have declared : cls ∈ nodesOfKind .classDeclaration root :=
        (List.mem_filter.1 (mem_of_leading hc)).1
      simp only [Option.map_some, find?_className declared, any_finalKeyword declared,
        find?_package declared, commentsContain_before]
      cases hn : earliest (inField .name .name cls) with
      | none => simp [hn]
      | some name =>
        simp only [Option.map_some, Option.getD_some, Option.map_map]
        constructor
        · intro h
          split at h
          · cases h
          · next filled =>
            rw [not_or] at filled
            exact ⟨space, cls, name, rfl, rfl, hn, filled.1, filled.2, (Option.some.inj h).symm⟩
        · rintro ⟨space', cls', name', e, e', hn', filled, filled', rfl⟩
          cases e
          cases e'
          cases hn.symm.trans hn'
          exact if_neg (not_or.2 ⟨filled, filled'⟩)

/-- The definition that an extractor finds in a PHP file. -/
theorem Extractor.definition_php_iff {x : Extractor} {r : Definition} :
    x.definition .php path root = .ok (some r) ↔
      ∃ s space cls name, queryString? x.sentinel.toList = some s ∧
        earliest (namespaceNames root) = some space ∧ earliest (namedClasses root) = some cls ∧
        earliest (inField .name .name cls) = some name ∧ space.1.text ≠ "" ∧ name.1.text ≠ "" ∧
        r = definitionAt (String.ofList s) x.classes root path space cls name := by
  unfold Extractor.definition Extractor.captures
  cases queryString? x.sentinel.toList with
  | none => simp [Except.map]
  | some s =>
    have found := @classDefinition_eq_some_iff (String.ofList s) x.classes root path r
    simpa [Except.map, Extractor.definitionOf, classDefinition] using found

end Definitions

/-! ## Parts of small trees -/

def defaultExtractor : Extractor := .ofMarkers MarkersConfig.default.packageAttribute .default

/-- A namespace statement, or with a body a namespace in braces. -/
def namespaceNode (start : Nat) (name : String) (body : List Node) : Node :=
  .mk .namespaceDefinition none false start ""
    (.mk .namespaceName (some .name) false (start + 10) name [] :: body)

/-- What stands in braces. -/
def bodyNode (start : Nat) (nodes : List Node) : Node :=
  .mk .compoundStatement (some .body) false start "" nodes

/-- A class declaration, of its attributes and modifiers, its name and its body. -/
def classNode (start : Nat) (before : List Node) (name : String) (nameStart : Nat)
    (body : List Node) : Node :=
  .mk .classDeclaration none false start ""
    (before ++ .mk .name (some .name) false nameStart name [] :: body)

end DomainAtlas.Extraction
