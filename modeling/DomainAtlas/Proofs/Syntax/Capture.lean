import DomainAtlas.Proofs.Syntax.Places
import Mathlib.Data.String.Basic

/-!
# The first capture of a kind

The answers to a query are sorted, and an extractor takes the first one that suits it. As sorting is
stable, this is the one that comes first among those that suit it before they are sorted
(`find?_mergeSort`). For captures of one name it is the place that starts first, and of several that
start at one byte the one found first (`earliest`).

Results:
* `find?_mergeSort`: the first in a sorted list, from the list before it is sorted.
* `find?_mergeSort_captures`: among captures of one name the first is the earliest.
* `filter_className`, `filter_finalKeyword`, `filter_package`, `filter_classNode`,
  `filter_namespaceName`, `mem_phpCaptures_comment_iff`: which places have each name.
-/
namespace DomainAtlas.Syntax

/-! ## Looking for the first in a sorted list -/

section Sorting

variable {α : Type} {le : α → α → Bool}

/-- The first of the least elements of a list. -/
def leading (le : α → α → Bool) : List α → Option α
  | [] => none
  | x :: xs =>
    match leading le xs with
    | none => some x
    | some y => if le x y then some x else some y

theorem leading_eq_none_iff {xs : List α} : leading le xs = none ↔ xs = [] := by
  cases xs with
  | nil => simp [leading]
  | cons x xs =>
    rw [leading]
    split
    · simp
    · split <;> simp

theorem mem_of_leading {xs : List α} {x : α} (h : leading le xs = some x) : x ∈ xs := by
  induction xs with
  | nil => cases h
  | cons y ys ih =>
    rw [leading] at h
    split at h
    · exact Option.some.inj h ▸ List.mem_cons_self
    · next z hz =>
      split at h
      · exact Option.some.inj h ▸ List.mem_cons_self
      · exact List.mem_cons_of_mem _ (ih (hz.trans h))

/-- What comes after nothing greater makes no difference. -/
theorem leading_append {xs ys : List α} (ne : xs ≠ []) (le_all : ∀ x ∈ xs, ∀ y ∈ ys, le x y = true) :
    leading le (xs ++ ys) = leading le xs := by
  induction xs with
  | nil => exact absurd rfl ne
  | cons x xs ih =>
    obtain ⟨hx, hxs⟩ := List.forall_mem_cons.1 le_all
    rw [List.cons_append, leading, leading]
    by_cases last : xs = []
    · subst last
      rw [List.nil_append, leading]
      cases h : leading le ys with
      | none => rfl
      | some y => exact if_pos (hx y (mem_of_leading h))
    · rw [ih last hxs]

theorem leading_map {β : Type} {f : β → α} (xs : List β) :
    leading le (xs.map f) = (leading (fun a b => le (f a) (f b)) xs).map f := by
  induction xs with
  | nil => rfl
  | cons x xs ih =>
    rw [List.map_cons, leading, leading, ih]
    cases leading (fun a b => le (f a) (f b)) xs with
    | none => rfl
    | some y => simp only [Option.map_some]; split <;> rfl

variable (trans : ∀ a b c, le a b = true → le b c = true → le a c = true)
  (total : ∀ a b, (le a b || le b a) = true)

include trans total

/-- The first of the least elements is less than all others or equal to them. -/
theorem le_of_leading {xs : List α} {x : α} (h : leading le xs = some x) : ∀ y ∈ xs, le x y = true := by
  have refl (a : α) : le a a = true := by simpa using total a a
  induction xs generalizing x with
  | nil => cases h
  | cons y ys ih =>
    rw [leading] at h
    split at h
    · next none =>
      cases h
      rw [leading_eq_none_iff.1 none]
      simpa using refl _
    · next z least =>
      split at h
      · next less =>
        cases h
        exact List.forall_mem_cons.2 ⟨refl _, fun w hw => trans _ _ _ less (ih least w hw)⟩
      · next more =>
        cases h
        exact List.forall_mem_cons.2 ⟨by simpa [more] using total y x, ih least⟩

/-- Sorting keeps the first of the least elements in front. -/
theorem find?_mergeSort (p : α → Bool) (xs : List α) :
    (xs.mergeSort le).find? p = leading le (xs.filter p) := by
  induction xs with
  | nil => simp [leading]
  | cons x xs ih =>
    obtain ⟨front, back, all, rest, less⟩ := List.mergeSort_cons trans total x xs
    have sorted := List.pairwise_mergeSort trans total (x :: xs)
    rw [all] at sorted
    rw [rest, List.find?_append] at ih
    rw [all, List.find?_append, List.find?_cons, List.filter_cons]
    cases hx : p x with
    | false => simpa using ih
    | true =>
      rw [if_pos rfl, leading, ← ih]
      cases hf : front.find? p with
      | some y =>
        -- `y` stands before `x`, so it is less
        have gt := less y (List.mem_of_find?_eq_some hf)
        simp only [Bool.not_eq_true'] at gt
        simp [gt]
      | none =>
        cases hb : back.find? p with
        | none => rfl
        | some y =>
          have mem := List.mem_of_find?_eq_some hb
          have ge := List.rel_of_pairwise_cons (List.pairwise_append.1 sorted).2.1 mem
          simp [ge]

end Sorting

/-! ## The order of captures -/

theorem captureLe_iff (a b : Capture) :
    captureLe a b = true ↔ a.start < b.start ∨ a.start = b.start ∧ a.name.text ≤ b.name.text := by
  unfold captureLe
  split
  · next h => simp [h]
  · next h => simp [h]

theorem captureLe_trans (a b c : Capture) (h : captureLe a b = true) (h' : captureLe b c = true) :
    captureLe a c = true := by
  rw [captureLe_iff] at h h' ⊢
  rcases h with h | ⟨h, hs⟩ <;> rcases h' with h' | ⟨h', hs'⟩
  · exact .inl (by omega)
  · exact .inl (by omega)
  · exact .inl (by omega)
  · exact .inr ⟨by omega, String.le_trans hs hs'⟩

theorem captureLe_total (a b : Capture) : (captureLe a b || captureLe b a) = true := by
  rw [Bool.or_eq_true, captureLe_iff, captureLe_iff]
  rcases Nat.lt_trichotomy a.start b.start with h | h | h
  · exact .inl (.inl h)
  · exact (String.le_total a.name.text b.name.text).imp (fun hs => .inr ⟨h, hs⟩)
      fun hs => .inr ⟨h.symm, hs⟩
  · exact .inr (.inl h)

/-- Of some places the one that starts first; of several that start at one byte the first listed. -/
def earliest (places : List Located) : Option Located :=
  leading (fun a b => decide (a.1.start ≤ b.1.start)) places

theorem start_le_of_earliest {places : List Located} {first : Located}
    (h : earliest places = some first) : ∀ at' ∈ places, first.1.start ≤ at'.1.start := fun at' mem =>
  of_decide_eq_true <| le_of_leading
    (fun _ _ _ le le' => decide_eq_true
      ((of_decide_eq_true le).trans (of_decide_eq_true le')))
    (fun a b => by simpa using Nat.le_total a.1.start b.1.start) h at' mem

/-- The capture of a place under a name. -/
def captured (name : CaptureName) (at' : Located) : Capture := ⟨name, at'.1, at'.2⟩

theorem capturesOf_eq (name : CaptureName) (places : List Located) :
    capturesOf name places = places.map (captured name) := rfl

theorem captureLe_captured (name : CaptureName) (a b : Located) :
    captureLe (captured name a) (captured name b) = decide (a.1.start ≤ b.1.start) := by
  rw [Bool.eq_iff_iff, captureLe_iff, decide_eq_true_iff]
  simp only [captured, Capture.start]
  simp
  omega

/-- Among captures of one name the first is the earliest. -/
theorem find?_mergeSort_captures {cs : List Capture} {p : Capture → Bool} {name : CaptureName}
    {places : List Located} (h : cs.filter p = places.map (captured name)) :
    (cs.mergeSort captureLe).find? p = (earliest places).map (captured name) := by
  rw [find?_mergeSort captureLe_trans captureLe_total, h, leading_map, earliest]
  simp only [captureLe_captured]

/-! ## The places of each name -/

def nodesOfKind (k : Kind) (root : Node) : List Located :=
  (nodesAt [] root).filter fun n => n.1.kind == k

def namespaceNames (root : Node) : List Located :=
  (nodesOfKind .namespaceDefinition root).flatMap (inField .name .namespaceName)

/-- The class declarations that have a name. -/
def namedClasses (root : Node) : List Located :=
  (nodesOfKind .classDeclaration root).filter fun c => !(inField .name .name c).isEmpty

/-- The contents of the strings that attributes of a name on a class declaration have for their first
argument. -/
def attributeContents (sentinel : String) (cls : Located) : List Located :=
  (((inField .attributes .attributeList cls).flatMap (ofKind .attributeGroup)).flatMap
    (ofKind .attributeItem)).flatMap fun item =>
      if (ofKind .name item).any fun n => n.1.text == sentinel then
        (inField .parameters .arguments item).flatMap firstStrings
      else []

/-- The comments at the top of a file, or at the top of the body of a namespace. -/
def commentsAt (at' : Located) : List Located :=
  match at'.1.kind with
  | .program => ofKind .comment at'
  | .namespaceDefinition => (inField .body .compoundStatement at').flatMap (ofKind .comment)
  | _ => []

/-- The comments of a file that are looked at. -/
def topComments (root : Node) : List Located := (nodesAt [] root).flatMap commentsAt

theorem mem_nodesOf_of_mem_commentsAt {base : List Nat} {i : Nat} {ns : List Node}
    {n comment : Located} (here : n ∈ nodesOf base i ns) (h : comment ∈ commentsAt n) :
    comment ∈ nodesOf base i ns := by
  unfold commentsAt at h
  split at h
  · exact mem_nodesOf_of_mem_childrenAt here (mem_ofKind_iff.1 h).1
  · obtain ⟨body, hb, h⟩ := List.mem_flatMap.1 h
    exact mem_nodesOf_of_mem_childrenAt
      (mem_nodesOf_of_mem_childrenAt here (mem_inField_iff.1 hb).1) (mem_ofKind_iff.1 h).1
  · cases h

theorem mem_nodesOfKind_iff {k : Kind} {root : Node} {at' : Located} :
    at' ∈ nodesOfKind k root ↔ root.at? at'.2 = some at'.1 ∧ at'.1.kind = k := by
  simp [nodesOfKind, mem_nodes_iff]

theorem filter_capturesOf (name name' : CaptureName) (places : List Located) :
    (capturesOf name places).filter (fun c => c.name == name') =
      if name = name' then places.map (captured name') else [] := by
  rw [capturesOf_eq, List.filter_map]
  split
  · next h =>
    subst h
    exact congrArg _ (List.filter_eq_self.2 fun _ _ => by simp [captured])
  · next h =>
    rw [List.filter_eq_nil_iff.2 fun _ _ => by simpa [captured] using h, List.map_nil]

theorem mem_capturesOf_iff {name : CaptureName} {places : List Located} {c : Capture} :
    c ∈ capturesOf name places ↔ c.name = name ∧ (c.node, c.path) ∈ places := by
  rw [capturesOf_eq, List.mem_map]
  constructor
  · rintro ⟨at', h, rfl⟩
    exact ⟨rfl, h⟩
  · rintro ⟨rfl, h⟩
    exact ⟨_, h, rfl⟩

theorem name_of_mem_attributeCaptures {sentinel : String} {item : Located} {c : Capture}
    (h : c ∈ attributeCaptures sentinel item) : c.name = .attributeName ∨ c.name = .package := by
  unfold attributeCaptures at h
  dsimp only at h
  split at h
  · cases h
  · exact (List.mem_append.1 h).imp (fun h => (mem_capturesOf_iff.1 h).1)
      fun h => (mem_capturesOf_iff.1 h).1

theorem filter_attributeCaptures_of_ne {sentinel : String} {item : Located} {name : CaptureName}
    (ne : name ≠ .attributeName) (ne' : name ≠ .package) :
    (attributeCaptures sentinel item).filter (fun c => c.name == name) = [] := by
  refine List.filter_eq_nil_iff.2 fun c hc => ?_
  rw [beq_iff_eq]
  rintro rfl
  exact (name_of_mem_attributeCaptures hc).elim ne ne'

theorem filter_attributeCaptures (sentinel : String) (item : Located) :
    (attributeCaptures sentinel item).filter (fun c => c.name == .package) =
      (if (ofKind .name item).any fun n => n.1.text == sentinel then
        (inField .parameters .arguments item).flatMap firstStrings
      else []).map (captured .package) := by
  unfold attributeCaptures
  generalize (inField .parameters .arguments item).flatMap firstStrings = contents
  dsimp only
  by_cases named : ((ofKind .name item).any fun n => n.1.text == sentinel) = true
  · have some : ((ofKind .name item).filter fun n => n.1.text == sentinel).isEmpty = false := by
      obtain ⟨n, hn, ht⟩ := List.any_eq_true.1 named
      rw [List.isEmpty_eq_false_iff]
      exact List.ne_nil_of_mem (List.mem_filter.2 ⟨hn, ht⟩)
    rw [if_pos named, some, Bool.false_or]
    by_cases empty : contents = []
    · simp [empty]
    · rw [if_neg (by simpa using empty), List.filter_append, filter_capturesOf, filter_capturesOf]
      rfl
  · have none : (ofKind .name item).filter (fun n => n.1.text == sentinel) = [] := by
      simpa [List.any_eq_true] using named
    rw [if_neg named, none]
    rfl

/-- Captures of some name that nodes of one kind alone give. -/
theorem filter_flatMap_phpCapturesAt {sentinel : String} {name : CaptureName} {k : Kind}
    {f : Located → List Located}
    (here : ∀ n : Located, n.1.kind = k →
      (phpCapturesAt sentinel n).filter (fun c => c.name == name) = (f n).map (captured name))
    (elsewhere : ∀ n : Located, n.1.kind ≠ k →
      (phpCapturesAt sentinel n).filter (fun c => c.name == name) = [])
    (root : Node) (q : Located → Bool) :
    ((nodesAt [] root).flatMap (phpCapturesAt sentinel)).filter
        (fun c => c.name == name && q (c.node, c.path)) =
      (((nodesOfKind k root).flatMap f).filter q).map (captured name) := by
  rw [nodesOfKind]
  induction nodesAt [] root with
  | nil => rfl
  | cons n ns ih =>
    have split : (phpCapturesAt sentinel n).filter (fun c => c.name == name && q (c.node, c.path)) =
        ((phpCapturesAt sentinel n).filter fun c => c.name == name).filter
          fun c => q (c.node, c.path) := by
      rw [List.filter_filter]
      exact List.filter_congr fun _ _ => Bool.and_comm _ _
    rw [List.flatMap_cons, List.filter_append, ih, split, List.filter_cons]
    by_cases kind : n.1.kind = k
    · rw [here n kind, if_pos (by simpa using kind), List.flatMap_cons, List.filter_append,
        List.map_append, List.filter_map]
      rfl
    · rw [elsewhere n kind, if_neg (by simpa using kind)]
      rfl

section Names

variable {sentinel : String} {n : Located}

theorem filter_class (name : CaptureName) (h : n.1.kind = .classDeclaration) :
    (phpCapturesAt sentinel n).filter (fun c => c.name == name) =
      ((((inField .attributes .attributeList n).flatMap (ofKind .attributeGroup)).flatMap
        (ofKind .attributeItem)).flatMap fun item =>
          (attributeCaptures sentinel item).filter fun c => c.name == name) ++
      (if .finalKeyword = name then (ofKind .finalModifier n).map (captured name) else []) ++
      (if .className = name then (inField .name .name n).map (captured name) else []) ++
      if .classNode = name then
        (if (inField .name .name n).isEmpty then [] else [n]).map (captured name) else [] := by
  have node : (if (inField .name .name n).isEmpty then [] else [⟨.classNode, n.1, n.2⟩]) =
      capturesOf .classNode (if (inField .name .name n).isEmpty then [] else [n]) := by
    split <;> rfl
  simp only [phpCapturesAt, h, List.filter_append, List.filter_flatMap, node, filter_capturesOf]

theorem name_of_not_class (h : n.1.kind ≠ .classDeclaration) {c : Capture}
    (hc : c ∈ phpCapturesAt sentinel n) : c.name = .namespaceName ∨ c.name = .comment := by
  unfold phpCapturesAt at hc
  split at hc
  · exact .inr (mem_capturesOf_iff.1 hc).1
  · exact (List.mem_append.1 hc).imp (fun h => (mem_capturesOf_iff.1 h).1)
      fun h => (mem_capturesOf_iff.1 h).1
  · next kind => exact absurd kind h
  · cases hc

theorem name_of_class (h : n.1.kind = .classDeclaration) {c : Capture}
    (hc : c ∈ phpCapturesAt sentinel n) : c.name ≠ .namespaceName ∧ c.name ≠ .comment := by
  simp only [phpCapturesAt, h, List.mem_append, List.mem_flatMap, mem_capturesOf_iff] at hc
  obtain ((⟨item, -, hc⟩ | ⟨name, -⟩) | ⟨name, -⟩) | hc := hc
  · rcases name_of_mem_attributeCaptures hc with name | name <;> simp [name]
  · simp [name]
  · simp [name]
  · split at hc
    · cases hc
    · rw [List.mem_singleton.1 hc]
      simp

end Names

section Trees

variable (sentinel : String) (root : Node) (q : Located → Bool)

/-- Captures that class declarations alone give. -/
theorem filter_of_class {name : CaptureName} {f : Located → List Located}
    (here : ∀ n : Located, n.1.kind = .classDeclaration →
      (phpCapturesAt sentinel n).filter (fun c => c.name == name) = (f n).map (captured name))
    (space : name ≠ .namespaceName) (comment : name ≠ .comment) :
    ((nodesAt [] root).flatMap (phpCapturesAt sentinel)).filter
        (fun c => c.name == name && q (c.node, c.path)) =
      (((nodesOfKind .classDeclaration root).flatMap f).filter q).map (captured name) := by
  refine filter_flatMap_phpCapturesAt here (fun n kind => List.filter_eq_nil_iff.2 fun c hc => ?_) root q
  rw [beq_iff_eq]
  rintro rfl
  exact (name_of_not_class kind hc).elim space comment

theorem filter_className :
    ((nodesAt [] root).flatMap (phpCapturesAt sentinel)).filter
        (fun c => c.name == .className && q (c.node, c.path)) =
      (((nodesOfKind .classDeclaration root).flatMap (inField .name .name)).filter q).map
        (captured .className) := by
  refine filter_of_class sentinel root q (fun n kind => ?_) nofun nofun
  rw [filter_class _ kind]
  simp [filter_attributeCaptures_of_ne]

theorem filter_finalKeyword :
    ((nodesAt [] root).flatMap (phpCapturesAt sentinel)).filter
        (fun c => c.name == .finalKeyword && q (c.node, c.path)) =
      (((nodesOfKind .classDeclaration root).flatMap (ofKind .finalModifier)).filter q).map
        (captured .finalKeyword) := by
  refine filter_of_class sentinel root q (fun n kind => ?_) nofun nofun
  rw [filter_class _ kind]
  simp [filter_attributeCaptures_of_ne]

theorem filter_package :
    ((nodesAt [] root).flatMap (phpCapturesAt sentinel)).filter
        (fun c => c.name == .package && q (c.node, c.path)) =
      (((nodesOfKind .classDeclaration root).flatMap (attributeContents sentinel)).filter q).map
        (captured .package) := by
  refine filter_of_class sentinel root q (fun n kind => ?_) nofun nofun
  rw [filter_class _ kind]
  simp [filter_attributeCaptures, attributeContents, List.map_flatMap]

theorem filter_classNode :
    ((nodesAt [] root).flatMap (phpCapturesAt sentinel)).filter
        (fun c => c.name == .classNode && q (c.node, c.path)) =
      ((namedClasses root).filter q).map (captured .classNode) := by
  have named : namedClasses root = (nodesOfKind .classDeclaration root).flatMap
      fun n => if (inField .name .name n).isEmpty then [] else [n] := by
    rw [namedClasses]
    induction nodesOfKind .classDeclaration root with
    | nil => rfl
    | cons n ns ih =>
      rw [List.filter_cons, List.flatMap_cons, ih]
      cases (inField .name .name n).isEmpty <;> rfl
  rw [named]
  refine filter_of_class sentinel root q (fun n kind => ?_) nofun nofun
  rw [filter_class _ kind]
  simp [filter_attributeCaptures_of_ne]

theorem filter_namespaceName :
    ((nodesAt [] root).flatMap (phpCapturesAt sentinel)).filter
        (fun c => c.name == .namespaceName && q (c.node, c.path)) =
      ((namespaceNames root).filter q).map (captured .namespaceName) := by
  refine filter_flatMap_phpCapturesAt (fun n kind => ?_) (fun n kind => ?_) root q
  · simp [phpCapturesAt, kind, filter_capturesOf]
  · refine List.filter_eq_nil_iff.2 fun c hc => ?_
    rw [beq_iff_eq]
    by_cases cls : n.1.kind = .classDeclaration
    · exact (name_of_class cls hc).1
    · unfold phpCapturesAt at hc
      split at hc
      · simp [(mem_capturesOf_iff.1 hc).1]
      · next h => exact absurd h kind
      · next h => exact absurd h cls
      · cases hc

/-- The comments among the captures. -/
theorem mem_phpCaptures_comment_iff {c : Capture} (name : c.name = .comment) :
    c ∈ phpCaptures sentinel root ↔ (c.node, c.path) ∈ topComments root := by
  have each (n : Located) : c ∈ phpCapturesAt sentinel n ↔ (c.node, c.path) ∈ commentsAt n := by
    by_cases cls : n.1.kind = .classDeclaration
    · exact iff_of_false (fun hc => (name_of_class cls hc).2 name) (by simp [commentsAt, cls])
    · unfold phpCapturesAt commentsAt
      split <;> simp_all [mem_capturesOf_iff]
  rw [phpCaptures, List.mem_mergeSort, List.mem_flatMap, topComments, List.mem_flatMap]
  simp only [each]

end Trees

end DomainAtlas.Syntax
