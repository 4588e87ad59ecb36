import DomainAtlas.Syntax.Capture
import Mathlib.Data.List.Basic

/-!
# Places in syntax trees

A node stands at a place: the way to it from the root, as the index of a child at each step.
`Node.at?` goes down such a way, and `nodesAt` lists the nodes of a tree with theirs.

Results:
* `mem_nodesAt_iff`: the list holds every node at its place, and nothing else.
* `nodup_nodesAt`: no place is listed twice.
* `nodesOf_append`: the nodes of more siblings come after those that were there.
-/
namespace DomainAtlas.Syntax

/-- A node with the way to it from the root. -/
abbrev Located := Node × List Nat

/-- What holds of a node whenever it holds of its children holds of every node. -/
@[elab_as_elim]
theorem Node.induction {motive : Node → Prop}
    (mk : ∀ k f m s t cs, (∀ c ∈ cs, motive c) → motive (.mk k f m s t cs)) : ∀ n, motive n
  | .mk k f m s t cs => mk k f m s t cs fun c _ => Node.induction mk c

/-- The node at the end of a way. -/
def Node.at? : Node → List Nat → Option Node
  | n, [] => some n
  | n, i :: way => n.children[i]?.bind fun c => c.at? way

@[simp] theorem Node.at?_nil (n : Node) : n.at? [] = some n := by
  cases n; rfl

theorem Node.at?_cons (n : Node) (i : Nat) (way : List Nat) :
    n.at? (i :: way) = n.children[i]?.bind fun c => c.at? way := by
  cases n; rfl

theorem Node.at?_append (n : Node) (a b : List Nat) :
    n.at? (a ++ b) = (n.at? a).bind fun m => m.at? b := by
  induction a generalizing n with
  | nil => simp
  | cons i a ih =>
    rw [List.cons_append, at?_cons, at?_cons, Option.bind_assoc]
    exact congrArg _ (funext ih)

/-! ## All nodes -/

mutual

theorem mem_nodesAt_iff {m : Node} {p base : List Nat} : ∀ n : Node,
    (m, p) ∈ nodesAt base n ↔ ∃ way, p = base ++ way ∧ n.at? way = some m
  | .mk k f s t x cs => by
    rw [nodesAt, List.mem_cons, mem_nodesOf_iff cs]
    constructor
    · rintro (h | ⟨j, way, c, hj, rfl, hc⟩)
      · obtain ⟨rfl, rfl⟩ := Prod.mk.inj h
        exact ⟨[], by simp, Node.at?_nil _⟩
      · exact ⟨j :: way, by simp, by simp [Node.at?_cons, Node.children, hj, hc]⟩
    · rintro ⟨_ | ⟨j, way⟩, rfl, h⟩
      · rw [Node.at?_nil] at h
        exact .inl (by rw [Option.some.inj h, List.append_nil])
      · obtain ⟨c, hj, hc⟩ := Option.bind_eq_some_iff.1 ((Node.at?_cons _ j way).symm.trans h)
        exact .inr ⟨j, way, c, hj, by simp, hc⟩

theorem mem_nodesOf_iff {m : Node} {p base : List Nat} {i : Nat} : ∀ ns : List Node,
    (m, p) ∈ nodesOf base i ns ↔
      ∃ j way n, ns[j]? = some n ∧ p = base ++ (i + j) :: way ∧ n.at? way = some m
  | [] => by simp [nodesOf]
  | n :: ns => by
    rw [nodesOf, List.mem_append, mem_nodesAt_iff n, mem_nodesOf_iff ns]
    constructor
    · rintro (⟨way, rfl, h⟩ | ⟨j, way, c, hj, rfl, hc⟩)
      · exact ⟨0, way, n, rfl, by simp, h⟩
      · exact ⟨j + 1, way, c, by simpa using hj, by rw [Nat.add_right_comm, Nat.add_assoc], hc⟩
    · rintro ⟨_ | j, way, c, hj, rfl, hc⟩
      · cases hj
        exact .inl ⟨way, by simp, hc⟩
      · exact .inr ⟨j, way, c, by simpa using hj, by rw [Nat.add_right_comm, Nat.add_assoc], hc⟩

end

/-- The nodes of a tree are those at the end of some way. -/
theorem mem_nodes_iff {root : Node} {at' : Located} :
    at' ∈ nodesAt [] root ↔ root.at? at'.2 = some at'.1 := by
  rw [mem_nodesAt_iff]
  simp

theorem nodesOf_append (base : List Nat) (i : Nat) (as bs : List Node) :
    nodesOf base i (as ++ bs) = nodesOf base i as ++ nodesOf base (i + as.length) bs := by
  induction as generalizing i with
  | nil => simp [nodesOf]
  | cons a as ih =>
    rw [List.cons_append, nodesOf, nodesOf, ih, List.append_assoc, List.length_cons,
      Nat.add_right_comm, Nat.add_assoc]

theorem nodup_nodesOf {ns : List Node} (each : ∀ n ∈ ns, ∀ base, (nodesAt base n).Nodup)
    (base : List Nat) (i : Nat) : (nodesOf base i ns).Nodup := by
  induction ns generalizing i with
  | nil => exact .nil
  | cons n ns ih =>
    obtain ⟨first, others⟩ := List.forall_mem_cons.1 each
    rw [nodesOf, List.nodup_append]
    refine ⟨first _, ih others (i + 1), ?_⟩
    rintro ⟨a, p⟩ ha _ hb rfl
    obtain ⟨way, rfl, -⟩ := (mem_nodesAt_iff n).1 ha
    obtain ⟨j, way', -, -, e, -⟩ := (mem_nodesOf_iff ns).1 hb
    simp at e
    omega

theorem nodup_nodesAt (base : List Nat) (n : Node) : (nodesAt base n).Nodup := by
  induction n using Node.induction generalizing base with
  | mk k f s t x cs ih =>
    rw [nodesAt, List.nodup_cons]
    refine ⟨fun h => ?_, nodup_nodesOf ih base 0⟩
    obtain ⟨j, way, -, -, e, -⟩ := (mem_nodesOf_iff cs).1 h
    simp at e

theorem nodesAt_eq (base : List Nat) (n : Node) :
    nodesAt base n = (n, base) :: nodesOf base 0 n.children := by
  cases n; rfl

/-! ## Children -/

theorem mem_childrenAt_iff {way : List Nat} {n : Node} {at' : Located} :
    at' ∈ childrenAt way n ↔ ∃ i, n.children[i]? = some at'.1 ∧ at'.2 = way ++ [i] := by
  simp only [childrenAt, List.mem_map, Prod.exists, List.mk_mem_zipIdx_iff_getElem?]
  constructor
  · rintro ⟨c, i, h, rfl⟩
    exact ⟨i, h, rfl⟩
  · rintro ⟨i, h, e⟩
    exact ⟨at'.1, i, h, by rw [← e]⟩

/-- The children of a node of a tree are nodes of the tree. -/
theorem at?_of_mem_childrenAt {root : Node} {parent child : Located}
    (here : root.at? parent.2 = some parent.1) (h : child ∈ childrenAt parent.2 parent.1) :
    root.at? child.2 = some child.1 := by
  obtain ⟨i, hi, e⟩ := mem_childrenAt_iff.1 h
  rw [e, Node.at?_append, here, Option.bind_some, Node.at?_cons, hi, Option.bind_some, Node.at?_nil]

/-- Siblings with their places, the first of which has the given index. -/
def siblingsAt (base : List Nat) (i : Nat) (ns : List Node) : List Located :=
  (ns.zipIdx i).map fun n => (n.1, base ++ [n.2])

theorem childrenAt_append {n longer : Node} {more : List Node}
    (h : longer.children = n.children ++ more) (way : List Nat) :
    childrenAt way longer = childrenAt way n ++ siblingsAt way n.children.length more := by
  simp [childrenAt, siblingsAt, h, List.zipIdx_append]

/-- Siblings are among the nodes under them. -/
theorem mem_nodesOf_of_mem_siblingsAt {base : List Nat} {i : Nat} {ns : List Node} {at' : Located}
    (h : at' ∈ siblingsAt base i ns) : at' ∈ nodesOf base i ns := by
  obtain ⟨⟨c, j⟩, hc, rfl⟩ := List.mem_map.1 h
  obtain ⟨k, rfl⟩ := Nat.exists_eq_add_of_le (List.le_snd_of_mem_zipIdx hc)
  rw [List.mk_add_mem_zipIdx_iff_getElem?] at hc
  exact (mem_nodesOf_iff ns).2 ⟨k, [], c, hc, by simp, Node.at?_nil c⟩

/-- The children of a node under some siblings are under them too. -/
theorem mem_nodesOf_of_mem_childrenAt {base : List Nat} {i : Nat} {ns : List Node}
    {parent child : Located} (here : parent ∈ nodesOf base i ns)
    (h : child ∈ childrenAt parent.2 parent.1) : child ∈ nodesOf base i ns := by
  obtain ⟨j, way, n, hj, e, found⟩ := (mem_nodesOf_iff ns).1 here
  obtain ⟨k, hk, e'⟩ := mem_childrenAt_iff.1 h
  refine (mem_nodesOf_iff ns).2 ⟨j, way ++ [k], n, hj, by simp [e', e], ?_⟩
  rw [Node.at?_append, found, Option.bind_some, Node.at?_cons, hk, Option.bind_some, Node.at?_nil]

theorem mem_ofKind_iff {k : Kind} {parent child : Located} :
    child ∈ ofKind k parent ↔ child ∈ childrenAt parent.2 parent.1 ∧ child.1.kind = k := by
  simp [ofKind]

theorem mem_inField_iff {f : Field} {k : Kind} {parent child : Located} :
    child ∈ inField f k parent ↔
      child ∈ childrenAt parent.2 parent.1 ∧ child.1.kind = k ∧ child.1.field = some f := by
  simp [inField, mem_ofKind_iff, and_assoc]

end DomainAtlas.Syntax
