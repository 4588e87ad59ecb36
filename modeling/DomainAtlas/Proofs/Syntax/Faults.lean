import DomainAtlas.Proofs.Syntax.Places
import Mathlib.Data.Set.Card
import Mathlib.Logic.Function.Iterate

/-!
# Counting the faults of a tree

The count of faults keeps a stack of nodes still to be visited and does not go below a node whose tree
has no fault. `turn` is one turn of it: the node on top is taken off, it is counted if it is a fault, and
its children are pushed, the last one on top, if a fault occurs in its tree.

`Node.faults` is the plain count, over every node of a tree. What a turn keeps is the counter together
with the plain counts of the trees on the stack (`owed`): a tree that is skipped owes nothing, and what
a node owes passes to its children. What a turn uses up is the number of nodes in the trees on the stack.

Results:
* `hasFault_iff`: a tree is marked exactly if a fault stands somewhere in it.
* `owed_turn`, `sizes_turn`: what a turn keeps and what it uses up.
* `turns_exhaust`: the stack is empty after at most one turn for each node.
* `faultCount_spec`: the count is the number of places where a fault stands.
-/
namespace DomainAtlas.Syntax.Node

/-! ## The plain count -/

mutual

/-- The number of faults in a tree. -/
def faults : Node → Nat
  | mk k f m s t cs => (if (mk k f m s t cs).isFault then 1 else 0) + faultsAmong cs

/-- The number of faults in some trees. -/
def faultsAmong : List Node → Nat
  | [] => 0
  | n :: ns => faults n + faultsAmong ns

end

theorem faults_eq (n : Node) :
    n.faults = (if n.isFault then 1 else 0) + faultsAmong n.children := by
  cases n; rfl

@[simp] theorem faultsAmong_append (a b : List Node) :
    faultsAmong (a ++ b) = faultsAmong a + faultsAmong b := by
  induction a with
  | nil => simp [faultsAmong]
  | cons n ns ih => simp only [List.cons_append, faultsAmong, ih]; omega

@[simp] theorem faultsAmong_reverse (a : List Node) : faultsAmong a.reverse = faultsAmong a := by
  induction a with
  | nil => rfl
  | cons n ns ih => simp only [List.reverse_cons, faultsAmong_append, ih, faultsAmong]; omega

theorem anyFault_eq_false_iff {ns : List Node} :
    anyFault ns = false ↔ ∀ n ∈ ns, n.hasFault = false := by
  induction ns with
  | nil => simp [anyFault]
  | cons n ns ih => simp [anyFault, ih]

theorem faultsAmong_eq_zero_iff {ns : List Node} :
    faultsAmong ns = 0 ↔ ∀ n ∈ ns, n.faults = 0 := by
  induction ns with
  | nil => simp [faultsAmong]
  | cons n ns ih => simp [faultsAmong, ih]

/-- A tree that is not marked has no fault. -/
theorem hasFault_eq_false_iff (n : Node) : n.hasFault = false ↔ n.faults = 0 := by
  induction n using Node.induction with
  | mk k f m s t cs ih =>
    have below : anyFault cs = false ↔ faultsAmong cs = 0 := by
      rw [anyFault_eq_false_iff, faultsAmong_eq_zero_iff]
      exact forall₂_congr ih
    rw [hasFault, faults, Bool.or_eq_false_iff, below]
    simp [isFault, kind, missing]

theorem faultsAmong_eq_countP {ns : List Node}
    (each : ∀ n ∈ ns, ∀ base, n.faults = (nodesAt base n).countP fun at' => at'.1.isFault)
    (base : List Nat) (i : Nat) :
    faultsAmong ns = (nodesOf base i ns).countP fun at' => at'.1.isFault := by
  induction ns generalizing i with
  | nil => simp [faultsAmong, nodesOf]
  | cons n ns ih =>
    obtain ⟨first, others⟩ := List.forall_mem_cons.1 each
    rw [faultsAmong, nodesOf, List.countP_append, ← first, ← ih others]

/-- The plain count goes over the nodes of the tree with their places. -/
theorem faults_eq_countP (base : List Nat) (n : Node) :
    n.faults = (nodesAt base n).countP fun at' => at'.1.isFault := by
  induction n using Node.induction generalizing base with
  | mk k f m s t cs ih =>
    rw [faults, nodesAt, List.countP_cons, faultsAmong_eq_countP ih base 0, Nat.add_comm]

/-- The places in a tree where a fault stands. -/
def faultPlaces (root : Node) : Set (List Nat) :=
  {way | ∃ n, root.at? way = some n ∧ n.isFault = true}

/-- A tree is marked exactly if a fault stands somewhere in it. -/
theorem hasFault_iff (n : Node) : n.hasFault = true ↔ n.faultPlaces.Nonempty := by
  have counted : n.hasFault = true ↔ 0 < (nodesAt [] n).countP fun at' => at'.1.isFault := by
    rw [← faults_eq_countP, Nat.pos_iff_ne_zero, ne_eq, ← hasFault_eq_false_iff, Bool.not_eq_false]
  rw [counted, List.countP_pos_iff]
  constructor
  · rintro ⟨at', mem, fault⟩
    exact ⟨at'.2, at'.1, mem_nodes_iff.1 mem, fault⟩
  · rintro ⟨way, m, here, fault⟩
    exact ⟨(m, way), mem_nodes_iff.2 here, fault⟩

/-- Every place is counted once. -/
theorem encard_faultPlaces (root : Node) : root.faultPlaces.encard = root.faults := by
  have nodup : (((nodesAt [] root).filter fun at' => at'.1.isFault).map Prod.snd).Nodup := by
    refine ((nodup_nodesAt [] root).filter _).map_on fun a ha b hb same => Prod.ext ?_ same
    -- At one place stands one node.
    have here := mem_nodes_iff.1 (List.mem_filter.1 ha).1
    have there := mem_nodes_iff.1 (List.mem_filter.1 hb).1
    rw [same, there] at here
    exact (Option.some.inj here).symm
  have places : root.faultPlaces =
      (((nodesAt [] root).filter fun at' => at'.1.isFault).map Prod.snd).toFinset := by
    ext way
    simp [faultPlaces, mem_nodes_iff]
  rw [places, Set.encard_coe_eq_coe_finsetCard, List.toFinset_card_of_nodup nodup, List.length_map,
    ← List.countP_eq_length_filter, ← faults_eq_countP]

/-! ## The turns of the count -/

/-- One turn: the stack and the counter after it. -/
def turn : List Node × Nat → List Node × Nat
  | ([], count) => ([], count)
  | (n :: rest, count) =>
    (if n.hasFault then n.children.reverse ++ rest else rest,
      if n.isFault then count + 1 else count)

/-- What has been counted together with what the trees on the stack still owe. -/
def owed (s : List Node × Nat) : Nat := s.2 + faultsAmong s.1

theorem owed_turn (s : List Node × Nat) : owed (turn s) = owed s := by
  obtain ⟨_ | ⟨n, rest⟩, count⟩ := s
  · rfl
  · have node := faults_eq n
    simp only [owed, turn, faultsAmong]
    cases marked : n.hasFault with
    | true =>
      rw [if_pos rfl, faultsAmong_append, faultsAmong_reverse, node]
      split <;> omega
    | false =>
      -- What is skipped has no fault.
      have none := (hasFault_eq_false_iff n).1 marked
      rw [none] at node ⊢
      rw [if_neg Bool.false_ne_true]
      split
      · next fault =>
        rw [if_pos fault] at node
        omega
      · rw [Nat.zero_add]

theorem sizes_turn {s : List Node × Nat} (more : s.1 ≠ []) : sizes (turn s).1 < sizes s.1 := by
  obtain ⟨_ | ⟨n, rest⟩, count⟩ := s
  · exact absurd rfl more
  · have node := size_eq n
    simp only [turn, sizes]
    split
    · rw [sizes_append, sizes_reverse]
      omega
    · omega

theorem countFaults_turn (s : List Node × Nat) :
    countFaults (turn s).1 (turn s).2 = countFaults s.1 s.2 := by
  obtain ⟨_ | ⟨n, rest⟩, count⟩ := s
  · rfl
  · rw [countFaults.eq_def (n :: rest) count]
    simp only [turn]
    cases n.hasFault <;> rfl

/-- The count comes to an end, after at most one turn for each node, and the counter then holds what was
owed at the start. -/
theorem turns_exhaust (s : List Node × Nat) :
    ∃ turns, turns ≤ sizes s.1 ∧ turn^[turns] s = ([], owed s) := by
  -- On the number of nodes in the trees on the stack, which every turn makes smaller.
  induction hsize : sizes s.1 using Nat.strongRecOn generalizing s with
  | ind size ih =>
    obtain ⟨_ | ⟨n, rest⟩, count⟩ := s
    · exact ⟨0, Nat.zero_le _, by simp [owed, faultsAmong]⟩
    · have less := sizes_turn (s := (n :: rest, count)) (by simp)
      obtain ⟨turns, bound, done⟩ := ih _ (hsize ▸ less) (turn (n :: rest, count)) rfl
      refine ⟨turns + 1, by omega, ?_⟩
      rw [Function.iterate_succ_apply, done, owed_turn]

/-- The counter at the end is what the count gives. -/
theorem countFaults_of_exhausted {s : List Node × Nat} {count turns : Nat}
    (done : turn^[turns] s = ([], count)) : countFaults s.1 s.2 = count := by
  induction turns generalizing s with
  | zero =>
    obtain rfl : s = ([], count) := done
    exact countFaults.eq_def [] count
  | succ turns ih =>
    rw [Function.iterate_succ_apply] at done
    rw [← countFaults_turn, ih done]

theorem countFaults_eq (s : List Node × Nat) : countFaults s.1 s.2 = owed s := by
  obtain ⟨turns, -, done⟩ := turns_exhaust s
  exact countFaults_of_exhausted done

theorem faultCount_eq (n : Node) : n.faultCount = n.faults := by
  rw [faultCount]
  split
  · exact (countFaults_eq ([n], 0)).trans (by simp [owed, faultsAmong])
  · next unmarked => exact ((hasFault_eq_false_iff n).1 (by simpa using unmarked)).symm

/-- **The count of faults.** In every tree a node is marked exactly if it or a node below it is a fault;
the count empties its stack in at most as many turns as the tree has nodes; and what it gives is the
number of places where a fault stands. -/
theorem faultCount_spec (root : Node) :
    (∀ way n, root.at? way = some n →
      (n.hasFault = true ↔ ∃ below m, n.at? below = some m ∧ m.isFault = true)) ∧
    (∃ turns, turns ≤ root.size ∧ turn^[turns] ([root], 0) = ([], root.faultCount)) ∧
    (root.faultCount : ℕ∞) = {way | ∃ n, root.at? way = some n ∧ n.isFault = true}.encard := by
  refine ⟨fun way n here => hasFault_iff n, ?_, ?_⟩
  · obtain ⟨turns, bound, done⟩ := turns_exhaust ([root], 0)
    refine ⟨turns, by simpa [sizes] using bound, ?_⟩
    rw [done, owed, faultsAmong, faultsAmong, Nat.add_zero, Nat.zero_add, faultCount_eq]
  · rw [faultCount_eq]
    exact (encard_faultPlaces root).symm

end DomainAtlas.Syntax.Node
