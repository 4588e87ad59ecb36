/-!
# Syntax trees

A tree of nodes with a kind, the field of the parent they fill, the byte they start at, their text
and their children. The trees hold what the extractors look at; everything else is `other`.

`faultCount` counts the nodes that stand for faults, with a stack of nodes still to be visited, and
leaves out subtrees without any.
-/
namespace DomainAtlas.Syntax

inductive Kind where
  | program
  | comment
  | namespaceDefinition
  | namespaceName
  | compoundStatement
  | classDeclaration
  | attributeList
  | attributeGroup
  | attributeItem
  | name
  | arguments
  | argument
  | string
  | encapsedString
  | stringContent
  | finalModifier
  | qualifiedName
  /-- What could not be parsed. -/
  | fault
  | other
  deriving DecidableEq, Repr

/-- Fields of a node that its children fill. -/
inductive Field where
  | name
  | body
  | attributes
  | parameters
  deriving DecidableEq, Repr

inductive Node where
  | mk (kind : Kind) (field : Option Field) (missing : Bool) (start : Nat) (text : String)
      (children : List Node)
  deriving Repr

namespace Node

def kind : Node → Kind
  | mk k _ _ _ _ _ => k

def field : Node → Option Field
  | mk _ f _ _ _ _ => f

/-- Whether the node was supplied where the source has none. -/
def missing : Node → Bool
  | mk _ _ m _ _ _ => m

def start : Node → Nat
  | mk _ _ _ s _ _ => s

def text : Node → String
  | mk _ _ _ _ t _ => t

def children : Node → List Node
  | mk _ _ _ _ _ cs => cs

/-- Whether the node itself stands for a fault. -/
def isFault (n : Node) : Bool := n.kind == .fault || n.missing

mutual

/-- Whether a fault occurs in the tree. -/
def hasFault : Node → Bool
  | mk k _ m _ _ cs => k == .fault || m || anyFault cs

def anyFault : List Node → Bool
  | [] => false
  | n :: ns => hasFault n || anyFault ns

end

mutual

def size : Node → Nat
  | mk _ _ _ _ _ cs => 1 + sizes cs

/-- The number of nodes of some trees. -/
def sizes : List Node → Nat
  | [] => 0
  | n :: ns => size n + sizes ns

end

theorem size_eq (n : Node) : n.size = 1 + sizes n.children := by
  cases n; simp [size, children]

theorem sizes_append (a b : List Node) : sizes (a ++ b) = sizes a + sizes b := by
  induction a with
  | nil => simp [sizes]
  | cons n ns ih => simp only [List.cons_append, sizes, ih]; omega

theorem sizes_reverse (a : List Node) : sizes a.reverse = sizes a := by
  induction a with
  | nil => rfl
  | cons n ns ih => simp only [List.reverse_cons, sizes_append, ih, sizes]; omega

/-- Counts faults among the nodes on a stack; a node's children are pushed, the last on top, only
if a fault occurs below it. -/
def countFaults (stack : List Node) (count : Nat) : Nat :=
  match stack with
  | [] => count
  | n :: rest =>
    let count := if n.isFault then count + 1 else count
    if n.hasFault then countFaults (n.children.reverse ++ rest) count else countFaults rest count
termination_by sizes stack
decreasing_by
  · simp only [sizes, size_eq, sizes_append, sizes_reverse]; omega
  · simp only [sizes, size_eq]; omega

/-- The number of faults in a tree. -/
def faultCount (n : Node) : Nat := if n.hasFault then countFaults [n] 0 else 0

end Node

end DomainAtlas.Syntax
