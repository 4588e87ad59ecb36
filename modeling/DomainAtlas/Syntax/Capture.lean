import DomainAtlas.Dialect
import DomainAtlas.Syntax.Tree

/-!
# Captures

A query finds nodes by their kinds and places in the tree and gives each a name. `phpCaptures` and
`scriptCaptures` are the answers to the two definition queries, `usageCaptures` to the query for
references. Answers come in document order, at one place by name.
-/
namespace DomainAtlas.Syntax

inductive CaptureName where
  | namespaceName
  | comment
  | attributeName
  | package
  | finalKeyword
  | className
  | classNode
  | usage
  deriving DecidableEq, Repr

/-- A capture name as it is written in a query. -/
def CaptureName.text : CaptureName → String
  | .namespaceName => "namespace"
  | .comment => "comment"
  | .attributeName => "attribute_name"
  | .package => "package"
  | .finalKeyword => "final_keyword"
  | .className => "classname"
  | .classNode => "class"
  | .usage => "usage"

/-- A captured node, with the way to it from the root: the index of a child at each step. -/
structure Capture where
  name : CaptureName
  node : Node
  path : List Nat

def Capture.text (c : Capture) : String := c.node.text

def Capture.start (c : Capture) : Nat := c.node.start

def childrenAt (path : List Nat) (n : Node) : List (Node × List Nat) :=
  n.children.zipIdx.map fun (c, i) => (c, path ++ [i])

mutual

/-- All nodes of a tree with their paths, each before its children. -/
def nodesAt (path : List Nat) : Node → List (Node × List Nat)
  | .mk k f m s t cs => (.mk k f m s t cs, path) :: nodesOf path 0 cs

/-- All nodes of some siblings, the first of which has the given index. -/
def nodesOf (path : List Nat) (i : Nat) : List Node → List (Node × List Nat)
  | [] => []
  | n :: ns => nodesAt (path ++ [i]) n ++ nodesOf path (i + 1) ns

end

def ofKind (k : Kind) (at' : Node × List Nat) : List (Node × List Nat) :=
  (childrenAt at'.2 at'.1).filter fun c => c.1.kind == k

def inField (f : Field) (k : Kind) (at' : Node × List Nat) : List (Node × List Nat) :=
  (ofKind k at').filter fun c => c.1.field == some f

def capturesOf (name : CaptureName) (ns : List (Node × List Nat)) : List Capture :=
  ns.map fun (n, p) => ⟨name, n, p⟩

/-- Contents of the strings that are the whole of the first argument. -/
def firstStrings (args : Node × List Nat) : List (Node × List Nat) :=
  match (childrenAt args.2 args.1).head? with
  | none => []
  | some arg =>
    if arg.1.kind == .argument then
      (ofKind .string arg ++ ofKind .encapsedString arg).flatMap (ofKind .stringContent)
    else []

/-- The captures of one attribute: its name, once, and the contents of its first argument. -/
def attributeCaptures (sentinel : String) (item : Node × List Nat) : List Capture :=
  let names := (ofKind .name item).filter fun n => n.1.text == sentinel
  let contents := (inField .parameters .arguments item).flatMap firstStrings
  if names.isEmpty || contents.isEmpty then []
  else capturesOf .attributeName names ++ capturesOf .package contents

/-- The captures of one node for the PHP query. -/
def phpCapturesAt (sentinel : String) (at' : Node × List Nat) : List Capture :=
  match at'.1.kind with
  | .program => capturesOf .comment (ofKind .comment at')
  | .namespaceDefinition =>
    capturesOf .namespaceName (inField .name .namespaceName at') ++
      capturesOf .comment ((inField .body .compoundStatement at').flatMap (ofKind .comment))
  | .classDeclaration =>
    let items := ((inField .attributes .attributeList at').flatMap (ofKind .attributeGroup)).flatMap
      (ofKind .attributeItem)
    let names := inField .name .name at'
    items.flatMap (attributeCaptures sentinel) ++
      capturesOf .finalKeyword (ofKind .finalModifier at') ++
      capturesOf .className names ++
      (if names.isEmpty then [] else [⟨.classNode, at'.1, at'.2⟩])
  | _ => []

/-- Captures in document order, at one place by name. -/
def captureLe (a b : Capture) : Bool :=
  if a.start = b.start then decide (a.name.text ≤ b.name.text) else decide (a.start < b.start)

/-- The answers to the PHP definition query. -/
def phpCaptures (sentinel : String) (root : Node) : List Capture :=
  ((nodesAt [] root).flatMap (phpCapturesAt sentinel)).mergeSort captureLe

/-- The answers to the script definition query: the comments among the children of the root. -/
def scriptCaptures (root : Node) : List Capture :=
  let comments := if root.kind == .program then ofKind .comment (root, []) else []
  (capturesOf .comment comments).mergeSort captureLe

/-- The answers to the query for references. -/
def usageCaptures (root : Node) : List Capture :=
  (capturesOf .usage ((nodesAt [] root).filter fun n => n.1.kind == .qualifiedName)).mergeSort
    captureLe

end DomainAtlas.Syntax
