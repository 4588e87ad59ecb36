import DomainAtlas.Extraction.Markers
import DomainAtlas.Index.Definition
import DomainAtlas.Syntax.Capture

/-!
# Definitions of PHP files

A PHP file gives one definition, that of its first class declaration, if it has a namespace at all.
The domain and the `final` modifier count only when they belong to that declaration; of the
comments only those before it are searched for markers.
-/
namespace DomainAtlas.Extraction

open DomainAtlas.Syntax

/-- The tokens searched for in the comments of a PHP file. -/
structure ClassMarkers where
  internalTokens : List String
  finalToken : String
  deriving DecidableEq, Repr

def firstNamed (name : CaptureName) (cs : List Capture) : Option Capture :=
  cs.find? fun c => c.name == name

def isChildOf (parent : List Nat) (c : Capture) : Bool := !c.path.isEmpty && c.path.dropLast == parent

/-- Whether a node lies below the node at `ancestor`. -/
def isBelow (ancestor : List Nat) (c : Capture) : Bool :=
  ancestor.isPrefixOf c.path && ancestor.length < c.path.length

/-- The definition that captures in document order give. -/
def classDefinitionOf (markers : ClassMarkers) (cs : List Capture) (path : String) :
    Option Definition :=
  match firstNamed .namespaceName cs, firstNamed .classNode cs with
  | some space, some cls =>
    let name := ((cs.find? fun c => c.name == .className && isChildOf cls.path c).map
      Capture.text).getD ""
    if space.text = "" ∨ name = "" then none
    else
      let comments := (cs.filter fun c => c.name == .comment && c.start < cls.start).map Capture.text
      let isFinal := cs.any fun c => c.name == .finalKeyword && isChildOf cls.path c
      let domain := (cs.find? fun c => c.name == .package && isBelow cls.path c).map Capture.text
      some {
        qualifiedKey := space.text ++ "\\" ++ name
        namespaceName := some space.text
        className := some name
        fileName := path
        domain := domain.filter fun d => !d.toList.all Text.isBlank
        isInternal := commentsContain comments markers.internalTokens
        isFinal := some (isFinal || commentsContain comments [markers.finalToken]) }
  | _, _ => none

def classDefinition (sentinel : String) (markers : ClassMarkers) (root : Node) (path : String) :
    Option Definition :=
  classDefinitionOf markers (phpCaptures sentinel root) path

/-- The names a PHP file refers to, in document order. -/
def usages (root : Node) : List String :=
  ((usageCaptures root).map Capture.text).filter (· ≠ "")

end DomainAtlas.Extraction
