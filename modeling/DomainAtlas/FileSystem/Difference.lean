import DomainAtlas.FileSystem

/-!
# What differs between two file systems

The changes from one file system to another, so that a disk that holds the first can be made to hold
the second.
-/
namespace DomainAtlas

def FileNode.same : FileNode → FileNode → Bool
  | .file a, .file b => a == b
  | .link a, .link b => a == b
  | .dir, .dir => true
  | _, _ => false

/-- A change at a path: what is to stand there, or nothing. -/
structure FileChange where
  key : List String
  node : Option FileNode

namespace FileSystem

/-- The paths at which nothing stands any longer. -/
def removals (before after : FileSystem) : List FileChange :=
  (before.nodes.filter fun e => (after.at? e.1).isNone).map fun e => ⟨e.1, none⟩

/-- The paths at which something new or something else stands. -/
def additions (before after : FileSystem) : List FileChange :=
  (after.nodes.filter fun e => !(before.at? e.1).any fun n => n.same e.2).map
    fun e => ⟨e.1, some e.2⟩

/-- The changes from one file system to another. -/
def changes (before after : FileSystem) : List FileChange :=
  removals before after ++ additions before after

end FileSystem

end DomainAtlas
