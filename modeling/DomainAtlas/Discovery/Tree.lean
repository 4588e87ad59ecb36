/-!
# Directory trees

A tree as a walk sees it. A link to a directory is seen as such but never entered; a link to a
file, or to nothing, is a file.
-/
namespace DomainAtlas

/-- An entry of a directory. -/
inductive Tree where
  /-- A file with its bytes, or without them if it cannot be read. -/
  | file (content : Option ByteArray)
  /-- A link to a directory. -/
  | dirLink
  | dir (entries : List (String × Tree))

namespace Tree

/-- The entries of a directory; nothing else has any. -/
def entries : Tree → List (String × Tree)
  | .dir es => es
  | _ => []

/-- Whether an entry counts as a directory. -/
def isDir : Tree → Bool
  | .dir _ => true
  | .dirLink => true
  | .file _ => false

def fileNames (es : List (String × Tree)) : List String :=
  (es.filter fun e => !e.2.isDir).map Prod.fst

end Tree

end DomainAtlas
