import DomainAtlas.Extraction.Markers
import DomainAtlas.Index.Definition
import DomainAtlas.Regex.Matcher
import DomainAtlas.Syntax.Capture

/-!
# Definitions of script files

A script file always gives one definition, keyed by its path. Its domain is what the pattern
captures in the first top-level comment that it matches, and the file is internal if some top-level
comment has a marker.
-/
namespace DomainAtlas.Extraction

open DomainAtlas.Syntax

/-- What is searched for in the comments of a script file. -/
structure ScriptMarkers where
  internalTokens : List String
  pattern : Regex.Pattern
  deriving Repr

/-- The domain the comments name: the first comment that matches decides. -/
def commentDomain (pattern : Regex.Pattern) (comments : List String) : Option String :=
  (comments.findSome? pattern.search).join

/-- The definition of a script file with these top-level comments. -/
def scriptDefinitionOf (markers : ScriptMarkers) (comments : List String) (path : String) :
    Definition where
  qualifiedKey := path
  namespaceName := none
  className := none
  fileName := path
  domain := (commentDomain markers.pattern comments).filter fun d => !d.toList.all Text.isBlank
  isInternal := commentsContain comments markers.internalTokens
  isFinal := none

end DomainAtlas.Extraction
