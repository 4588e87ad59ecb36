import DomainAtlas.Text.Basic

/-!
# Markers in comments

A comment marks a declaration when it contains one of a list of tokens.
-/
namespace DomainAtlas

/-- Whether some text contains some token. -/
def commentsContain (texts tokens : List String) : Bool :=
  texts.any fun t => tokens.any fun token => Text.contains t token

end DomainAtlas
