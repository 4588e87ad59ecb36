/-!
# Slugs

A domain becomes part of a class name in the report. Only letters, digits, dashes and underscores
of ASCII are left; an at sign becomes two dashes, everything else one.
-/
namespace DomainAtlas

def isSlugChar (c : Char) : Bool := c.isAlphanum || c == '_' || c == '-'

def slugChar (c : Char) : List Char :=
  if c = '@' then ['-', '-'] else if isSlugChar c then [c] else ['-']

def domainSlug (domain : String) : String := String.ofList (domain.toList.flatMap slugChar)

end DomainAtlas
