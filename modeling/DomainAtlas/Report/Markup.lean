import DomainAtlas.Report.Slug
import DomainAtlas.Text.Basic

/-!
# Markup

A page is a list of pieces: markup of its own, texts from outside, and classes named after domains.
Only the first kind is written as it is; texts are escaped, and a class name is a slug, so nothing from
outside can look like markup.
-/
namespace DomainAtlas

inductive Piece where
  | markup (s : String)
  | text (s : String)
  /-- The class of a domain. -/
  | slug (domain : String)
  deriving DecidableEq, Repr

/-- A character of a text in a page. -/
def escapedChar (c : Char) : List Char :=
  if c = '&' then "&amp;".toList
  else if c = '<' then "&lt;".toList
  else if c = '>' then "&gt;".toList
  else if c = '"' then "&#34;".toList
  else if c = '\'' then "&#39;".toList
  else [c]

/-- A text in a page. -/
def escaped (s : String) : String := String.ofList (s.toList.flatMap escapedChar)

def Piece.render : Piece → String
  | .markup s => s
  | .text s => escaped s
  | .slug domain => domainSlug domain

def renderPieces (ps : List Piece) : String := String.join (ps.map Piece.render)

end DomainAtlas
