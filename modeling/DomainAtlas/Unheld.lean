/-!
# What is not described

A text can stand for something that no value here can hold. Readers say so with a fault of its own: it
does not mean that the text is wrong.
-/
namespace DomainAtlas

/-- What a text stands for that cannot be held. -/
inductive Unheld where
  /-- Half of a surrogate pair as a character. -/
  | halfPair
  /-- A character by its name. -/
  | characterName
  /-- A collection that is part of itself. -/
  | endless
  /-- Collections or groups that stand too deep in one another. -/
  | deep
  deriving DecidableEq, Repr

/-- The wording for what cannot be held. -/
def Unheld.message : Unheld → String
  | .halfPair => "half of a surrogate pair"
  | .characterName => "the name of a character"
  | .endless => "a collection in itself"
  | .deep => "nested too deep"

/-- How deep collections and groups may stand in one another. -/
def maxDepth : Nat := 100

end DomainAtlas
