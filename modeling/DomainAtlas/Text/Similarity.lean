import DomainAtlas.Text.Basic

/-!
# Similar words

Two words are compared by the longest run of characters they have in common, and then in the same
way by what stands before it and after it in both. Their similarity is twice the number of
characters matched in this way, divided by the characters of both.
-/
namespace DomainAtlas.Text

/-- The length of the common start of two lists. -/
def commonStart : List Char → List Char → Nat
  | a :: as, b :: bs => if a = b then commonStart as bs + 1 else 0
  | _, _ => 0

/-- A common run: where it starts in both words, and its length. -/
structure Run where
  left : Nat
  right : Nat
  size : Nat
  deriving DecidableEq, Repr

/-- The longest common run; of several the first in the left word, and then in the right one. -/
def longestRun (a b : List Char) : Run :=
  (List.range a.length).foldl (fun best i =>
    (List.range b.length).foldl (fun best j =>
      let n := commonStart (a.drop i) (b.drop j)
      if best.size < n then ⟨i, j, n⟩ else best) best) ⟨0, 0, 0⟩

/-- The number of characters that match; `fuel` bounds the depth. -/
def matchedFuel : Nat → List Char → List Char → Nat
  | 0, _, _ => 0
  | fuel + 1, a, b =>
    let r := longestRun a b
    if r.size = 0 then 0
    else r.size + matchedFuel fuel (a.take r.left) (b.take r.right) +
      matchedFuel fuel (a.drop (r.left + r.size)) (b.drop (r.right + r.size))

/-- The number of characters that match. -/
def matched (a b : List Char) : Nat := matchedFuel a.length a b

/-- How many similar words are worth a hint. -/
def hintLimit : Nat := 3

/-- The similarity of two words as a fraction. -/
def similarity (a b : String) : Nat × Nat :=
  let size := a.length + b.length
  if size = 0 then (1, 1) else (2 * matched a.toList b.toList, size)

/-- Whether a word is so similar that it is worth a hint. -/
def isSimilar (p : Nat × Nat) : Bool := decide (6 * p.2 ≤ 10 * p.1)

/-- The words most similar to a word, in order of the alphabet. -/
def similarTo (word : String) (words : List String) : List String :=
  let rated := (words.map fun w => (similarity w word, w)).filter fun r => isSimilar r.1
  let best := rated.mergeSort fun a b =>
    let x := a.1.1 * b.1.2
    let y := b.1.1 * a.1.2
    if x = y then le b.2 a.2 else decide (y < x)
  sort ((best.take hintLimit).map Prod.snd)

end DomainAtlas.Text
