import DomainAtlas.Console.Cells

/-!
# Breaking lines

A text is broken into lines of at most a given width. Lines break before words; a word that is wider
than a line is folded into pieces, or shortened with an ellipsis. White space at the end of a line
that would stick out is dropped.
-/
namespace DomainAtlas.Console

/-- What happens to a word that is wider than a line. -/
inductive Overflow where
  | fold
  | ellipsis
  deriving DecidableEq, Repr

/-- How lines are laid out in the width: as they come, or padded on one side. -/
inductive Alignment where
  | natural
  | left
  | right
  deriving DecidableEq, Repr

/-- The words of a line, each with the white space that follows it, the first also with the one
before it. -/
def wordsOf (cs : List Char) : List (List Char) :=
  let lead := cs.takeWhile Text.isBlank
  match h : cs.dropWhile Text.isBlank with
  | [] => []
  | c :: rest =>
    have h₁ := (List.dropWhile_suffix Text.isBlank (l := cs)).length_le
    let body := rest.takeWhile fun d => !Text.isBlank d
    let after := rest.dropWhile fun d => !Text.isBlank d
    let trail := after.takeWhile Text.isBlank
    let next := after.dropWhile Text.isBlank
    have : next.length < cs.length := by
      have h₂ : next.length ≤ after.length := (List.dropWhile_suffix Text.isBlank).length_le
      have h₃ : after.length ≤ rest.length := (List.dropWhile_suffix _).length_le
      rw [h] at h₁
      simp only [List.length_cons] at h₁
      omega
    (lead ++ c :: (body ++ trail)) :: wordsOf next
termination_by cs.length

/-- Where the pieces of a folded word start, and the cells the last one takes. A break at the start
of the line is none. -/
def foldBreaks (start : Nat) : List (List Char) → List Nat × Nat
  | [] => ([], 0)
  | [piece] => (if start = 0 then [] else [start], cells piece)
  | piece :: rest =>
    let (breaks, last) := foldBreaks (start + piece.length) rest
    (if start = 0 then breaks else start :: breaks, last)

/-- Where a line is broken. `start` is the place of the next word and `used` the cells taken on its
line so far. -/
def breaksFrom (width : Nat) (overflow : Overflow) (start used : Nat) :
    List (List Char) → List Nat
  | [] => []
  | w :: ws =>
    let need := cells (Text.trimEndBy Text.isBlank w)
    let next := start + w.length
    if used + need ≤ width then breaksFrom width overflow next (used + cells w) ws
    else if width < need then
      match overflow with
      | .fold =>
        let (breaks, last) := foldBreaks start (chop width w)
        breaks ++ breaksFrom width overflow next last ws
      | .ellipsis =>
        let rest := breaksFrom width overflow next (cells w) ws
        if start = 0 then rest else start :: rest
    else if used ≠ 0 ∧ start ≠ 0 then
      start :: breaksFrom width overflow next (cells w) ws
    else breaksFrom width overflow next used ws

/-- Cuts a text at places, which count from `start` on. -/
def cutAt (start : Nat) : List Nat → List Char → List (List Char)
  | [], cs => [cs]
  | b :: bs, cs => cs.take (b - start) :: cutAt b bs (cs.drop (b - start))

/-- Drops white space at the end of a line, as far as the line has more than `width` characters. -/
def dropExcess (width : Nat) (cs : List Char) : List Char :=
  let blank := (cs.reverse.takeWhile Text.isBlank).length
  cs.take (cs.length - min blank (cs.length - width))

/-- Shortens a line that is too wide. -/
def shorten (width : Nat) (overflow : Overflow) (cs : List Char) : List Char :=
  if cells cs ≤ width then cs
  else
    match overflow with
    | .fold => resize width cs
    | .ellipsis => resize (width - 1) cs ++ ['…']

/-- Lays out one line. -/
def align (width : Nat) (overflow : Overflow) (a : Alignment) (cs : List Char) : List Char :=
  match a with
  | .natural => shorten width overflow cs
  | .left =>
    let line := shorten width overflow cs
    line ++ spaces (width - cells line)
  | .right =>
    let line := shorten width overflow (Text.trimEndBy Text.isBlank cs)
    spaces (width - cells line) ++ line

/-- The lines of a line that may be too long. -/
def wrapLine (width : Nat) (overflow : Overflow) (a : Alignment) (line : List Char) :
    List (List Char) :=
  let line := expandTabs 0 line
  let pieces := cutAt 0 (breaksFrom width overflow 0 0 (wordsOf line)) line
  pieces.map fun p => align width overflow a (dropExcess width p)

def wrap (width : Nat) (overflow : Overflow) (a : Alignment) (cs : List Char) :
    List (List Char) :=
  (Text.splitChars '\n' cs).flatMap (wrapLine width overflow a)

/-- Lines with their ends. -/
def unlines (ls : List (List Char)) : String := String.ofList (ls.flatMap fun l => l ++ ['\n'])

end DomainAtlas.Console
