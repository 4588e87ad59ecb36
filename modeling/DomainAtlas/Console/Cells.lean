import DomainAtlas.Text.Basic

/-!
# Widths on a terminal

A character takes no, one or two cells of a terminal. Texts are measured, cut and padded in cells.
-/
namespace DomainAtlas.Console

def cells (cs : List Char) : Nat := (cs.map Text.cellWidth).foldl (· + ·) 0

def spaces (n : Nat) : List Char := List.replicate n ' '

/-- The front of a text that takes exactly `n` cells: longer texts are cut, a wide character that
would stand half outside becomes a space, and shorter texts are padded. -/
def resize : Nat → List Char → List Char
  | n, [] => spaces n
  | n, c :: cs =>
    let w := Text.cellWidth c
    if w ≤ n then c :: resize (n - w) cs else spaces n

/-- Cuts a text into pieces of at most `width` cells. `used` counts the cells of the piece so far,
which is kept in reverse. -/
def chopFrom (width used : Nat) (piece : List Char) : List Char → List (List Char)
  | [] => [piece.reverse]
  | c :: cs =>
    let w := Text.cellWidth c
    if width < used + w then piece.reverse :: chopFrom width w [c] cs
    else chopFrom width (used + w) (c :: piece) cs

/-- Cuts a text into pieces of at most `width` cells. -/
def chop (width : Nat) (cs : List Char) : List (List Char) := chopFrom width 0 [] cs

def tabStop : Nat := 8

/-- Replaces each tab by a space and as many more as lead to the next tab stop. `start` is the cell the
text starts in. -/
def expandTabs (start : Nat) : List Char → List Char
  | [] => []
  | c :: cs =>
    if c = '\t' then
      let next := start + 1
      let fill := (tabStop - next % tabStop) % tabStop
      spaces (1 + fill) ++ expandTabs (next + fill) cs
    else c :: expandTabs (start + Text.cellWidth c) cs

end DomainAtlas.Console
