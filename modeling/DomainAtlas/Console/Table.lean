import DomainAtlas.Console.Wrap
import DomainAtlas.Number.Double

/-!
# Tables

A table without lines: columns of texts with padding between them. Columns are as wide as their
widest cell. When that is too much for the terminal the widest of the columns that may shrink give
way first (`collapse`), and if nothing is left of them, all give way evenly. A cell that does not
fit is broken into lines, and a word that does not fit is shortened.
-/
namespace DomainAtlas.Console

structure Column where
  cells : List (List Char)
  alignment : Alignment
  /-- The space to the left and to the right of each cell. -/
  padLeft : Nat
  padRight : Nat
  /-- The width without padding of a column that keeps its width. -/
  fixed : Option Nat
  deriving Repr

namespace Column

/-- The space around each cell. -/
def padding (c : Column) : Nat := c.padLeft + c.padRight

/-- The cells of the longest line of a text. -/
def longestLine (cs : List Char) : Nat :=
  ((Text.lineChars [] cs).map Console.cells).foldl max 0

/-- The width a cell asks for, where at most `limit` is to be had. -/
def cellDemand (c : Column) (limit : Nat) (cell : List Char) : Nat :=
  if limit ≤ c.padding then limit else min limit (min limit (longestLine cell) + c.padding)

/-- The width a column asks for, where at most `limit` is to be had. -/
def demand (c : Column) (limit : Nat) : Nat :=
  if limit = 0 then 0
  else
    match c.fixed with
    | some w => min limit (w + c.padding)
    | none => (c.cells.map (c.cellDemand limit)).foldl max 0

/-- The lines of a cell in a column of some width. -/
def cellLines (c : Column) (width : Nat) (cell : List Char) : List (List Char) :=
  if width ≤ c.padding then []
  else
    let inner := width - c.padding
    (wrap inner .ellipsis c.alignment cell).map fun line =>
      spaces c.padLeft ++ resize inner line ++ spaces c.padRight

end Column

/-- Takes `total` away from values in the given ratios, one value after the other, from none more
than its maximum. Halves are rounded to even. -/
def reduceBy (total : Nat) : List (Nat × Nat × Nat) → List Nat
  | [] => []
  | (ratio, maximum, value) :: rest =>
    let ratios := (rest.map Prod.fst).foldl (· + ·) ratio
    if ratio = 0 then value :: reduceBy total rest
    else
      let part := min maximum (Double.roundHalfEven (ratio * total) ratios)
      (value - part) :: reduceBy (total - part) rest

/-- Takes `total` away from the values with a ratio; what may lose nothing has none. -/
def reduceWidths (total : Nat) (slots : List (Nat × Nat × Nat)) : List Nat :=
  reduceBy total (slots.map fun (r, m, v) => (if m = 0 then 0 else r, m, v))

/-- Takes width from the widest of the columns that may shrink, until the table fits or they are gone.
`fuel` bounds the rounds. -/
def collapse (limit : Nat) : Nat → List (Nat × Bool) → List (Nat × Bool)
  | 0, ws => ws
  | fuel + 1, ws =>
    let excess := (ws.map Prod.fst).foldl (· + ·) 0 - limit
    let flexible := (ws.filter Prod.snd).map Prod.fst
    let widest := flexible.foldl max 0
    let second := (flexible.filter (· ≠ widest)).foldl max 0
    let step := widest - second
    if excess = 0 ∨ flexible.isEmpty ∨ step = 0 then ws
    else
      let slots := ws.map fun (w, shrinks) =>
        (if w = widest ∧ shrinks then 1 else 0, min excess step, w)
      collapse limit fuel ((reduceWidths excess slots).zip (ws.map Prod.snd))

def columnWidths (limit : Nat) (columns : List Column) : List Nat :=
  let total (ws : List Nat) : Nat := ws.foldl (· + ·) 0
  let asked := columns.map fun c => max 1 (c.demand limit)
  if total asked ≤ limit then asked
  else
    let flexible := columns.map fun c => c.fixed.isNone
    let less := (collapse limit (total asked) (asked.zip flexible)).map Prod.fst
    let last := if total less ≤ limit then less
      else reduceWidths (total less - limit) (less.map fun w => (1, w, w))
    (columns.zip last).map fun (c, w) => c.demand w

/-- The lines of one row: the cells with their columns and widths. -/
def rowLines (row : List (Column × Nat × List Char)) : List (List Char) :=
  let blocks := row.map fun (c, width, cell) => (width, c.cellLines width cell)
  let height := (blocks.map fun b => b.2.length).foldl max 1
  (List.range height).map fun i =>
    blocks.flatMap fun (width, lines) => lines[i]?.getD (spaces width)

def tableLines (limit : Nat) (columns : List Column) : List (List Char) :=
  let widths := columnWidths limit columns
  let rows := (columns.map fun c => c.cells.length).foldl max 0
  (List.range rows).flatMap fun i =>
    rowLines ((columns.zip widths).map fun (c, w) => (c, w, c.cells[i]?.getD []))

end DomainAtlas.Console
