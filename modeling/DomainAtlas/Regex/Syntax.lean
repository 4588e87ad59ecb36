import DomainAtlas.Text.CharSet

/-!
# Regular expressions

The terms of the pattern language for comments: characters, sets, groups, repetition in three
manners, references back to groups, and assertions about what stands around a place. Whether case
matters and what counts as a line or a letter is written into each term.
-/
namespace DomainAtlas.Regex

/-- Classes of characters with a name. -/
inductive Category where
  | digit
  | space
  | word
  deriving DecidableEq, Repr

inductive SetItem where
  /-- Code points from one to another, both included. -/
  | range (low high : Nat)
  | category (c : Category) (negated ascii : Bool)
  deriving DecidableEq, Repr

/-- Places that can be asserted. -/
inductive Anchor where
  | textStart
  | textEnd
  | lineStart
  | lineEnd
  /-- The end, or before a line feed at the end. -/
  | lastLineEnd
  | wordEdge (ascii : Bool)
  | notWordEdge (ascii : Bool)
  deriving DecidableEq, Repr

/-- How a repetition chooses its count. -/
inductive Manner where
  | greedy
  | lazy
  /-- As often as possible, without a second thought. -/
  | possessive
  deriving DecidableEq, Repr

/-- A term. A list of terms stands for one after the other. -/
inductive Term where
  | char (c : Char) (foldsCase : Bool)
  | any (lineEndsToo : Bool)
  | set (negated : Bool) (items : List SetItem) (foldsCase : Bool)
  | anchor (a : Anchor)
  | group (index : Option Nat) (body : List Term)
  | branch (branches : List (List Term))
  | repeated (least : Nat) (most : Option Nat) (manner : Manner) (body : List Term)
  /-- What a group matched; its widths are those of the group. -/
  | reference (index : Nat) (widths : Nat × Option Nat) (foldsCase : Bool)
  | ahead (negated : Bool) (body : List Term)
  /-- What stands before; the width of the body is fixed. -/
  | behind (negated : Bool) (width : Nat) (body : List Term)
  | ifGroup (index : Nat) (yes no : List Term)
  | atomic (body : List Term)
  deriving Repr

structure Pattern where
  terms : List Term
  /-- The number of groups that capture. -/
  groups : Nat
  deriving Repr

mutual

/-- The least and the greatest width a term can match; none for no bound. -/
def Term.width : Term → Nat × Option Nat
  | .char _ _ => (1, some 1)
  | .any _ => (1, some 1)
  | .set _ _ _ => (1, some 1)
  | .anchor _ => (0, some 0)
  | .group _ body => widths body
  | .branch bs => branchWidths bs
  | .repeated least most _ body =>
    let (lo, hi) := widths body
    (lo * least, match hi, most with
      | some 0, _ => some 0
      | some h, some m => some (h * m)
      | _, some 0 => some 0
      | _, _ => none)
  | .reference _ between _ => between
  | .ahead _ _ => (0, some 0)
  | .behind _ _ _ => (0, some 0)
  | .ifGroup _ yes no =>
    let (a, b) := widths yes
    let (c, d) := widths no
    (min a c, match b, d with
      | some x, some y => some (max x y)
      | _, _ => none)
  | .atomic body => widths body

def widths : List Term → Nat × Option Nat
  | [] => (0, some 0)
  | t :: ts =>
    let (a, b) := t.width
    let (c, d) := widths ts
    (a + c, match b, d with
      | some x, some y => some (x + y)
      | _, _ => none)

def branchWidths : List (List Term) → Nat × Option Nat
  | [] => (0, some 0)
  | [b] => widths b
  | b :: bs =>
    let (a, h) := widths b
    let (c, d) := branchWidths bs
    (min a c, match h, d with
      | some x, some y => some (max x y)
      | _, _ => none)

end

mutual

/-- How many steps a match of a term may take at one place, repetitions counted. -/
def Term.weight : Term → Nat
  | .group _ body => 2 + weights body
  | .branch bs => 2 + branchWeights bs
  | .repeated least _ _ body => 3 + (least + 2) * (2 + weights body)
  | .ahead _ body => 2 + weights body
  | .behind _ _ body => 2 + weights body
  | .ifGroup _ yes no => 2 + weights yes + weights no
  | .atomic body => 2 + weights body
  | _ => 2

def weights : List Term → Nat
  | [] => 1
  | t :: ts => t.weight + weights ts

def branchWeights : List (List Term) → Nat
  | [] => 1
  | b :: bs => weights b + branchWeights bs

end

end DomainAtlas.Regex
