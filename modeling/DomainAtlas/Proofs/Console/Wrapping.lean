import DomainAtlas.Console.Wrap
import DomainAtlas.Proofs.Text.Parts
import Mathlib.Data.List.Forall2

/-!
# Broken lines

A line that is broken for a console keeps its characters: the pieces put together again are the line, and
each piece is shown as it is, up to white space at its end. The reason is that no piece sticks out with
anything but white space (`Fits`): a piece grows word by word, and a word that would stick out starts a
new piece or is itself chopped.

Results:
* `fits_cutAt`: the pieces of a line fit.
* `broken_wrapLine`: what is shown of one line.
* `broken_wrap`: what is shown of a text.
-/
namespace DomainAtlas.Console

open Text

/-! ## Cells -/

theorem cells_nil : cells [] = 0 := rfl

theorem cells_append (a b : List Char) : cells (a ++ b) = cells a + cells b := by
  simp only [cells, ← List.sum_eq_foldl, List.map_append, List.sum_append]

theorem cells_cons (c : Char) (cs : List Char) : cells (c :: cs) = cellWidth c + cells cs := by
  simp only [cells, ← List.sum_eq_foldl, List.map_cons, List.sum_cons]

theorem cells_reverse (cs : List Char) : cells cs.reverse = cells cs := by
  simp only [cells, ← List.sum_eq_foldl, List.map_reverse, List.sum_reverse]

theorem cellWidth_le_two (c : Char) : cellWidth c ≤ 2 := by
  unfold cellWidth
  simp only
  repeat' split
  all_goals omega

theorem cells_trimEndBy_le (p : Char → Bool) (cs : List Char) : cells (trimEndBy p cs) ≤ cells cs := by
  obtain ⟨tail, whole, -⟩ := exists_trimEndBy_append p cs
  have sum := congrArg cells whole
  rw [cells_append] at sum
  omega

theorem cells_spaces (n : Nat) : cells (spaces n) = n := by
  induction n with
  | zero => rfl
  | succ n ih =>
    rw [spaces, List.replicate_succ, cells_cons, ← spaces, ih]
    have one : cellWidth ' ' = 1 := by decide
    omega

/-! ## Pieces -/

/-- Apart from white space at its end, a text fits in a width. -/
def Fits (width : Nat) (cs : List Char) : Prop := cells (trimEndBy isBlank cs) ≤ width

theorem fits_of_cells {width : Nat} {cs : List Char} (h : cells cs ≤ width) : Fits width cs :=
  Nat.le_trans (cells_trimEndBy_le isBlank cs) h

theorem flatten_cutAt (start : Nat) (bs : List Nat) (cs : List Char) :
    (cutAt start bs cs).flatten = cs := by
  induction bs generalizing start cs with
  | nil => simp [cutAt]
  | cons b bs ih => rw [cutAt, List.flatten_cons, ih, List.take_append_drop]

/-- A break right behind the first part. -/
theorem cutAt_behind {base start : Nat} {cur : List Char} (h : start = base + cur.length)
    (bs : List Nat) (rest : List Char) :
    cutAt base (start :: bs) (cur ++ rest) = cur :: cutAt start bs rest := by
  have length : start - base = cur.length := by omega
  rw [cutAt, length, List.take_left, List.drop_left]

section Chopping

variable {width : Nat}

theorem flatten_chopFrom (used : Nat) (piece cs : List Char) :
    (chopFrom width used piece cs).flatten = piece.reverse ++ cs := by
  induction cs generalizing used piece with
  | nil => simp [chopFrom]
  | cons c cs ih =>
    rw [chopFrom]
    split
    · rw [List.flatten_cons, ih]
      rfl
    · rw [ih, List.reverse_cons, List.append_assoc]
      rfl

theorem cells_le_of_mem_chopFrom (wide : 2 ≤ width) {piece : List Char} (h : cells piece ≤ width)
    {cs p : List Char} (mem : p ∈ chopFrom width (cells piece) piece cs) : cells p ≤ width := by
  induction cs generalizing piece with
  | nil =>
    rw [chopFrom, List.mem_singleton] at mem
    rw [mem, cells_reverse]
    exact h
  | cons c cs ih =>
    have narrow := cellWidth_le_two c
    have single : cells [c] = cellWidth c := by rw [cells_cons, cells_nil, Nat.add_zero]
    have longer : cells (c :: piece) = cells piece + cellWidth c := by
      rw [cells_cons, Nat.add_comm]
    rw [chopFrom, ← single, single, ← longer] at mem
    split at mem
    · rcases List.mem_cons.1 mem with rfl | mem
      · rw [cells_reverse]
        exact h
      · rw [← single] at mem
        exact ih (by omega) mem
    · exact ih (by omega) mem

theorem chopFrom_ne_nil (used : Nat) (piece cs : List Char) : chopFrom width used piece cs ≠ [] := by
  induction cs generalizing used piece with
  | nil => simp [chopFrom]
  | cons c cs ih =>
    rw [chopFrom]
    split
    · simp
    · exact ih _ _

end Chopping

/-- A break behind what stands on a line ends it; at the start of a line there is none. -/
theorem mem_cutAt_break {width base start : Nat} {cur : List Char} (fits : Fits width cur)
    (behind : start = base + cur.length) {bs : List Nat} {rest p : List Char}
    (mem : p ∈ cutAt base (if start = 0 then bs else start :: bs) (cur ++ rest)) :
    Fits width p ∨ p ∈ cutAt start bs rest := by
  split at mem
  next first =>
    have empty : cur = [] := List.eq_nil_of_length_eq_zero (by omega)
    have front : base = start := by rw [behind, empty]; rfl
    rw [empty, front] at mem
    exact .inr mem
  next =>
    rw [cutAt_behind behind] at mem
    rcases List.mem_cons.1 mem with rfl | mem
    · exact .inl fits
    · exact .inr mem

/-- Breaks inside of a chopped word leave pieces that fit and, in front of what follows, the last part of
the word. -/
theorem fits_foldBreaks {width : Nat} (ps : List (List Char)) (some' : ps ≠ [])
    (narrow : ∀ p ∈ ps, cells p ≤ width) {base start : Nat} {cur : List Char} (fits : Fits width cur)
    (behind : start = base + cur.length) (bs : List Nat) (rest : List Char) :
    ∃ base' last, start + ps.flatten.length = base' + last.length ∧ cells last = (foldBreaks start ps).2 ∧
      last ∈ ps ∧ ∀ p ∈ cutAt base ((foldBreaks start ps).1 ++ bs) (cur ++ (ps.flatten ++ rest)),
        Fits width p ∨ p ∈ cutAt base' bs (last ++ rest) := by
  induction ps generalizing base start cur with
  | nil => exact absurd rfl some'
  | cons piece ps ih =>
    cases ps with
    | nil =>
      refine ⟨start, piece, by simp, rfl, List.mem_singleton_self _, fun p mem => ?_⟩
      rw [foldBreaks, List.flatten_singleton, apply_ite (· ++ bs)] at mem
      exact mem_cutAt_break fits behind mem
    | cons q ps =>
      have one : Fits width piece := fits_of_cells (narrow piece List.mem_cons_self)
      obtain ⟨base', last, length, used, inside, all⟩ := ih (by simp)
        (fun p mem => narrow p (List.mem_cons_of_mem _ mem)) one (rfl : start + piece.length = _)
      refine ⟨base', last, ?_, used, List.mem_cons_of_mem _ inside, fun p mem => ?_⟩
      · rw [← length, List.flatten_cons, List.length_append, Nat.add_assoc]
      · rw [foldBreaks, List.flatten_cons, List.append_assoc, apply_ite (· ++ bs)] at mem
        · exact (mem_cutAt_break fits behind mem).elim .inl (all p)
        · simp

/-- Every piece of a line fits. `cur` is what stands on the line the next word may go to. -/
theorem fits_cutAt {width : Nat} (wide : 2 ≤ width) (ws : List (List Char))
    (solid : ∀ w ∈ ws, trimEndBy isBlank w ≠ []) {base start : Nat} {cur : List Char}
    (fits : Fits width cur) (behind : start = base + cur.length) :
    ∀ p ∈ cutAt base (breaksFrom width .fold start (cells cur) ws) (cur ++ ws.flatten), Fits width p := by
  induction ws generalizing base start cur with
  | nil =>
    intro p mem
    rw [breaksFrom, cutAt, List.flatten_nil, List.append_nil, List.mem_singleton] at mem
    rw [mem]
    exact fits
  | cons w ws ih =>
    rw [List.forall_mem_cons] at solid
    intro p mem
    rw [breaksFrom, List.flatten_cons] at mem
    split at mem
    next room =>
      -- the word goes on the same line
      have longer : Fits width (cur ++ w) := by
        rw [Fits, trimEndBy_append cur solid.1, cells_append]
        exact room
      rw [← cells_append, ← List.append_assoc] at mem
      exact ih solid.2 longer (by rw [List.length_append, behind, Nat.add_assoc]) p mem
    next full =>
      split at mem
      next chopped =>
        have whole : (chop width w).flatten = w := flatten_chopFrom 0 [] w
        have narrow : ∀ q ∈ chop width w, cells q ≤ width := by
          intro q inside
          have start : cells [] ≤ width := Nat.zero_le width
          exact cells_le_of_mem_chopFrom wide start inside
        obtain ⟨base', last, length, used, inside, all⟩ := fits_foldBreaks (chop width w)
          (chopFrom_ne_nil 0 [] w) narrow fits behind
          (breaksFrom width .fold (start + w.length) (foldBreaks start (chop width w)).2 ws) ws.flatten
        rw [whole] at length all
        rcases all p mem with here | mem
        · exact here
        · rw [← used] at mem
          exact ih solid.2 (fits_of_cells (narrow last inside)) length p mem
      next =>
        have small : Fits width w := by rw [Fits]; omega
        split at mem
        next =>
          rw [cutAt_behind behind] at mem
          rcases List.mem_cons.1 mem with rfl | mem
          · exact fits
          · exact ih solid.2 small rfl p mem
        next nowhere =>
          -- at the start of a line there is room for every word that is not chopped
          have empty : cells cur = 0 := by
            by_cases first : start = 0
            · rw [List.eq_nil_of_length_eq_zero (show cur.length = 0 by omega), cells_nil]
            · omega
          omega

/-! ## Words -/

theorem wordsOf_cons {cs rest : List Char} {c : Char} (front : cs.dropWhile isBlank = c :: rest) :
    wordsOf cs =
      (cs.takeWhile isBlank ++ c :: (rest.takeWhile (fun d => !isBlank d) ++
        (rest.dropWhile fun d => !isBlank d).takeWhile isBlank)) ::
      wordsOf ((rest.dropWhile fun d => !isBlank d).dropWhile isBlank) := by
  rw [wordsOf]
  split
  next blank =>
    rw [front] at blank
    cases blank
  next _ _ same =>
    rw [front] at same
    cases same
    rfl

theorem wordsOf_of_blank {cs : List Char} (h : cs.dropWhile isBlank = []) : wordsOf cs = [] := by
  rw [wordsOf]
  split
  · rfl
  · next same =>
    rw [h] at same
    cases same

/-- The words of a line are the line, unless it is blank, and none of them is blank. -/
theorem wordsOf_spec (cs : List Char) : (∀ w ∈ wordsOf cs, trimEndBy isBlank w ≠ []) ∧
    ((wordsOf cs).flatten = cs ∨ wordsOf cs = [] ∧ ∀ c ∈ cs, isBlank c = true) := by
  induction h : cs.length using Nat.strong_induction_on generalizing cs with | _ n ih
  cases front : cs.dropWhile isBlank with
  | nil =>
    have none := wordsOf_of_blank front
    exact ⟨by simp [none], .inr ⟨none, List.dropWhile_eq_nil_iff.1 front⟩⟩
  | cons c rest =>
    rw [wordsOf_cons front]
    have visible : isBlank c = false := by
      have stop := List.head?_dropWhile_not isBlank cs
      rw [front] at stop
      exact stop
    have lead : cs.takeWhile isBlank ++ c :: rest = cs := by
      rw [← front, List.takeWhile_append_dropWhile]
    generalize hafter : rest.dropWhile (fun d => !isBlank d) = after
    have body : rest.takeWhile (fun d => !isBlank d) ++ after = rest := by
      rw [← hafter, List.takeWhile_append_dropWhile]
    have trail : after.takeWhile isBlank ++ after.dropWhile isBlank = after :=
      List.takeWhile_append_dropWhile
    have shorter : (after.dropWhile isBlank).length < n := by
      have one := congrArg List.length lead
      have two := congrArg List.length body
      have three := congrArg List.length trail
      simp only [List.length_append, List.length_cons] at one two three
      omega
    obtain ⟨solid, whole⟩ := ih _ shorter (after.dropWhile isBlank) rfl
    -- what follows a word starts with a character of the next one
    have joined : (wordsOf (after.dropWhile isBlank)).flatten = after.dropWhile isBlank := by
      rcases whole with whole | ⟨none, blank⟩
      · exact whole
      · have stop := List.head?_dropWhile_not isBlank after
        cases front : after.dropWhile isBlank with
        | nil => rw [wordsOf]; rfl
        | cons d ds =>
          rw [front] at stop blank
          have hidden : isBlank d = false := stop
          rw [blank d List.mem_cons_self] at hidden
          cases hidden
    refine ⟨List.forall_mem_cons.2 ⟨?_, solid⟩, .inl ?_⟩
    · intro gone
      have all := trimEndBy_eq_nil_iff.1 gone c (by simp)
      rw [visible] at all
      cases all
    · rw [List.flatten_cons, joined]
      simp only [List.append_assoc, List.cons_append, trail, body, lead]

/-! ## Lines -/

theorem expandTabs_of_notMem {start : Nat} {cs : List Char} (h : '\t' ∉ cs) : expandTabs start cs = cs := by
  induction cs generalizing start with
  | nil => rfl
  | cons c cs ih =>
    simp only [List.mem_cons, not_or] at h
    rw [expandTabs, if_neg (Ne.symm h.1), ih h.2]

def pieces (width : Nat) (line : List Char) : List (List Char) :=
  cutAt 0 (breaksFrom width .fold 0 0 (wordsOf line)) line

theorem fits_pieces {width : Nat} (wide : 2 ≤ width) (line : List Char) :
    ∀ p ∈ pieces width line, Fits width p := by
  obtain ⟨solid, whole | ⟨none, blank⟩⟩ := wordsOf_spec line
  · have start : Fits width [] := Nat.zero_le width
    have all := fits_cutAt wide (wordsOf line) solid start (rfl : 0 = 0 + ([] : List Char).length)
    rw [whole] at all
    exact all
  · intro p mem
    rw [pieces, none, breaksFrom, cutAt, List.mem_singleton] at mem
    rw [mem, Fits, trimEndBy_eq_nil_iff.2 blank]
    exact Nat.zero_le width

/-- What is dropped for the width is white space. -/
theorem exists_dropExcess_append (width : Nat) (cs : List Char) :
    ∃ tail, cs = dropExcess width cs ++ tail ∧ ∀ c ∈ tail, isBlank c = true := by
  obtain ⟨tail, whole, blank⟩ := exists_trimEndBy_append isBlank cs
  have kept : (trimEndBy isBlank cs).length + (cs.reverse.takeWhile isBlank).length = cs.length := by
    have both := congrArg List.length (List.takeWhile_append_dropWhile (p := isBlank) (l := cs.reverse))
    rw [List.length_append, List.length_reverse] at both
    rw [trimEndBy, List.length_reverse]
    omega
  refine ⟨cs.drop (cs.length - min (cs.reverse.takeWhile isBlank).length (cs.length - width)),
    (List.take_append_drop _ cs).symm, ?_⟩
  intro c mem
  generalize hi : cs.length - min (cs.reverse.takeWhile isBlank).length (cs.length - width) = i at mem
  have behind : (trimEndBy isBlank cs).length ≤ i := by omega
  rw [whole, List.drop_append, List.drop_eq_nil_of_le behind, List.nil_append] at mem
  exact blank c (List.mem_of_mem_drop mem)

theorem trimEndBy_dropExcess (width : Nat) (cs : List Char) :
    trimEndBy isBlank (dropExcess width cs) = trimEndBy isBlank cs := by
  obtain ⟨tail, whole, blank⟩ := exists_dropExcess_append width cs
  rw [← trimEndBy_append_of_all (dropExcess width cs) blank, ← whole]

/-! ### Shortening -/

theorem cells_resize (n : Nat) (cs : List Char) : cells (resize n cs) = n := by
  induction cs generalizing n with
  | nil => exact cells_spaces n
  | cons c cs ih =>
    rw [resize]
    split
    · rw [cells_cons, ih]
      omega
    · exact cells_spaces n

theorem resize_append {n : Nat} {a : List Char} (h : cells a ≤ n) (b : List Char) :
    resize n (a ++ b) = a ++ resize (n - cells a) b := by
  induction a generalizing n with
  | nil => rfl
  | cons c a ih =>
    rw [cells_cons] at h ⊢
    rw [List.cons_append, resize, if_pos (by omega), ih (by omega), List.cons_append, Nat.sub_sub]

theorem blank_of_mem_spaces {n : Nat} {c : Char} (h : c ∈ spaces n) : isBlank c = true := by
  rw [List.eq_of_mem_replicate h]
  decide

theorem blank_resize {n : Nat} {cs : List Char} (h : ∀ c ∈ cs, isBlank c = true) :
    ∀ c ∈ resize n cs, isBlank c = true := by
  induction cs generalizing n with
  | nil => exact fun c => blank_of_mem_spaces
  | cons d cs ih =>
    rw [List.forall_mem_cons] at h
    rw [resize]
    split
    · exact List.forall_mem_cons.2 ⟨h.1, ih h.2⟩
    · exact fun c => blank_of_mem_spaces

/-- A line that fits is shortened by white space only. -/
theorem shorten_of_fits {width : Nat} {cs : List Char} (fits : Fits width cs) :
    trimEndBy isBlank (shorten width .fold cs) = trimEndBy isBlank cs ∧
      cells (shorten width .fold cs) ≤ width := by
  rw [shorten]
  split
  next room => exact ⟨rfl, room⟩
  next =>
    refine ⟨?_, Nat.le_of_eq (cells_resize width cs)⟩
    obtain ⟨tail, whole, blank⟩ := exists_trimEndBy_append isBlank cs
    have cut := resize_append fits tail
    rw [← whole] at cut
    rw [cut, trimEndBy_append_of_all _ (blank_resize blank)]
    exact trimEndBy_of_last fun c => last_trimEndBy isBlank cs

/-! ## What is shown -/

/-- A line is broken into pieces, and each piece is shown on a line of its own as it is, up to white
space at its end. A line for which there is room is shown unchanged. -/
structure Broken (width : Nat) (line : List Char) (shown : List (List Char)) : Prop where
  pieces : ∃ pieces : List (List Char), pieces.flatten = line ∧
    shown.map (trimEndBy isBlank) = pieces.map (trimEndBy isBlank)
  fits : ∀ l ∈ shown, cells l ≤ width
  whole : cells line ≤ width → line.length ≤ width → shown = [line]

theorem breaksFrom_of_room {width start used : Nat} {ws : List (List Char)}
    (room : used + cells ws.flatten ≤ width) : breaksFrom width .fold start used ws = [] := by
  induction ws generalizing start used with
  | nil => rfl
  | cons w ws ih =>
    have need := cells_trimEndBy_le isBlank w
    rw [List.flatten_cons, cells_append] at room
    rw [breaksFrom]
    simp only
    rw [if_pos (by omega)]
    exact ih (by omega)

theorem pieces_of_room {width : Nat} {line : List Char} (room : cells line ≤ width) :
    pieces width line = [line] := by
  have none : breaksFrom width .fold 0 0 (wordsOf line) = [] := by
    obtain ⟨-, whole | ⟨none, -⟩⟩ := wordsOf_spec line
    · apply breaksFrom_of_room
      rw [whole]
      omega
    · rw [none]
      rfl
  rw [pieces, none, cutAt]

theorem broken_wrapLine {width : Nat} (wide : 2 ≤ width) {line : List Char} (noTab : '\t' ∉ line) :
    Broken width line (wrapLine width .fold .natural line) := by
  have shown : wrapLine width .fold .natural line =
      (pieces width line).map fun p => shorten width .fold (dropExcess width p) := by
    rw [wrapLine]
    simp only [expandTabs_of_notMem noTab, align, pieces]
  have each : ∀ p ∈ pieces width line,
      trimEndBy isBlank (shorten width .fold (dropExcess width p)) = trimEndBy isBlank p ∧
        cells (shorten width .fold (dropExcess width p)) ≤ width := by
    intro p mem
    have fits : Fits width (dropExcess width p) := by
      rw [Fits, trimEndBy_dropExcess]
      exact fits_pieces wide line p mem
    rw [← trimEndBy_dropExcess width p]
    exact shorten_of_fits fits
  refine ⟨⟨pieces width line, flatten_cutAt _ _ _, ?_⟩, ?_, fun room short => ?_⟩
  · rw [shown, List.map_map]
    exact List.map_congr_left fun p mem => (each p mem).1
  · intro l mem
    rw [shown] at mem
    obtain ⟨p, inside, rfl⟩ := List.mem_map.1 mem
    exact (each p inside).2
  · have kept : dropExcess width line = line := by
      rw [dropExcess, Nat.sub_eq_zero_of_le short, Nat.min_zero, Nat.sub_zero, List.take_length]
    rw [shown, pieces_of_room room, List.map_singleton, kept, shorten, if_pos room]

/-- What is shown of each line of a text. -/
theorem broken_wrap {width : Nat} (wide : 2 ≤ width) {cs : List Char} (noTab : '\t' ∉ cs) :
    List.Forall₂ (Broken width) (splitChars '\n' cs)
      ((splitChars '\n' cs).map (wrapLine width .fold .natural)) := by
  rw [List.forall₂_map_right_iff, List.forall₂_same]
  intro line mem
  apply broken_wrapLine wide
  intro tab
  exact noTab (mem_of_mem_splitChars mem tab)

end DomainAtlas.Console
