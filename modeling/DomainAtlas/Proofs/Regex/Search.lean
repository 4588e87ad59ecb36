import DomainAtlas.Proofs.Text.Parts
import DomainAtlas.Regex.Matcher

/-!
# A marker and a run of characters

Searching for an expression such as `@tag ([a-z]+)`: a marker, which is taken literally, and behind it a
group around one or more characters of a set. The matcher tries to match at each place from left to
right. At one place it goes through the marker character by character and then takes the longest run,
since nothing follows that could make it go back.

Each step on one way uses up fuel, so the lemmas ask for enough of it; a search supplies more than the
length of the text and of the expression.

Results:
* `runAll_literal`: what stands at the front of the expression is what has to stand at the place.
* `repeatRun_greedy`: a greedy repetition takes the longest run if what follows succeeds there.
* `eq_markedRun`: which expressions these are.
* `search_markedRun`: a search finds the first place of which the marker and a run follow.
* `firstRun?_eq_some_iff`: which place that is.
-/
namespace DomainAtlas.Regex

/-! ## One place -/

/-- At a place, a literal at the front of the terms has to stand there. By induction on the literal. -/
theorem runAll_literal {fuel : Nat} (pos : 1 ≤ fuel) (literal : List Char) (ts : List Term) (k : Next)
    (before after : List Char) (groups : Groups) :
    runAll (literal.length + fuel) (literal.map (Term.char · false) ++ ts) k ⟨⟨before, after⟩, groups⟩ =
      (Text.dropStart? literal after).bind fun rest =>
        runAll fuel ts k ⟨⟨literal.reverse ++ before, rest⟩, groups⟩ := by
  induction literal generalizing before after with
  | nil => simp [Text.dropStart?]
  | cons c literal ih =>
    obtain ⟨more, rfl⟩ := Nat.exists_eq_add_of_le' pos
    have step : (c :: literal).length + (more + 1) = literal.length + (more + 1) + 1 := by
      simp only [List.length_cons]
      omega
    rw [step, List.map_cons, List.cons_append, runAll]
    have one : literal.length + (more + 1) = literal.length + more + 1 := by omega
    rw [one, Term.run, ← one]
    cases after with
    | nil => simp [oneChar, Text.dropStart?]
    | cons d after =>
      simp only [oneChar, sameChar, Text.dropStart?]
      by_cases same : c = d
      · simp [same, ih]
      · simp [same]

section Runs

variable {negated folds : Bool} {items : List SetItem}

theorem runAll_set (fuel : Nat) (k : Next) :
    runAll (fuel + 2) [.set negated items folds] k = oneChar (setHas negated items folds) k := by
  funext r
  rw [runAll, Term.run]
  rfl

/-- A greedy repetition that has matched often enough goes on if it can. -/
theorem repeatRun_again {least count : Nat} (often : least ≤ count) {last : Option Nat} {r : Reached}
    (moved : last ≠ some r.place.offset) (fuel : Nat) (k : Next) :
    repeatRun (fuel + 3) least none true [.set negated items folds] last count k r =
      (oneChar (setHas negated items folds) (repeatRun (fuel + 2) least none true
        [.set negated items folds] (some r.place.offset) (count + 1) k) r).orElse fun _ => k r := by
  rw [repeatRun]
  dsimp only
  rw [if_neg (by omega), if_pos rfl, runAll_set]
  simp [moved]

/-- Where what follows always succeeds, a greedy repetition that has matched often enough takes the
longest run. By induction on what follows the place. -/
theorem repeatRun_greedy {k : Next} (succeeds : ∀ e, (k e).isSome = true) {least : Nat}
    (after before : List Char) (groups : Groups) {fuel count : Nat} {last : Option Nat}
    (enough : after.length + 3 ≤ fuel) (often : least ≤ count) (moved : last ≠ some before.length) :
    repeatRun fuel least none true [.set negated items folds] last count k ⟨⟨before, after⟩, groups⟩ =
      k ⟨⟨(after.takeWhile (setHas negated items folds)).reverse ++ before,
        after.dropWhile (setHas negated items folds)⟩, groups⟩ := by
  induction after generalizing before fuel count last with
  | nil =>
    obtain ⟨more, rfl⟩ := Nat.exists_eq_add_of_le' enough
    rw [List.length_nil, Nat.zero_add, repeatRun_again often moved]
    simp [oneChar]
  | cons c after ih =>
    obtain ⟨more, rfl⟩ := Nat.exists_eq_add_of_le' enough
    rw [← Nat.add_assoc, repeatRun_again often moved]
    by_cases here : setHas negated items folds c = true
    · have found := succeeds ⟨⟨(after.takeWhile (setHas negated items folds)).reverse ++ c :: before,
        after.dropWhile (setHas negated items folds)⟩, groups⟩
      obtain ⟨reached, found⟩ := Option.isSome_iff_exists.1 found
      simp only [oneChar, here, if_true, Place.offset]
      rw [ih _ (by simp only [List.length_cons]; omega) (by omega) (by simp), found]
      simp [here, found]
    · simp [oneChar, here]

/-- One or more characters of a set, where what follows always succeeds. -/
theorem repeatRun_once {k : Next} (succeeds : ∀ e, (k e).isSome = true) (after before : List Char)
    (groups : Groups) {fuel : Nat} (enough : after.length + 4 ≤ fuel) :
    repeatRun fuel 1 none true [.set negated items folds] none 0 k ⟨⟨before, after⟩, groups⟩ =
      if after.takeWhile (setHas negated items folds) = [] then none
      else k ⟨⟨(after.takeWhile (setHas negated items folds)).reverse ++ before,
        after.dropWhile (setHas negated items folds)⟩, groups⟩ := by
  obtain ⟨more, rfl⟩ := Nat.exists_eq_add_of_le' enough
  rw [show more + (after.length + 4) = more + after.length + 1 + 2 + 1 by omega, repeatRun]
  dsimp only
  rw [if_pos Nat.zero_lt_one, runAll_set, oneChar]
  cases after with
  | nil => rfl
  | cons c after =>
    by_cases here : setHas negated items folds c = true
    · dsimp only
      rw [if_pos here, repeatRun_greedy succeeds _ _ _ (by simp only [List.length_cons]; omega)
        (Nat.le_refl 1) (by simp)]
      simp [here]
    · simp [here]

/-- A group around one or more characters of a set, with nothing behind it, takes the longest run. -/
theorem runAll_run (index : Nat) {fuel : Nat} (before after : List Char)
    (enough : after.length + 8 ≤ fuel) :
    runAll fuel [.group (some index) [.repeated 1 none .greedy [.set negated items folds]]] some
        ⟨⟨before, after⟩, []⟩ =
      let run := after.takeWhile (setHas negated items folds)
      if run = [] then none
      else some ⟨⟨run.reverse ++ before, after.dropWhile (setHas negated items folds)⟩, [(index, run)]⟩ := by
  obtain ⟨more, rfl⟩ := Nat.exists_eq_add_of_le' enough
  rw [show more + (after.length + 8) = more + after.length + 4 + 1 + 1 + 1 + 1 by omega]
  simp only [runAll, Term.run]
  rw [repeatRun_once (fun e => rfl) _ _ _ (by omega)]
  simp [Place.offset]

end Runs

/-! ## All places -/

/-- The longest run of admitted characters behind the marker, if both stand at the front of a text. -/
def runAt? (marker : List Char) (admits : Char → Bool) (cs : List Char) : Option (List Char) :=
  (Text.dropStart? marker cs).bind fun rest =>
    if rest.takeWhile admits = [] then none else some (rest.takeWhile admits)

def firstRun? (marker : List Char) (admits : Char → Bool) : List Char → Option (List Char)
  | [] => runAt? marker admits []
  | c :: cs => (runAt? marker admits (c :: cs)).or (firstRun? marker admits cs)

/-- The expression for a marker and a group around one or more characters of a set. -/
def markedRun (marker : List Char) (items : List SetItem) : Pattern where
  terms := marker.map (.char · false) ++
    [.group (some 1) [.repeated 1 none .greedy [.set false items false]]]
  groups := 1

/-- The marker and the set, if some terms are those of such an expression. -/
def runOf? : List Term → Option (List Char × List SetItem)
  | [.group (some 1) [.repeated 1 none .greedy [.set false items false]]] => some ([], items)
  | .char c false :: ts => (runOf? ts).map fun found => (c :: found.1, found.2)
  | _ => none

/-- The terms are the only ones that are read this way. By induction on the marker. -/
theorem eq_markedRun {p : Pattern} {marker : List Char} {items : List SetItem} (groups : p.groups = 1)
    (read : runOf? p.terms = some (marker, items)) : p = markedRun marker items := by
  obtain ⟨ts, n⟩ := p
  cases groups
  rw [markedRun, Pattern.mk.injEq]
  refine ⟨?_, rfl⟩
  dsimp only at read
  induction ts using runOf?.induct generalizing marker with
  | case1 =>
    rw [runOf?] at read
    cases read
    rfl
  | case2 c ts ih =>
    rw [runOf?, Option.map_eq_some_iff] at read
    obtain ⟨found, rest, e⟩ := read
    cases e
    rw [ih rest]
    rfl
  | case3 ts notRun notChar =>
    rw [runOf?] at read
    · cases read
    · exact notRun
    · exact notChar

section Search

variable (marker : List Char) (items : List SetItem)

theorem runAll_markedRun {fuel : Nat} (before after : List Char)
    (enough : marker.length + after.length + 8 ≤ fuel) :
    (runAll fuel (markedRun marker items).terms some ⟨⟨before, after⟩, []⟩).map (·.groups.lookup 1) =
      (runAt? marker (setHas false items false) after).map some := by
  obtain ⟨more, rfl⟩ := Nat.exists_eq_add_of_le' enough
  rw [show more + (marker.length + after.length + 8) = marker.length + (more + after.length + 8) by omega,
    markedRun, runAll_literal (by omega), runAt?]
  cases dropped : Text.dropStart? marker after with
  | none => rfl
  | some rest =>
    have whole := Text.dropStart?_eq_some_iff.1 dropped
    have shorter : rest.length ≤ after.length := by rw [whole]; simp
    dsimp only [Option.bind_some]
    rw [runAll_run 1 _ _ (by omega)]
    dsimp only
    split <;> simp

theorem searchFrom_markedRun {fuel : Nat} (before after : List Char)
    (enough : marker.length + after.length + 8 ≤ fuel) :
    (searchFrom (markedRun marker items) fuel before after).map (·.groups.lookup 1) =
      (firstRun? marker (setHas false items false) after).map some := by
  induction after generalizing before with
  | nil => exact runAll_markedRun marker items before [] enough
  | cons c after ih =>
    have here := runAll_markedRun marker items before (c :: after) enough
    have later := ih (c :: before) (by simp only [List.length_cons] at enough; omega)
    rw [searchFrom, firstRun?]
    cases found : runAll fuel (markedRun marker items).terms some ⟨⟨before, c :: after⟩, []⟩ with
    | none =>
      rw [found] at here
      have none : runAt? marker (setHas false items false) (c :: after) = none := by
        simpa using here.symm
      rw [none, Option.none_or, later]
    | some reached =>
      rw [found] at here
      obtain ⟨run, at'⟩ : ∃ run, runAt? marker (setHas false items false) (c :: after) = some run := by
        cases at' : runAt? marker (setHas false items false) (c :: after) with
        | none => simp [at'] at here
        | some run => exact ⟨run, rfl⟩
      rw [at', Option.some_or, ← at', ← here]

theorem length_le_weights (ts : List Term) :
    marker.length ≤ weights (marker.map (.char · false) ++ ts) := by
  induction marker with
  | nil => simp
  | cons c marker ih =>
    rw [List.map_cons, List.cons_append, weights, Term.weight, List.length_cons]
    · omega
    all_goals simp

/-- A search finds the run at the first place that has one. -/
theorem search_markedRun (text : String) : (markedRun marker items).search text =
    (firstRun? marker (setHas false items false) text.toList).map fun run => some (String.ofList run) := by
  have enough : marker.length + text.toList.length + 8 ≤
      (text.toList.length + 2) * (weights (markedRun marker items).terms + 4) + 16 := by
    have short : marker.length ≤ weights (markedRun marker items).terms := length_le_weights marker _
    have product := Nat.le_mul_of_pos_right text.toList.length
      (show 0 < weights (markedRun marker items).terms + 4 by omega)
    rw [Nat.add_mul]
    omega
  have found := searchFrom_markedRun marker items [] text.toList enough
  have texts := congrArg (Option.map (Option.map String.ofList)) found
  simpa [Pattern.search, Option.map_map, Function.comp_def] using texts

end Search

/-! ## The leftmost run -/

section Leftmost

variable {marker : List Char} {admits : Char → Bool}

/-- At the front of a text stand the marker and a run of admitted characters, and the run ends there. -/
def Follows (marker : List Char) (admits : Char → Bool) (text run : List Char) : Prop :=
  ∃ rest, text = marker ++ run ++ rest ∧ run ≠ [] ∧ (∀ c ∈ run, admits c = true) ∧
    ∀ c, rest.head? = some c → admits c = false

/-- The run behind the leftmost marker that is followed by an admitted character. -/
def LeftmostRun (marker : List Char) (admits : Char → Bool) (text run : List Char) : Prop :=
  ∃ before after, text = before ++ after ∧ Follows marker admits after run ∧
    ∀ before' after', text = before' ++ after' → before'.length < before.length →
      ∀ other, ¬ Follows marker admits after' other

theorem runAt?_eq_some_iff {text run : List Char} :
    runAt? marker admits text = some run ↔ Follows marker admits text run := by
  rw [runAt?, Option.bind_eq_some_iff]
  constructor
  · intro ⟨rest, dropped, taken⟩
    split at taken
    · cases taken
    · next ne =>
      cases taken
      refine ⟨rest.dropWhile admits, ?_, ne, List.all_eq_true.1 List.all_takeWhile, fun c first => ?_⟩
      · rw [List.append_assoc, List.takeWhile_append_dropWhile]
        exact Text.dropStart?_eq_some_iff.1 dropped
      · have ends := List.head?_dropWhile_not admits rest
        rw [first] at ends
        simpa using ends
  · intro ⟨rest, whole, ne, admitted, ends⟩
    have stop : rest.takeWhile admits = [] := by
      cases rest with
      | nil => rfl
      | cons c rest => simp [ends c rfl]
    have taken : (run ++ rest).takeWhile admits = run := by
      rw [List.takeWhile_append_of_pos admitted, stop, List.append_nil]
    refine ⟨run ++ rest, Text.dropStart?_eq_some_iff.2 (by rw [whole, List.append_assoc]), ?_⟩
    rw [taken, if_neg ne]

theorem leftmostRun_nil {run : List Char} :
    LeftmostRun marker admits [] run ↔ Follows marker admits [] run := by
  constructor
  · intro ⟨before, after, whole, here, _⟩
    rwa [← (List.append_eq_nil_iff.1 whole.symm).2]
  · intro here
    exact ⟨[], [], rfl, here, fun before' after' _ less => absurd less (Nat.not_lt_zero _)⟩

/-- The leftmost run is at the front, or there is none at the front and it is the leftmost behind. -/
theorem leftmostRun_cons {c : Char} {text run : List Char} :
    LeftmostRun marker admits (c :: text) run ↔ Follows marker admits (c :: text) run ∨
      (∀ other, ¬ Follows marker admits (c :: text) other) ∧ LeftmostRun marker admits text run := by
  constructor
  · intro ⟨before, after, whole, here, least⟩
    cases before with
    | nil =>
      left
      rwa [whole]
    | cons d before =>
      right
      refine ⟨least [] (c :: text) rfl (Nat.zero_lt_succ _), before, after, (List.cons.inj whole).2, here, ?_⟩
      intro before' after' split less
      exact least (c :: before') after' (by rw [split]; rfl) (Nat.succ_lt_succ less)
  · rintro (here | ⟨free, before, after, whole, here, least⟩)
    · exact ⟨[], c :: text, rfl, here, fun before' after' _ less => absurd less (Nat.not_lt_zero _)⟩
    · refine ⟨c :: before, after, by rw [whole]; rfl, here, fun before' after' split less => ?_⟩
      cases before' with
      | nil =>
        rw [List.nil_append] at split
        exact split ▸ free
      | cons d before' => exact least before' after' (List.cons.inj split).2 (Nat.lt_of_succ_lt_succ less)

theorem firstRun?_eq_some_iff {text run : List Char} :
    firstRun? marker admits text = some run ↔ LeftmostRun marker admits text run := by
  induction text with
  | nil => rw [firstRun?, runAt?_eq_some_iff, leftmostRun_nil]
  | cons c text ih =>
    rw [firstRun?, leftmostRun_cons, ← ih, ← runAt?_eq_some_iff]
    cases here : runAt? marker admits (c :: text) with
    | none =>
      have free : ∀ other, ¬ Follows marker admits (c :: text) other := by
        intro other follows
        rw [runAt?_eq_some_iff.2 follows] at here
        cases here
      simp [free]
    | some found =>
      have taken : ¬ ∀ other, ¬ Follows marker admits (c :: text) other :=
        fun free => free found (runAt?_eq_some_iff.1 here)
      simp [taken]

end Leftmost

end DomainAtlas.Regex
