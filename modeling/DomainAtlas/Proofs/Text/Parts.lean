import DomainAtlas.Text.Basic
import Mathlib.Data.List.TakeWhile

/-!
# Cutting and joining texts

Laws of the operations on lists of characters that paths and patterns are taken apart with.

Results:
* `splitChars_append`, `splitChars_intercalate`: cutting at a separator undoes joining with it.
* `dropStart?_eq_some_iff`: dropping a start succeeds exactly on what begins with it.
* `occursIn_iff`: the search for a text finds exactly the texts inside another.
* `replace_of_notMem`: a character that does not occur cannot be replaced.
-/
namespace DomainAtlas.Text

/-! ## Parts -/

section Parts

variable (sep : Char)

theorem splitChars_ne_nil (cs : List Char) : splitChars sep cs ≠ [] := by
  cases cs with
  | nil => simp [splitChars]
  | cons c cs =>
    rw [splitChars]
    split
    · simp
    · split <;> simp

/-- The first character of a part joins the first part behind it. -/
theorem splitChars_cons {sep c : Char} (h : c ≠ sep) {cs part : List Char} {parts : List (List Char)}
    (hcs : splitChars sep cs = part :: parts) : splitChars sep (c :: cs) = (c :: part) :: parts := by
  rw [splitChars, if_neg h, hcs]

theorem splitChars_append (a b : List Char) :
    splitChars sep (a ++ sep :: b) = splitChars sep a ++ splitChars sep b := by
  induction a with
  | nil => simp [splitChars]
  | cons c a ih =>
    by_cases h : c = sep
    · simp [splitChars, h, ih]
    · obtain ⟨part, parts, ha⟩ := List.exists_cons_of_ne_nil (splitChars_ne_nil sep a)
      have whole : splitChars sep (a ++ sep :: b) = part :: (parts ++ splitChars sep b) := by
        rw [ih, ha, List.cons_append]
      rw [List.cons_append, splitChars_cons h ha, splitChars_cons h whole]
      rfl

variable {sep}

theorem splitChars_of_notMem {cs : List Char} (h : sep ∉ cs) : splitChars sep cs = [cs] := by
  induction cs with
  | nil => rfl
  | cons c cs ih =>
    simp only [List.mem_cons, not_or] at h
    exact splitChars_cons (Ne.symm h.1) (ih h.2)

theorem eq_nil_of_splitChars {cs : List Char} (h : splitChars sep cs = [[]]) : cs = [] := by
  cases cs with
  | nil => rfl
  | cons c cs =>
    obtain ⟨part, parts, hcs⟩ := List.exists_cons_of_ne_nil (splitChars_ne_nil sep cs)
    by_cases hc : c = sep
    · rw [splitChars, if_pos hc, hcs] at h
      cases h
    · rw [splitChars_cons hc hcs] at h
      cases h

/-- Every other character is in some part. -/
theorem exists_mem_splitChars (sep : Char) {cs : List Char} {c : Char} (h : c ∈ cs) (hc : c ≠ sep) :
    ∃ part ∈ splitChars sep cs, c ∈ part := by
  induction cs with
  | nil => cases h
  | cons d cs ih =>
    by_cases hd : d = sep
    · rw [splitChars, if_pos hd]
      have tail := (List.mem_cons.1 h).resolve_left fun e => hc (e.trans hd)
      obtain ⟨part, hp, hm⟩ := ih tail
      exact ⟨part, List.mem_cons_of_mem _ hp, hm⟩
    · obtain ⟨p, ps, hcs⟩ := List.exists_cons_of_ne_nil (splitChars_ne_nil sep cs)
      rw [splitChars_cons hd hcs]
      rw [hcs] at ih
      rcases List.mem_cons.1 h with rfl | h
      · exact ⟨_, List.mem_cons_self, List.mem_cons_self⟩
      · obtain ⟨part, hp, hm⟩ := ih h
        rcases List.mem_cons.1 hp with rfl | hp
        · exact ⟨_, List.mem_cons_self, List.mem_cons_of_mem _ hm⟩
        · exact ⟨part, List.mem_cons_of_mem _ hp, hm⟩

/-- The characters of a part come from the text. -/
theorem mem_of_mem_splitChars {sep : Char} {cs part : List Char} (hp : part ∈ splitChars sep cs)
    {c : Char} (h : c ∈ part) : c ∈ cs := by
  induction cs generalizing part with
  | nil =>
    rw [splitChars, List.mem_singleton] at hp
    rw [hp] at h
    cases h
  | cons d cs ih =>
    obtain ⟨first, rest, hcs⟩ := List.exists_cons_of_ne_nil (splitChars_ne_nil sep cs)
    have inside : ∀ other ∈ first :: rest, c ∈ other → c ∈ cs := by
      rw [← hcs]
      exact fun other => ih
    by_cases hd : d = sep
    · rw [splitChars, if_pos hd, hcs, List.mem_cons] at hp
      rcases hp with rfl | hp
      · cases h
      · exact List.mem_cons_of_mem d (inside part hp h)
    · rw [splitChars_cons hd hcs, List.mem_cons] at hp
      rcases hp with rfl | hp
      · exact List.mem_cons.2 ((List.mem_cons.1 h).imp_right (inside first List.mem_cons_self))
      · exact List.mem_cons_of_mem d (inside part (List.mem_cons_of_mem first hp) h)

/-- No part contains the separator. -/
theorem notMem_of_mem_splitChars {sep : Char} {cs part : List Char} (hp : part ∈ splitChars sep cs) :
    sep ∉ part := by
  induction cs generalizing part with
  | nil =>
    obtain rfl : part = [] := List.mem_singleton.1 hp
    exact List.not_mem_nil
  | cons d cs ih =>
    obtain ⟨first, rest, hcs⟩ := List.exists_cons_of_ne_nil (splitChars_ne_nil sep cs)
    rw [hcs] at ih
    by_cases hd : d = sep
    · rw [splitChars, if_pos hd, hcs, List.mem_cons] at hp
      rcases hp with rfl | hp
      · exact List.not_mem_nil
      · exact ih hp
    · rw [splitChars_cons hd hcs, List.mem_cons] at hp
      rcases hp with rfl | hp
      · exact List.not_mem_cons_of_ne_of_not_mem (Ne.symm hd) (ih List.mem_cons_self)
      · exact ih (List.mem_cons_of_mem first hp)

theorem splitChars_intercalate {parts : List (List Char)} (ne : parts ≠ [])
    (h : ∀ part ∈ parts, sep ∉ part) : splitChars sep ([sep].intercalate parts) = parts := by
  induction parts with
  | nil => exact absurd rfl ne
  | cons part parts ih =>
    have first := splitChars_of_notMem (h part List.mem_cons_self)
    cases parts with
    | nil => simpa [List.intercalate] using first
    | cons next parts =>
      have rest := ih (by simp) fun p hp => h p (List.mem_cons_of_mem _ hp)
      rw [List.intercalate_cons_cons, List.append_assoc, List.singleton_append, splitChars_append,
        first, rest]
      rfl

end Parts

/-! ## Starts and ends -/

theorem dropStart?_eq_some_iff {start cs rest : List Char} :
    dropStart? start cs = some rest ↔ cs = start ++ rest := by
  induction start generalizing cs with
  | nil => simp [dropStart?, eq_comm]
  | cons p ps ih =>
    cases cs with
    | nil => simp [dropStart?]
    | cons c cs =>
      rw [dropStart?]
      split
      · next h => simp [ih, h]
      · next h => simp [Ne.symm h]

theorem dropStart?_append (start rest : List Char) : dropStart? start (start ++ rest) = some rest :=
  dropStart?_eq_some_iff.2 rfl

theorem trimEndBy_of_last {p : Char → Bool} {cs : List Char}
    (h : ∀ c, cs.getLast? = some c → p c = false) : trimEndBy p cs = cs := by
  have kept : cs.reverse.dropWhile p = cs.reverse := by
    cases hr : cs.reverse with
    | nil => rfl
    | cons c rest =>
      have last : cs.getLast? = some c := by rw [List.getLast?_eq_head?_reverse, hr]; rfl
      rw [List.dropWhile_cons, h c last]
      rfl
  rw [trimEndBy, kept, List.reverse_reverse]

/-- What is dropped at the end satisfies the test. -/
theorem exists_trimEndBy_append (p : Char → Bool) (cs : List Char) :
    ∃ tail, cs = trimEndBy p cs ++ tail ∧ ∀ c ∈ tail, p c = true := by
  refine ⟨(cs.reverse.takeWhile p).reverse, ?_, ?_⟩
  · rw [trimEndBy, ← List.reverse_append, List.takeWhile_append_dropWhile, List.reverse_reverse]
  · intro c hc
    exact List.all_eq_true.1 List.all_takeWhile c (List.mem_reverse.1 hc)

/-- The last character that is kept fails the test. -/
theorem last_trimEndBy (p : Char → Bool) (cs : List Char) {c : Char}
    (h : (trimEndBy p cs).getLast? = some c) : p c = false := by
  rw [trimEndBy, List.getLast?_reverse] at h
  have := List.head?_dropWhile_not p cs.reverse
  rw [h] at this
  simpa using this

theorem trimBy_subset (p : Char → Bool) (cs : List Char) : trimBy p cs ⊆ cs := by
  intro c mem
  unfold trimBy at mem
  have inner := (List.dropWhile_sublist p).subset (List.mem_reverse.1 mem)
  exact (List.dropWhile_sublist p).subset (List.mem_reverse.1 inner)

theorem last_trimBy {p : Char → Bool} {cs : List Char} {c : Char}
    (h : (trimBy p cs).getLast? = some c) : p c = false :=
  last_trimEndBy p (cs.dropWhile p) h

theorem trimEndBy_eq_nil_iff {p : Char → Bool} {cs : List Char} :
    trimEndBy p cs = [] ↔ ∀ c ∈ cs, p c = true := by
  rw [trimEndBy, List.reverse_eq_nil_iff, List.dropWhile_eq_nil_iff]
  simp only [List.mem_reverse]

/-- More behind a text, all of which is dropped. -/
theorem trimEndBy_append_of_all {p : Char → Bool} (cs : List Char) {tail : List Char}
    (h : ∀ c ∈ tail, p c = true) : trimEndBy p (cs ++ tail) = trimEndBy p cs := by
  have gone : tail.reverse.dropWhile p = [] :=
    List.dropWhile_eq_nil_iff.2 fun c mem => h c (List.mem_reverse.1 mem)
  rw [trimEndBy, List.reverse_append, List.dropWhile_append, gone]
  rfl

/-- More before a text of which something is kept. -/
theorem trimEndBy_append {p : Char → Bool} (cs : List Char) {tail : List Char}
    (h : trimEndBy p tail ≠ []) : trimEndBy p (cs ++ tail) = cs ++ trimEndBy p tail := by
  have kept : ¬ (tail.reverse.dropWhile p).isEmpty = true := by
    rw [List.isEmpty_iff]
    intro none
    exact h (by rw [trimEndBy, none]; rfl)
  rw [trimEndBy, List.reverse_append, List.dropWhile_append, if_neg kept, List.reverse_append,
    List.reverse_reverse, trimEndBy]

/-! ## Occurrences -/

theorem occursIn_iff {needle hay : List Char} : occursIn needle hay = true ↔ needle <:+: hay := by
  induction hay with
  | nil => simp [occursIn]
  | cons c hay ih =>
    rw [occursIn, Bool.or_eq_true, ih, List.isPrefixOf_iff_prefix, List.infix_cons_iff]

/-! ## Replacement -/

theorem replaceChars_of_notMem {c : Char} (new : List Char) (fuel : Nat) {cs : List Char}
    (h : c ∉ cs) : replaceChars [c] new fuel cs = cs := by
  induction fuel generalizing cs with
  | zero => rfl
  | succ fuel ih =>
    cases cs with
    | nil => rfl
    | cons d cs =>
      simp only [List.mem_cons, not_or] at h
      simp [replaceChars, dropStart?, h.1, ih h.2]

theorem replace_of_notMem {s : String} {c : Char} (new : String) (h : c ∉ s.toList) :
    replace s (String.singleton c) new = s := by
  have old : (String.singleton c).toList = [c] := by simp
  rw [replace, old, replaceChars_of_notMem _ _ h]
  simp

end DomainAtlas.Text
