import DomainAtlas.Dialect
import DomainAtlas.Proofs.Discovery.Tree
import Mathlib.Data.List.Induction
import Mathlib.Data.List.TakeWhile

/-!
# The ending of a source file

What stands behind the last dot of a path decides about its dialect. So a path that belongs to a
dialect has a last dot, with nothing but an ending behind it.

Results:
* `Dialect.exists_ending`: the shape of such a path.
* `Dialect.ne_qualified`: it is no qualified name, as long as the last part of the name has no dot.
-/
namespace DomainAtlas

namespace Path

/-- What is read from a path made of names. -/
theorem name_parse_pathText {names : List String} (proper : ∀ n ∈ names, EntryName n) {name : String}
    (last : names.getLast? = some name) : (parse (pathText names)).name = name := by
  have ne : names ≠ [] := by
    rintro rfl
    cases last
  have all : names.filter isComponent = names := by
    refine List.filter_eq_self.2 fun n hn => ?_
    simp [isComponent, (proper n hn).ne_empty, (proper n hn).ne_dot]
  rw [Path.name, parse, split_pathText proper ne, all, last, Option.getD_some]

/-- A list up to the last time something occurs in it. -/
theorem exists_split_last {c : Char} (cs : List Char) (h : c ∈ cs) :
    ∃ stem, cs = stem ++ c :: (cs.reverse.takeWhile (· ≠ c)).reverse := by
  induction cs using List.reverseRecOn with
  | nil => cases h
  | append_singleton cs d ih =>
    by_cases hd : d = c
    · subst hd
      exact ⟨cs, by simp⟩
    · have inner : c ∈ cs := by simpa [Ne.symm hd] using h
      obtain ⟨stem, hs⟩ := ih inner
      refine ⟨stem, ?_⟩
      rw [List.reverse_concat, List.takeWhile_cons_of_pos (by simpa using hd), List.reverse_cons,
        ← List.cons_append, ← List.append_assoc, ← hs]

/-- An ending that is not empty is the text behind the last dot, with the dot. -/
theorem suffixOf_cases (name : String) :
    suffixOf name = "" ∨ ∃ stem tail, name.toList = stem ++ '.' :: tail ∧ '.' ∉ tail ∧
      suffixOf name = String.ofList ('.' :: tail) := by
  unfold suffixOf
  simp only
  split
  · exact .inl rfl
  · next found =>
    have dot : '.' ∈ name.toList := by
      by_contra absent
      exact found (by simp [absent])
    obtain ⟨stem, hs⟩ := exists_split_last name.toList dot
    refine .inr ⟨stem, _, hs, fun h => ?_, rfl⟩
    have other := List.mem_takeWhile_imp (List.mem_reverse.1 h)
    simp at other

end Path

namespace Dialect

/-- An ending that belongs to a dialect has no backslash. -/
theorem backslash_notMem {tail : List Char} {d : Dialect}
    (h : ofExtension? (String.ofList ('.' :: tail)) = some d) : '\\' ∉ tail := by
  intro hb
  have known := List.find?_some h
  simp only [Text.stripCharLeft, Text.lowerAscii, String.toList_ofList] at known
  have kept : '\\' ∈ (('.' :: tail).map Char.toLower).dropWhile (· == '.') := by
    have lower : '\\' ∈ ('.' :: tail).map Char.toLower :=
      List.mem_map.2 ⟨'\\', List.mem_cons_of_mem _ hb, by decide⟩
    rw [← List.takeWhile_append_dropWhile (p := (· == '.')) (l := ('.' :: tail).map Char.toLower)]
      at lower
    rcases List.mem_append.1 lower with dots | kept
    · have isDot := List.mem_takeWhile_imp dots
      simp at isDot
    · exact kept
  generalize (('.' :: tail).map Char.toLower).dropWhile (· == '.') = ending at known kept
  have named : ∀ s ∈ d.extensions, '\\' ∉ s.toList := by cases d <;> decide
  refine named _ (by simpa using known) ?_
  simpa using kept

/-- A path that belongs to a dialect ends with a dot and an ending. -/
theorem exists_ending {names : List String} (proper : ∀ n ∈ names, EntryName n) {d : Dialect}
    (h : ofPath? (pathText names) = some d) :
    ∃ stem tail, (pathText names).toList = stem ++ '.' :: tail ∧ '.' ∉ tail ∧ '\\' ∉ tail := by
  unfold ofPath? at h
  have known : ofExtension? "" = none := by decide
  rcases List.eq_nil_or_concat names with rfl | ⟨init, name, rfl⟩
  · cases known.symm.trans h
  · rw [List.concat_eq_append] at proper h ⊢
    rw [Path.suffix, Path.name_parse_pathText proper List.getLast?_concat] at h
    rcases Path.suffixOf_cases name with none | ⟨stem, tail, hn, noDot, hs⟩
    · rw [none, known] at h
      cases h
    · rw [hs] at h
      by_cases hi : init = []
      · exact ⟨stem, tail, by simp [hi, hn], noDot, backslash_notMem h⟩
      · refine ⟨(pathText init).toList ++ '/' :: stem, tail, ?_, noDot, backslash_notMem h⟩
        rw [toList_pathText_append hi (by simp), pathText_singleton, hn]
        simp

/-- A path that belongs to a dialect is no qualified name. -/
theorem ne_qualified {names : List String} (proper : ∀ n ∈ names, EntryName n) {d : Dialect}
    (h : ofPath? (pathText names) = some d) (space : String) {name : String}
    (noDot : '.' ∉ name.toList) : pathText names ≠ space ++ "\\" ++ name := by
  intro e
  obtain ⟨stem, tail, hp, -, plain⟩ := exists_ending proper h
  have chars : space.toList ++ '\\' :: name.toList = stem ++ '.' :: tail := by
    rw [← hp, e]
    simp
  rcases List.append_eq_append_iff.1 chars with ⟨mid, hs, hm⟩ | ⟨mid, hs, hm⟩
  · cases mid with
    | nil => simp at hm
    | cons c mid =>
      obtain ⟨-, ht⟩ := List.cons.inj hm
      exact noDot (ht ▸ by simp)
  · cases mid with
    | nil => simp at hm
    | cons c mid =>
      obtain ⟨-, ht⟩ := List.cons.inj hm
      exact plain (ht ▸ by simp)

end Dialect

end DomainAtlas
