import DomainAtlas.Proofs.Discovery.Loading
import DomainAtlas.Proofs.Glob.Scope

/-!
# What a rewritten line says

The lines of all ignore files are folded over a path one after the other (`Glob.hear`). A line of a
nested file, rewritten for its directory, says nothing about a path outside the directory; about a path
in it, it says what the line itself says about the rest of the path. This needs a directory without
characters that have a meaning in patterns, and for the second part a line with more than slashes and
stars.

Results:
* `IgnoreChecker.excludes_eq`: a checker decides by hearing its lines in order.
* `hear_prefixLine_elsewhere`, `hear_prefixLine_inside`: outside and inside the directory.
* `subject_pathText`: the form in which a path of proper names is matched.
-/
namespace DomainAtlas

/-! ## Hearing lines -/

namespace Glob

/-- What is known about a path after a line; one that is no pattern says nothing. -/
def hear (path : List Char) (v : Verdict) (line : String) : Verdict :=
  match (compile line).toOption with
  | some (some rule) => v.note path rule
  | _ => v

/-- Lines compile together if each of them does; their rules say what they say. -/
theorem compileAll_eq_ok {lines : List String} {rules : List Rule} (h : compileAll lines = .ok rules) :
    (∀ line ∈ lines, ∃ r, compile line = .ok r) ∧
      ∀ path v, rules.foldl (Verdict.note path) v = lines.foldl (hear path) v := by
  induction lines generalizing rules with
  | nil =>
    cases h
    exact ⟨List.forall_mem_nil _, fun _ _ => rfl⟩
  | cons line lines ih =>
    rw [compileAll] at h
    cases compiled : compile line with
    | error f => simp [compiled] at h
    | ok r =>
      cases r with
      | none =>
        simp only [compiled] at h
        obtain ⟨each, same⟩ := ih h
        refine ⟨List.forall_mem_cons.2 ⟨⟨_, compiled⟩, each⟩, fun path v => ?_⟩
        rw [List.foldl_cons, hear, compiled]
        exact same path v
      | some rule =>
        simp only [compiled] at h
        cases rest : compileAll lines with
        | error f => simp [rest, Except.map] at h
        | ok more =>
          obtain rfl : rule :: more = rules := by simpa [rest, Except.map] using h
          obtain ⟨each, same⟩ := ih rest
          refine ⟨List.forall_mem_cons.2 ⟨⟨_, compiled⟩, each⟩, fun path v => ?_⟩
          rw [List.foldl_cons, List.foldl_cons, hear, compiled]
          exact same path _

theorem exists_compileAll {lines : List String} (h : ∀ line ∈ lines, ∃ r, compile line = .ok r) :
    ∃ rules, compileAll lines = .ok rules := by
  induction lines with
  | nil => exact ⟨[], rfl⟩
  | cons line lines ih =>
    obtain ⟨⟨r, compiled⟩, each⟩ := List.forall_mem_cons.1 h
    obtain ⟨rules, rest⟩ := ih each
    rw [compileAll, compiled, rest]
    cases r with
    | none => exact ⟨rules, rfl⟩
    | some rule => exact ⟨rule :: rules, rfl⟩

/-- Lines that say nothing about a path leave it undecided. -/
theorem foldl_hear_of_silent {path : List Char} {lines : List String}
    (silent : ∀ line ∈ lines, ∀ v, hear path v line = v) (v : Verdict) :
    lines.foldl (hear path) v = v := by
  induction lines generalizing v with
  | nil => rfl
  | cons line lines ih =>
    obtain ⟨here, rest⟩ := List.forall_mem_cons.1 silent
    rw [List.foldl_cons, here, ih rest]

end Glob

open Glob

/-- The form in which a path is matched against a rule. -/
def subject (path : String) (isDir : Bool) : List Char :=
  relative (IgnoreChecker.matchable path isDir).toList

/-- A checker decides by hearing its lines in order. -/
theorem IgnoreChecker.excludes_eq {c : IgnoreChecker}
    (h : compileAll c.lines.patterns = .ok c.rules.rules) (path : String) (isDir : Bool) :
    c.excludes path isDir =
      (c.lines.patterns.foldl (hear (subject path isDir)) Verdict.none).taken := by
  rw [← (compileAll_eq_ok h).2]
  rfl

/-! ## Rewritten lines -/

/-- A line that is a pattern, without blanks around it. -/
structure PatternLine (line : String) : Prop where
  ne_nil : line.toList ≠ []
  noComment : line.toList.head? ≠ some '#'
  last : ∀ c, line.toList.getLast? = some c → Text.isBlank c = false

theorem patternLine_of_mem {content : Option ByteArray} {line : String}
    (h : line ∈ patternLines content) : PatternLine line := by
  cases content with
  | none => cases h
  | some bytes =>
    rw [patternLines] at h
    obtain ⟨mem, pattern⟩ := List.mem_filter.1 h
    obtain ⟨raw, -, rfl⟩ := List.mem_map.1 mem
    refine ⟨fun e => ?_, fun e => ?_, fun c hc => ?_⟩
    · simp [isPatternLine, e] at pattern
    · obtain ⟨rest, hr⟩ := List.head?_eq_some_iff.1 e
      simp [isPatternLine, hr] at pattern
    · rw [Text.strip, String.toList_ofList] at hc
      exact Text.last_trimBy hc

/-- Whether a line has more than slashes and stars in its pattern. -/
def SolidLine (line : String) : Prop := Solid (signed line.toList).2

theorem compile_of_solid {line : String} (hl : PatternLine line) (solid : SolidLine line) :
    (compile line).toOption =
      (shape? (signed line.toList).2).map fun s => some ⟨(signed line.toList).1, s⟩ := by
  refine toOption_compile (trimLine_of_last hl.last) hl.ne_nil hl.noComment fun e => ?_
  obtain ⟨c, hc, slash, -⟩ := solid
  exact slash (by simpa [e] using hc)

theorem toList_prefixPattern (pattern : String) {base : String} (h : base ≠ "") :
    (prefixPattern pattern base).toList = '/' :: (base.toList ++ '/' :: innerText pattern.toList) := by
  unfold prefixPattern innerText
  rw [if_neg h]
  cases hp : pattern.toList with
  | nil => simp [Text.startsWith, Text.trimEndBy, hp, stars]
  | cons c cs =>
    by_cases slash : c = '/'
    · subst slash
      simp [Text.startsWith, hp]
    · by_cases inner : '/' ∈ Text.trimEndBy (· == '/') (c :: cs)
      · simp [Text.startsWith, hp, slash, Ne.symm slash, inner]
      · simp [Text.startsWith, hp, slash, Ne.symm slash, inner, stars]

/-- A rewritten line keeps its sign, and its pattern stands behind the directory. -/
theorem signed_prefixLine (line : String) {base : String} (h : base ≠ "") :
    signed (prefixLine base line).toList = ((signed line.toList).1,
      '/' :: (base.toList ++ '/' :: innerText (signed line.toList).2)) := by
  unfold prefixLine
  split
  · next body hb =>
    rw [String.toList_append, toList_prefixPattern _ h, String.toList_ofList, String.toList_ofList, hb]
    rfl
  · next other =>
    have plain : signed line.toList = (true, line.toList) := by
      unfold signed
      split
      · next body hb => exact (other body hb).elim
      · rfl
    rw [toList_prefixPattern _ h, plain]
    rfl

theorem exists_sign (cs : List Char) : ∃ sign, (sign = [] ∨ sign = ['!']) ∧ cs = sign ++ (signed cs).2 := by
  unfold signed
  split
  · exact ⟨['!'], .inr rfl, rfl⟩
  · exact ⟨[], .inl rfl, rfl⟩

theorem last_innerText {body : List Char} {c : Char} (h : ('/' :: innerText body).getLast? = some c) :
    c = '/' ∨ body.getLast? = some c := by
  cases hb : body.getLast? with
  | none =>
    rw [List.getLast?_eq_none_iff.1 hb] at h
    exact .inl (Option.some.inj h).symm
  | some d =>
    unfold innerText at h
    split at h
    · exact .inr (hb ▸ h)
    · split at h <;> simp_all [List.getLast?_cons, stars]

/-- The rule of a rewritten line asks for the directory and goes on with what the line asks for. -/
theorem compile_prefixLine {line : String} (hl : PatternLine line) {dir : List String} (ne : dir ≠ [])
    (proper : ∀ n ∈ dir, EntryName n) (plain : ∀ n ∈ dir, Plain n.toList) :
    (compile (prefixLine (pathText dir) line)).toOption =
      (behind? (signed line.toList).2).map fun as =>
        some ⟨(signed line.toList).1, .atoms (literal (pathText dir).toList ++ as)⟩ := by
  have base : pathText dir ≠ "" := fun e => ne ((pathText_eq_empty_iff proper).1 e)
  have hs := signed_prefixLine line base
  obtain ⟨sign, hsign, e⟩ := exists_sign (prefixLine (pathText dir) line).toList
  rw [hs] at e
  have last (c : Char) (hc : (prefixLine (pathText dir) line).toList.getLast? = some c) :
      Text.isBlank c = false := by
    have tail : ('/' :: innerText (signed line.toList).2).getLast? = some c := by
      rw [← hc, e, ← List.cons_append, ← List.append_assoc, List.getLast?_append, List.getLast?_cons]
      rfl
    rcases last_innerText tail with rfl | tail
    · decide
    · obtain ⟨sign, -, e⟩ := exists_sign line.toList
      exact hl.last c (by rw [e, List.getLast?_append, tail]; rfl)
  rw [toOption_compile (trimLine_of_last last), hs, toList_pathText, shape?_nested, Option.map_map]
  · rfl
  · simpa using ne
  · simpa using plain
  · simpa using fun n hn => (proper n hn).noSlash
  · rw [e]
    simp
  · rw [e]
    rcases hsign with rfl | rfl <;> simp
  · rw [hs]
    simp

section Directory

variable {line : String} (hl : PatternLine line) {dir : List String} (ne : dir ≠ [])
  (proper : ∀ n ∈ dir, EntryName n) (plain : ∀ n ∈ dir, Plain n.toList)

include hl ne proper plain

/-- A rewritten line says nothing about a path outside its directory, and nothing about the directory
itself if it has more than slashes and stars. -/
theorem hear_prefixLine_elsewhere {path : List Char}
    (outside : ∀ rest, path = (pathText dir).toList ++ '/' :: rest → rest = [] ∧ SolidLine line)
    (v : Verdict) : hear path v (prefixLine (pathText dir) line) = v := by
  rw [hear, compile_prefixLine hl ne proper plain]
  cases hb : behind? (signed line.toList).2 with
  | none => rfl
  | some as =>
    have silent : runAtoms (literal (pathText dir).toList ++ as) path = none := by
      rw [runAtoms_literal]
      cases hd : Text.dropStart? (pathText dir).toList path with
      | none => rfl
      | some cs =>
        have hp := Text.dropStart?_eq_some_iff.1 hd
        by_contra matched
        obtain ⟨rest, rfl⟩ := runAtoms_behind hb matched
        obtain ⟨rfl, solid⟩ := outside rest hp
        exact matched (runAtoms_behind_slash hb solid)
    simp [Verdict.note, Shape.run, silent]

/-- About a path in its directory a rewritten line says what the line says about the rest of it. -/
theorem hear_prefixLine_inside (solid : SolidLine line) {rest : List Char} (tidy : Tidy ('/' :: rest))
    {r : Option Rule} (compiled : compile (prefixLine (pathText dir) line) = .ok r) :
    (∃ r', compile line = .ok r') ∧
      ∀ v, hear ((pathText dir).toList ++ '/' :: rest) v (prefixLine (pathText dir) line) =
        hear rest v line := by
  have nested := compile_prefixLine hl ne proper plain
  have own := compile_of_solid hl solid
  cases hb : behind? (signed line.toList).2 with
  | none => simp [hb, compiled, Except.toOption] at nested
  | some as =>
    obtain ⟨s, hs, same⟩ := exists_shape?_of_behind solid hb
    have here : runAtoms (literal (pathText dir).toList ++ as) ((pathText dir).toList ++ '/' :: rest) =
        s.run rest := by
      rw [runAtoms_literal, Text.dropStart?_append, Option.bind_some, same rest tidy]
    rw [hs] at own
    rw [hb] at nested
    refine ⟨?_, fun v => ?_⟩
    · cases read : compile line with
      | error f => simp [read, Except.toOption] at own
      | ok r' => exact ⟨r', rfl⟩
    · rw [hear, hear, nested, own]
      show Verdict.note _ v _ = Verdict.note _ v _
      rw [Verdict.note, Verdict.note, Shape.run, here]

end Directory

/-! ## Paths of proper names -/

theorem relative_of_split {cs first : List Char} {parts : List (List Char)}
    (h : Text.splitChars '/' cs = first :: parts) (ne : first ≠ []) (dot : first ≠ ['.']) :
    relative cs = cs := by
  unfold relative
  split
  · next rest =>
    rw [Text.splitChars, if_pos rfl] at h
    exact (ne (List.cons.inj h).1.symm).elim
  · next rest =>
    have dir := Text.splitChars_append '/' ['.'] rest
    rw [List.singleton_append, h] at dir
    exact (dot (List.cons.inj dir).1).elim
  · rfl

/-- The slash at the end of a directory. -/
def dirMark (isDir : Bool) : List Char := if isDir then ['/'] else []

section Names

variable {names : List String} (ne : names ≠ []) (proper : ∀ n ∈ names, EntryName n)

include ne proper

theorem splitChars_marked (isDir : Bool) :
    Text.splitChars '/' ((pathText names).toList ++ dirMark isDir) =
      names.map String.toList ++ if isDir then [[]] else [] := by
  cases isDir with
  | false => simpa [dirMark] using splitChars_pathText proper ne
  | true => rw [dirMark, if_pos rfl, Text.splitChars_append, splitChars_pathText proper ne]; rfl

/-- A path of proper names is matched as it stands, with a slash at the end of a directory. -/
theorem subject_pathText (noEscape : ∀ n ∈ names, '\\' ∉ n.toList) (isDir : Bool) :
    subject (pathText names) isDir = (pathText names).toList ++ dirMark isDir := by
  have slashed : Text.replace (pathText names) "\\" "/" = pathText names := by
    refine Text.replace_of_notMem (c := '\\') "/" fun h => ?_
    obtain ⟨part, hp, hc⟩ := Text.exists_mem_splitChars '/' h (by decide)
    rw [splitChars_pathText proper ne] at hp
    obtain ⟨n, hn, rfl⟩ := List.mem_map.1 hp
    exact noEscape n hn hc
  have open' : Text.endsWith (pathText names) "/" = false := by
    rw [Bool.eq_false_iff, Text.endsWith, ne_eq, List.isPrefixOf_iff_prefix]
    rintro ⟨front, e⟩
    have parts := splitChars_pathText proper ne
    rw [← List.reverse_reverse (pathText names).toList, ← e] at parts
    have slash : (['/'] ++ front).reverse = front.reverse ++ '/' :: [] := by simp
    have last : ([] : List Char) ∈ names.map String.toList := by
      change Text.splitChars '/' (['/'] ++ front).reverse = _ at parts
      rw [← parts, slash, Text.splitChars_append]
      simp [Text.splitChars]
    obtain ⟨n, hn, empty⟩ := List.mem_map.1 last
    exact (proper n hn).toList_ne_nil empty
  have form : (IgnoreChecker.matchable (pathText names) isDir).toList =
      (pathText names).toList ++ dirMark isDir := by
    rw [IgnoreChecker.matchable, slashed, open']
    cases isDir <;> simp [dirMark]
  rw [subject, form]
  obtain ⟨name, names, rfl⟩ := List.exists_cons_of_ne_nil ne
  have first := proper name List.mem_cons_self
  exact relative_of_split (splitChars_marked ne proper isDir) first.toList_ne_nil
    fun e => first.ne_dot (String.toList_inj.1 e)

/-- No path of proper names has an empty name inside. -/
theorem tidy_pathText (isDir : Bool) : Tidy ('/' :: ((pathText names).toList ++ dirMark isDir)) := by
  rintro ⟨front, back, e⟩
  have parts := Text.splitChars_append '/' front ('/' :: back)
  have e' : front ++ '/' :: '/' :: back = '/' :: ((pathText names).toList ++ dirMark isDir) := by
    simpa using e
  rw [e', Text.splitChars, if_pos rfl, splitChars_marked ne proper, Text.splitChars, if_pos rfl] at parts
  obtain ⟨a, as, ha⟩ := List.exists_cons_of_ne_nil (Text.splitChars_ne_nil '/' front)
  rw [ha, List.cons_append] at parts
  -- The empty part between the slashes is neither a name nor the last part.
  rcases List.append_eq_append_iff.1 (List.cons.inj parts).2 with ⟨more, -, tail⟩ | ⟨more, hn, tail⟩
  · have last := Text.splitChars_ne_nil '/' back
    cases isDir <;> cases more <;> simp_all
  · cases more with
    | nil =>
      have last := Text.splitChars_ne_nil '/' back
      cases isDir <;> simp_all
    | cons part more =>
      have empty : ([] : List Char) ∈ names.map String.toList := by
        rw [hn, (List.cons.inj tail).1]
        simp
      obtain ⟨n, hn, empty⟩ := List.mem_map.1 empty
      exact (proper n hn).toList_ne_nil empty

/-- Only a path through a directory has it at its front, apart from the directory itself. -/
theorem exists_append_of_marked {dir : List String} (hd : dir ≠ []) (properDir : ∀ n ∈ dir, EntryName n)
    {isDir : Bool} {rest : List Char}
    (h : (pathText names).toList ++ dirMark isDir = (pathText dir).toList ++ '/' :: rest)
    (hr : rest ≠ []) : ∃ more, more ≠ [] ∧ names = dir ++ more := by
  have parts := congrArg (Text.splitChars '/') h
  rw [splitChars_marked ne proper, Text.splitChars_append, splitChars_pathText properDir hd] at parts
  have last := Text.splitChars_ne_nil '/' rest
  have full : Text.splitChars '/' rest ≠ [[]] := fun e => hr (Text.eq_nil_of_splitChars e)
  rcases List.append_eq_append_iff.1 parts with ⟨more, -, tail⟩ | ⟨more, hn, tail⟩
  · cases isDir <;> cases more <;> simp_all
  · obtain ⟨front, back, rfl, hf, rfl⟩ := List.map_eq_append_iff.1 hn
    refine ⟨back, ?_, by rw [List.map_injective_iff.2 (fun _ _ => String.toList_inj.1) hf]⟩
    rintro rfl
    cases isDir <;> simp_all

end Names

end DomainAtlas
