import DomainAtlas.Proofs.Glob.Compiling
import DomainAtlas.Proofs.Text.Parts

/-!
# Patterns behind a directory

A pattern of a nested ignore file is rewritten by putting the directory in front (`innerText` is what
stands behind it). Where the directory has no characters with a meaning of their own, the rewritten
pattern begins with the directory, letter by letter, and goes on with atoms (`behind?`) that ask for a
slash. So it matches nothing outside the directory, and inside it what the pattern itself matches.

Two kinds of patterns are apart. One of slashes and stars only, such as a lone slash or two stars, may
match nothing after that slash, that is, the directory itself. And a name with two slashes at its end is
bound to the root when it stands alone and is not when it stands behind a directory; either way it asks
for a path with two slashes in a row.

Results:
* `shape?_nested`: the shape of a rewritten pattern.
* `runAtoms_behind`, `runAtoms_behind_slash`: it matches in the directory only, and not the directory.
* `exists_shape?_of_behind`: in the directory it matches what the pattern matches.
-/
namespace DomainAtlas.Glob

/-! ## Reading a line -/

/-- Whether a line takes paths in or, negated, out again, and its pattern. -/
def signed : List Char → Bool × List Char
  | '!' :: body => (false, body)
  | body => (true, body)

/-- Whether a pattern asks for a directory. -/
def asksDir (body : List Char) : Bool := (Text.splitChars '/' body).getLast? = some []

def shape? (body : List Char) : Option Shape :=
  if normalSegments (Text.splitChars '/' body) = [] then none
  else (shapeOf (asksDir body) (normalSegments (Text.splitChars '/' body))).toOption

theorem trimLine_of_last {line : String}
    (h : ∀ c, line.toList.getLast? = some c → Text.isBlank c = false) : trimLine line = line.toList := by
  unfold trimLine
  split
  · rfl
  · exact Text.trimEndBy_of_last h

/-- A line that says something says it in its pattern. -/
theorem toOption_compile {line : String} (kept : trimLine line = line.toList) (ne : line.toList ≠ [])
    (noComment : line.toList.head? ≠ some '#') (noSlash : (signed line.toList).2 ≠ ['/']) :
    (compile line).toOption =
      (shape? (signed line.toList).2).map fun s => some ⟨(signed line.toList).1, s⟩ := by
  have lone : line.toList ≠ ['/'] := fun e => noSlash (by rw [e]; rfl)
  unfold compile
  rw [kept, if_neg (by simp [ne, noComment, lone])]
  split
  next take body h =>
    have sign : signed line.toList = (take, body) := h
    rw [sign] at noSlash ⊢
    rw [if_neg noSlash, shape?, asksDir]
    dsimp only
    split
    · rfl
    · split <;> simp_all [Except.toOption]

/-! ## The shape behind a directory -/

/-- What stands for a pattern behind its directory. -/
def innerText (body : List Char) : List Char :=
  match body with
  | '/' :: rest => rest
  | _ => if '/' ∈ Text.trimEndBy (· == '/') body then body else stars ++ '/' :: body

/-- The segments of a pattern behind its directory. -/
def innerSegments (body : List Char) : List (List Char) :=
  finish (Text.splitChars '/' (innerText body))

/-- What a pattern asks for behind its directory, if it can be read. -/
def behind? (body : List Char) : Option (List Atom) :=
  segments? (asksDir body) false true (innerSegments body)

theorem innerSegments_ne_nil (body : List Char) : innerSegments body ≠ [] :=
  finish_ne_nil (Text.splitChars_ne_nil '/' _)

theorem getLast?_splitChars_append (a b : List Char) :
    (Text.splitChars '/' (a ++ '/' :: b)).getLast? = (Text.splitChars '/' b).getLast? := by
  rw [Text.splitChars_append, List.getLast?_append,
    List.getLast?_eq_some_getLast (Text.splitChars_ne_nil '/' b), Option.some_or]

theorem asksDir_append (a b : List Char) : asksDir (a ++ '/' :: b) = asksDir b := by
  rw [asksDir, getLast?_splitChars_append, asksDir]

theorem asksDir_innerText (body : List Char) : asksDir (innerText body) = asksDir body := by
  unfold innerText
  split
  · next rest => exact (asksDir_append [] rest).symm
  · split
    · rfl
    · exact asksDir_append stars body

/-- The shape of segments that are not all stars. -/
theorem toOption_shapeOf {isDir : Bool} {segs : List (List Char)} {seg : List Char} (mem : seg ∈ segs)
    (two : seg ≠ stars) (one : seg ≠ ['*']) :
    (shapeOf isDir segs).toOption = (segments? isDir true false segs).map .atoms := by
  have special : segs ≠ [stars] ∧ segs ≠ [stars, ['*']] ∧ segs ≠ [stars, ['*'], stars] := by
    refine ⟨?_, ?_, ?_⟩ <;> rintro rfl <;> simp_all
  rw [shapeOf, if_neg special.1, if_neg special.2.1, if_neg special.2.2, toOption_map,
    toOption_segmentsAtoms]

/-- A pattern that is rewritten for a directory without special characters begins with the directory. -/
theorem shape?_nested {names : List (List Char)} (ne : names ≠ []) (plain : ∀ n ∈ names, Plain n)
    (noSlash : ∀ n ∈ names, '/' ∉ n) (body : List Char) :
    shape? ('/' :: (['/'].intercalate names ++ '/' :: innerText body)) =
      (behind? body).map fun as => .atoms (literal (['/'].intercalate names) ++ as) := by
  have segs : normalSegments
      (Text.splitChars '/' ('/' :: (['/'].intercalate names ++ '/' :: innerText body))) =
      names ++ innerSegments body := by
    rw [← List.nil_append ('/' :: _), Text.splitChars_append, Text.splitChars_append,
      Text.splitChars_intercalate ne noSlash]
    exact (normalSegments_rooted _).trans
      (finish_append (fun n hn => (plain n hn).ne_stars) (Text.splitChars_ne_nil '/' _))
  have dir : asksDir ('/' :: (['/'].intercalate names ++ '/' :: innerText body)) = asksDir body := by
    rw [← List.nil_append ('/' :: _), asksDir_append, asksDir_append, asksDir_innerText]
  rw [shape?, segs, dir, if_neg (by simp [ne])]
  obtain ⟨first, rest, rfl⟩ := List.exists_cons_of_ne_nil ne
  have hp := plain first List.mem_cons_self
  rw [toOption_shapeOf (List.mem_append_left _ List.mem_cons_self) hp.ne_stars hp.ne_star,
    segments?_append plain noSlash ne (innerSegments_ne_nil body), Option.map_map]
  rfl

/-! ## Matching behind a directory -/

theorem runAtoms_literal (base : List Char) (as : List Atom) (cs : List Char) :
    runAtoms (literal base ++ as) cs = (Text.dropStart? base cs).bind (runAtoms as) := by
  induction base generalizing cs with
  | nil => rfl
  | cons d base ih =>
    have step : literal (d :: base) ++ as =
        (if d = '/' then Atom.slash else .char d) :: (literal base ++ as) := rfl
    rw [step, runAtoms]
    cases cs with
    | nil => split <;> rfl
    | cons c cs =>
      rw [Text.dropStart?]
      by_cases slash : d = '/'
      · subst slash
        by_cases same : c = '/'
        · subst same
          simp [Atom.run, ih]
        · simp [Atom.run, same, Ne.symm same]
      · by_cases same : c = d
        · subst same
          simp [Atom.run, slash, ih]
        · simp [Atom.run, slash, same, Ne.symm same]

@[simp] theorem runAtoms_slash (as : List Atom) (rel : List Char) :
    runAtoms (.slash :: as) ('/' :: rel) = runAtoms as rel := by
  simp [runAtoms, Atom.run]

/-- What begins with a slash atom matches a slash. -/
theorem exists_of_runAtoms_slash {as : List Atom} {cs : List Char}
    (h : runAtoms (.slash :: as) cs ≠ none) : ∃ rel, cs = '/' :: rel := by
  cases cs with
  | nil => simp [runAtoms, Atom.run] at h
  | cons c rel =>
    by_cases slash : c = '/'
    · exact ⟨rel, by rw [slash]⟩
    · simp [runAtoms, Atom.run, slash] at h

/-- A name is read behind a slash as at the front. -/
theorem segments?_name {isDir : Bool} {seg : List Char} (h : seg ≠ stars) (rest : List (List Char))
    (first : Bool) : segments? isDir false true (seg :: rest) =
      (segments? isDir first false (seg :: rest)).map (.slash :: ·) := by
  rw [segments?, segments?, if_neg h, if_neg h]
  cases segment? seg with
  | none => rfl
  | some name =>
    by_cases last : rest = []
    · simp [last]
    · simp [last, Function.comp_def]

/-- What is read behind a slash: two stars at the end, two stars before a name, or a name. -/
theorem segments?_cases {isDir : Bool} {segs : List (List Char)} {as : List Atom} (ne : segs ≠ [])
    (apart : ∀ rest, segs ≠ stars :: stars :: rest) (h : segments? isDir false true segs = some as) :
    (segs = [stars] ∧ as = [if isDir then .below else .slash]) ∨
    (∃ seg rest more, segs = stars :: seg :: rest ∧ seg ≠ stars ∧ as = .innerDirs :: .slash :: more ∧
      ∀ first, segments? isDir first false (seg :: rest) = some more) ∨
    (∃ seg rest more, segs = seg :: rest ∧ seg ≠ stars ∧ as = .slash :: more ∧
      ∀ first, segments? isDir first false (seg :: rest) = some more) := by
  have name {seg : List Char} {rest : List (List Char)} {as : List Atom} (hs : seg ≠ stars)
      (h : segments? isDir false true (seg :: rest) = some as) : ∃ more, as = .slash :: more ∧
        ∀ first, segments? isDir first false (seg :: rest) = some more := by
    obtain ⟨more, hm, rfl⟩ := Option.map_eq_some_iff.1 (segments?_name hs rest false ▸ h)
    refine ⟨more, rfl, fun first => ?_⟩
    obtain ⟨more', hm', e⟩ := Option.map_eq_some_iff.1 (segments?_name hs rest first ▸ h)
    rw [hm', (List.cons.inj e).2]
  obtain ⟨seg, rest, rfl⟩ := List.exists_cons_of_ne_nil ne
  by_cases double : seg = stars
  · subst double
    rw [segments?, if_pos rfl, if_neg (by simp)] at h
    cases rest with
    | nil => exact .inl ⟨rfl, (Option.some.inj h).symm⟩
    | cons seg rest =>
      have hs : seg ≠ stars := fun e => apart rest (by rw [e])
      rw [if_neg (by simp)] at h
      obtain ⟨as, hm, rfl⟩ := Option.map_eq_some_iff.1 h
      obtain ⟨more, rfl, hf⟩ := name hs hm
      exact .inr (.inl ⟨seg, rest, more, rfl, hs, rfl, hf⟩)
  · obtain ⟨more, rfl, hf⟩ := name double h
    exact .inr (.inr ⟨seg, rest, more, rfl, double, rfl, hf⟩)

/-- Segments behind a name match from a slash on. -/
theorem exists_of_runAtoms_segments? {isDir : Bool} {segs : List (List Char)} {as : List Atom}
    (ne : segs ≠ []) (apart : ∀ rest, segs ≠ stars :: stars :: rest)
    (h : segments? isDir false true segs = some as) {cs : List Char} (hm : runAtoms as cs ≠ none) :
    ∃ rel, cs = '/' :: rel := by
  rcases segments?_cases ne apart h with
    ⟨-, rfl⟩ | ⟨-, -, more, -, -, rfl, -⟩ | ⟨-, -, more, -, -, rfl, -⟩
  · cases cs with
    | nil => cases isDir <;> simp [runAtoms, Atom.run] at hm
    | cons c rel =>
      by_cases slash : c = '/'
      · exact ⟨rel, by rw [slash]⟩
      · cases isDir <;> simp [runAtoms, Atom.run, slash] at hm
  · refine Classical.byContradiction fun slash => ?_
    -- No directory is passed, so the slash has to stand here.
    have skip : runAtoms (.innerDirs :: .slash :: more) cs = runAtoms (.slash :: more) cs := by
      cases cs with
      | nil => rfl
      | cons c rel =>
        have other : c ≠ '/' := fun e => slash ⟨rel, by rw [e]⟩
        simp [runAtoms, Atom.run, other]
    exact slash (exists_of_runAtoms_slash (skip ▸ hm))
  · exact exists_of_runAtoms_slash hm

/-- **Scope.** Behind its directory a pattern matches from a slash on. -/
theorem runAtoms_behind {body : List Char} {as : List Atom} (h : behind? body = some as)
    {cs : List Char} (hm : runAtoms as cs ≠ none) : ∃ rel, cs = '/' :: rel :=
  exists_of_runAtoms_segments? (innerSegments_ne_nil body) (finish_ne_twins _) h hm

/-! ## Patterns that ask for a name -/

/-- Whether a pattern has more than slashes and stars. -/
def Solid (body : List Char) : Prop := ∃ c ∈ body, c ≠ '/' ∧ c ≠ '*'

/-- What the atoms of a segment match: parts of a name. -/
def Atom.inName : Atom → Bool
  | .char _ | .one | .many | .name | .bracket _ => true
  | _ => false

theorem precede_eq_ok {a : Atom} {r : Except SegmentFault (List Atom × Nat)} {as : List Atom} {q : Nat}
    (h : precede a r = .ok (as, q)) : ∃ more, r = .ok (more, q) ∧ as = a :: more := by
  cases r with
  | error e => cases h
  | ok r =>
    obtain ⟨more, q'⟩ := r
    cases h
    exact ⟨more, rfl, rfl⟩

/-- A segment is read as parts of a name. -/
theorem inName_of_segmentAtoms {fuel p : Nat} {cs : List Char} {as : List Atom} {q : Nat}
    (h : segmentAtoms fuel p cs = .ok (as, q)) : ∀ a ∈ as, a.inName = true := by
  fun_induction segmentAtoms fuel p cs generalizing as q with
  | case1 | case2 =>
    cases h
    simp
  | case3 => cases h
  | case8 => cases h
  | case4 fuel p c cs ih | case5 fuel p cs ih | case6 fuel p cs ih | case7 fuel p cs _ _ _ _ ih
  | case10 fuel p c cs _ _ _ _ _ ih =>
    obtain ⟨more, hm, rfl⟩ := precede_eq_ok h
    exact List.forall_mem_cons.2 ⟨rfl, ih hm⟩
  | case9 =>
    rename_i ih
    obtain ⟨more, hm, rfl⟩ := precede_eq_ok h
    exact List.forall_mem_cons.2 ⟨rfl, ih hm⟩

/-- A segment that is not all stars is read as something that is not empty. -/
theorem exists_ne_many_of_segmentAtoms {fuel p : Nat} {cs : List Char} {as : List Atom} {q : Nat}
    (h : segmentAtoms fuel p cs = .ok (as, q)) (enough : cs.length < fuel) {c : Char} (hc : c ∈ cs)
    (other : c ≠ '*') : ∃ a ∈ as, a ≠ .many := by
  fun_induction segmentAtoms fuel p cs generalizing as q with
  | case1 => cases enough
  | case2 => cases hc
  | case3 => cases h
  | case8 => cases h
  | case5 fuel p cs ih =>
    obtain ⟨more, hm, rfl⟩ := precede_eq_ok h
    obtain ⟨a, ha, hn⟩ := ih hm (by simpa using enough) ((List.mem_cons.1 hc).resolve_left other)
    exact ⟨a, List.mem_cons_of_mem _ ha, hn⟩
  | case4 | case6 | case7 | case9 | case10 =>
    obtain ⟨more, hm, rfl⟩ := precede_eq_ok h
    exact ⟨_, List.mem_cons_self, by simp⟩

theorem inName_of_segment? {seg : List Char} {as : List Atom} (h : segment? seg = some as) :
    (∀ a ∈ as, a.inName = true) ∧ ∀ c ∈ seg, c ≠ '*' → ∃ a ∈ as, a ≠ .many := by
  unfold segment? at h
  split at h
  · next lone =>
    cases h
    refine ⟨List.forall_mem_singleton.2 rfl, fun c hc other => ?_⟩
    rw [lone, List.mem_singleton] at hc
    exact (other hc).elim
  · cases read : segmentAtoms (seg.length + 1) 0 seg with
    | error e => simp [read, Except.toOption] at h
    | ok r =>
      obtain ⟨as', q⟩ := r
      obtain rfl : as' = as := by simpa [read, Except.toOption] using h
      exact ⟨inName_of_segmentAtoms read,
        fun c hc => exists_ne_many_of_segmentAtoms read (Nat.lt_succ_self _) hc⟩

/-- Parts of a name match nothing only if each of them may be empty. -/
theorem runAtoms_nil {as more : List Atom} (names : ∀ a ∈ as, a.inName = true)
    (h : (∃ a ∈ as, a ≠ .many) ∨ runAtoms more [] = none) : runAtoms (as ++ more) [] = none := by
  induction as with
  | nil => simpa using h
  | cons a as ih =>
    obtain ⟨name, rest⟩ := List.forall_mem_cons.1 names
    rw [List.cons_append, runAtoms]
    cases a with
    | many =>
      refine ih rest (h.imp_left ?_)
      rintro ⟨b, hb, hn⟩
      exact ⟨b, (List.mem_cons.1 hb).resolve_left hn, hn⟩
    | char _ | one | name | bracket _ => rfl
    | leadingDirs | innerDirs | slash | below | close => cases name

/-- Segments that are not all stars ask for more than a slash. -/
theorem runAtoms_slash_of_solid {isDir : Bool} {segs : List (List Char)} {as : List Atom}
    (h : segments? isDir false true segs = some as) (solid : ∃ seg ∈ segs, ∃ c ∈ seg, c ≠ '*') :
    runAtoms as [] = none ∧ runAtoms as ['/'] = none := by
  induction segs generalizing as with
  | nil =>
    obtain ⟨_, hs, _⟩ := solid
    cases hs
  | cons seg rest ih =>
    rw [segments?] at h
    by_cases double : seg = stars
    · have solid' : ∃ seg ∈ rest, ∃ c ∈ seg, c ≠ '*' := by
        obtain ⟨s, hs, c, hc, other⟩ := solid
        rcases List.mem_cons.1 hs with rfl | hs
        · rw [double] at hc
          exact (other (by simpa [stars] using hc)).elim
        · exact ⟨s, hs, c, hc, other⟩
      have ne : rest ≠ [] := by
        rintro rfl
        obtain ⟨_, hs, _⟩ := solid'
        cases hs
      simp only [double, if_true, Bool.false_eq_true, if_false, ne] at h
      obtain ⟨more, hm, rfl⟩ := Option.map_eq_some_iff.1 h
      have := ih hm solid'
      simp [runAtoms, Atom.run, matchInner, this]
    · rw [if_neg double] at h
      obtain ⟨name, hn, h⟩ := Option.bind_eq_some_iff.1 h
      obtain ⟨names, hmany⟩ := inName_of_segment? hn
      obtain ⟨s, hs, c, hc, other⟩ := solid
      have empty (more : List Atom) (hm : s ∈ rest → runAtoms more [] = none) :
          runAtoms (name ++ more) [] = none := by
        refine runAtoms_nil names ?_
        rcases List.mem_cons.1 hs with rfl | hs
        · exact .inl (hmany c hc other)
        · exact .inr (hm hs)
      by_cases last : rest = []
      · rw [if_pos last] at h
        cases h
        refine ⟨rfl, ?_⟩
        rw [if_pos rfl, List.append_assoc, List.singleton_append, runAtoms_slash]
        exact empty _ fun hs => by simp [last] at hs
      · rw [if_neg last] at h
        obtain ⟨more, hm, rfl⟩ := Option.map_eq_some_iff.1 h
        refine ⟨rfl, ?_⟩
        rw [if_pos rfl, List.append_assoc, List.singleton_append, runAtoms_slash]
        exact empty _ fun hs => (ih hm ⟨s, hs, c, hc, other⟩).1

theorem solid_innerSegments {body : List Char} (h : Solid body) :
    ∃ seg ∈ innerSegments body, ∃ c ∈ seg, c ≠ '*' := by
  obtain ⟨c, hc, slash, star⟩ := h
  have mem : c ∈ innerText body := by
    unfold innerText
    split
    · exact (List.mem_cons.1 hc).resolve_left slash
    · split
      · exact hc
      · simp [hc]
  obtain ⟨part, hp, hcp⟩ := Text.exists_mem_splitChars '/' mem slash
  exact ⟨part, mem_finish hp (List.ne_nil_of_mem hcp), c, hcp, star⟩

/-- A pattern with more than slashes and stars does not match the directory it is bound to. -/
theorem runAtoms_behind_slash {body : List Char} {as : List Atom} (h : behind? body = some as)
    (solid : Solid body) : runAtoms as ['/'] = none :=
  (runAtoms_slash_of_solid h (solid_innerSegments solid)).2

/-! ## A pattern and the same behind a directory -/

/-- The last directory the pattern passes may be any, in front of a name as behind a slash. -/
theorem matchInner_slash (k : Rest) (seen : Bool) (cs : List Char) :
    matchInner (Atom.run k .slash) seen cs = matchLeading k seen cs := by
  induction cs generalizing seen with
  | nil => cases seen <;> rfl
  | cons c cs ih =>
    rw [matchInner, matchLeading]
    by_cases feed : c = '\n'
    · cases seen <;> simp [feed, Atom.run]
    · by_cases slash : c = '/'
      · cases seen <;> simp [slash, ih, Atom.run]
      · cases seen <;> simp [feed, slash, ih, Atom.run]

/-- Segments match behind a slash what they match at the front. -/
theorem runAtoms_front {isDir : Bool} {segs : List (List Char)} {as : List Atom} (ne : segs ≠ [])
    (h : segments? isDir false true segs = some as) (apart : ∀ rest, segs ≠ stars :: stars :: rest)
    (more : segs ≠ [stars]) : ∃ front, segments? isDir true false segs = some front ∧
      ∀ rel, runAtoms front rel = runAtoms as ('/' :: rel) := by
  rcases segments?_cases ne apart h with
    ⟨lone, -⟩ | ⟨seg, rest, front, rfl, hs, rfl, hf⟩ | ⟨seg, rest, front, rfl, -, rfl, hf⟩
  · exact (more lone).elim
  · refine ⟨.leadingDirs :: front, by simp [segments?, ← hf false], fun rel => ?_⟩
    have slash : runAtoms (.slash :: front) = Atom.run (runAtoms front) .slash := rfl
    show (matchLeading (runAtoms front) false rel).orElse _ =
      (matchInner (runAtoms (.slash :: front)) false rel).orElse _
    rw [slash, matchInner_slash]
    rfl
  · exact ⟨front, hf true, fun rel => (runAtoms_slash front rel).symm⟩

/-! ## Two slashes in a row -/

/-- Whether there is no empty name inside a path. -/
def Tidy (cs : List Char) : Prop := ¬ ['/', '/'] <:+: cs

theorem Tidy.tail {c : Char} {cs : List Char} (h : Tidy (c :: cs)) : Tidy cs :=
  fun twice => h (twice.trans (List.suffix_cons c cs).isInfix)

/-- The part of a path that is left to what follows. -/
def LeavesTo (k : Rest) (cs : List Char) : Prop := ∃ rest, rest <:+ cs ∧ k rest ≠ none

theorem LeavesTo.cons {k : Rest} {cs : List Char} (c : Char) (h : LeavesTo k cs) :
    LeavesTo k (c :: cs) := by
  obtain ⟨rest, suffix, hk⟩ := h
  exact ⟨rest, suffix.trans (List.suffix_cons c cs), hk⟩

theorem leavesTo_self {k : Rest} {cs : List Char} (h : k cs ≠ none) : LeavesTo k cs :=
  ⟨cs, List.suffix_rfl, h⟩

theorem orElse_ne_none {α : Type} {o : Option α} {f : Unit → Option α} (h : o.orElse f ≠ none) :
    o ≠ none ∨ f () ≠ none := by
  cases o with
  | none => exact .inr h
  | some a => exact .inl (by simp)

theorem leavesTo_of_matchMany {k : Rest} {cs : List Char} (h : matchMany k cs ≠ none) :
    LeavesTo k cs := by
  induction cs with
  | nil => exact leavesTo_self h
  | cons c cs ih =>
    rw [matchMany] at h
    split at h
    · exact leavesTo_self h
    · exact (orElse_ne_none h).elim (fun h => (ih h).cons c) leavesTo_self

theorem leavesTo_of_matchLeading {k : Rest} {seen : Bool} {cs : List Char}
    (h : matchLeading k seen cs ≠ none) : LeavesTo k cs := by
  induction cs generalizing seen with
  | nil => exact (h rfl).elim
  | cons c cs ih =>
    rw [matchLeading] at h
    split at h
    · exact (h rfl).elim
    · rcases orElse_ne_none h with h | h
      · exact (ih h).cons c
      · split at h
        · exact (leavesTo_self h).cons c
        · exact (h rfl).elim

theorem leavesTo_of_matchInner {k : Rest} {seen : Bool} {cs : List Char}
    (h : matchInner k seen cs ≠ none) : LeavesTo k cs := by
  induction cs generalizing seen with
  | nil =>
    cases seen with
    | true => exact leavesTo_self h
    | false => exact (h rfl).elim
  | cons c cs ih =>
    have here (h : (if seen then k (c :: cs) else none) ≠ none) : LeavesTo k (c :: cs) := by
      cases seen with
      | true => exact leavesTo_self h
      | false => exact (h rfl).elim
    rw [matchInner] at h
    split at h
    · exact here h
    · exact (orElse_ne_none h).elim (fun h => (ih h).cons c) here

/-- Any atom but the last one leaves a part of the path to what follows. -/
theorem Atom.leavesTo {a : Atom} (below : a ≠ .below) (close : a ≠ .close) {k : Rest} {cs : List Char}
    (h : a.run k cs ≠ none) : LeavesTo k cs := by
  revert h
  fun_cases Atom.run k a cs with
  | case1 | case4 | case8 | case13 => exact fun h => (leavesTo_self h).cons _
  | case5 => exact leavesTo_of_matchMany
  | case7 => exact fun h => (leavesTo_of_matchMany h).cons _
  | case10 => exact fun h => (orElse_ne_none h).elim leavesTo_of_matchLeading leavesTo_self
  | case11 =>
    exact fun h => (orElse_ne_none h).elim (fun h => (leavesTo_of_matchInner h).cons _) leavesTo_self
  | case12 => exact leavesTo_self
  | case14 => exact (below rfl).elim
  | case15 | case16 | case17 => exact (close rfl).elim
  | case2 | case3 | case6 | case9 | case18 => exact fun h => (h rfl).elim

theorem leavesTo_of_runAtoms {front more : List Atom} (open' : ∀ a ∈ front, a ≠ .below ∧ a ≠ .close)
    {cs : List Char} (h : runAtoms (front ++ more) cs ≠ none) : LeavesTo (runAtoms more) cs := by
  induction front generalizing cs with
  | nil => exact leavesTo_self h
  | cons a front ih =>
    obtain ⟨⟨below, close⟩, rest⟩ := List.forall_mem_cons.1 open'
    obtain ⟨cs', suffix, h⟩ := Atom.leavesTo below close h
    obtain ⟨cs'', suffix', h⟩ := ih rest h
    exact ⟨cs'', suffix'.trans suffix, h⟩

theorem Atom.ne_of_inName {a : Atom} (h : a.inName = true) : a ≠ .below ∧ a ≠ .close := by
  constructor <;> rintro rfl <;> cases h

/-- Whether atoms ask for two slashes in a row. -/
def AsksTwice (as : List Atom) : Prop :=
  ∃ front more, as = front ++ .slash :: more ∧ (∀ a ∈ front, a ≠ .below ∧ a ≠ .close) ∧
    ∀ cs, runAtoms more cs ≠ none → ∃ rel, cs = '/' :: rel

theorem AsksTwice.cons {a : Atom} (below : a ≠ .below) (close : a ≠ .close) {as : List Atom}
    (h : AsksTwice as) : AsksTwice (a :: as) := by
  obtain ⟨front, more, rfl, inner, slash⟩ := h
  exact ⟨a :: front, more, rfl, List.forall_mem_cons.2 ⟨⟨below, close⟩, inner⟩, slash⟩

/-- No tidy path has what they ask for. -/
theorem AsksTwice.runAtoms_eq_none {as : List Atom} (h : AsksTwice as) {cs : List Char}
    (tidy : Tidy cs) : runAtoms as cs = none := by
  obtain ⟨front, more, rfl, inner, slash⟩ := h
  refine Classical.byContradiction fun hm => ?_
  obtain ⟨cs', suffix, hm⟩ := leavesTo_of_runAtoms inner hm
  obtain ⟨rel, rfl⟩ := exists_of_runAtoms_slash hm
  rw [runAtoms_slash] at hm
  obtain ⟨rel, rfl⟩ := slash _ hm
  have twice : ['/', '/'] <+: '/' :: '/' :: rel := ⟨rel, rfl⟩
  exact tidy (twice.isInfix.trans suffix.isInfix)

/-- An empty segment behind a name stands between two slashes. -/
theorem asksTwice_of_segments? {isDir first : Bool} {name : List Char} {segs : List (List Char)}
    {as : List Atom} (hn : name ≠ stars) (ne : segs ≠ [])
    (apart : ∀ rest, segs ≠ stars :: stars :: rest)
    (h : segments? isDir first false (name :: [] :: segs) = some as) : AsksTwice as := by
  rw [segments?, if_neg hn, if_neg (by simp)] at h
  obtain ⟨front, hf, h⟩ := Option.bind_eq_some_iff.1 h
  obtain ⟨rest, hr, rfl⟩ := Option.map_eq_some_iff.1 h
  have empty : segment? [] = some [] := rfl
  rw [segments?, if_neg (by decide), empty, Option.bind_some, if_neg ne] at hr
  obtain ⟨more, hm, rfl⟩ := Option.map_eq_some_iff.1 hr
  refine ⟨front, more, by simp, fun a ha => ?_, fun cs => exists_of_runAtoms_segments? ne apart hm⟩
  exact Atom.ne_of_inName ((inName_of_segment? hf).1 a ha)

/-! ## The normal form behind a directory -/

theorem splitChars_slashes {s : List Char} (h : '/' ∉ s) (k : Nat) :
    Text.splitChars '/' (s ++ List.replicate k '/') = s :: List.replicate k [] := by
  cases k with
  | zero => simpa using Text.splitChars_of_notMem h
  | succ k =>
    have rest (k : Nat) : Text.splitChars '/' (List.replicate k '/') = List.replicate (k + 1) [] := by
      induction k with
      | zero => rfl
      | succ k ih => rw [List.replicate_succ, Text.splitChars, if_pos rfl, ih, ← List.replicate_succ]
    rw [List.replicate_succ, Text.splitChars_append, Text.splitChars_of_notMem h, rest]
    rfl

/-- A slash inside binds a pattern to its directory, as putting the directory in front does. -/
theorem normalSegments_of_inner {body : List Char} (rooted : body.head? ≠ some '/')
    (inner : '/' ∈ Text.trimEndBy (· == '/') body) :
    normalSegments (Text.splitChars '/' body) = finish (Text.splitChars '/' body) := by
  obtain ⟨tail, hbody, -⟩ := Text.exists_trimEndBy_append (· == '/') body
  obtain ⟨first, rest, hin, noSlash⟩ := List.eq_append_cons_of_mem inner
  have ne : first ≠ [] := by
    rintro rfl
    exact rooted (by rw [hbody, hin]; rfl)
  -- What is kept does not end with a slash, so something else follows the first one.
  obtain ⟨c, hc, other⟩ : ∃ c ∈ rest, c ≠ '/' := by
    cases hr : rest.getLast? with
    | none =>
      have last := Text.last_trimEndBy (· == '/') body (c := '/')
        (by simp [hin, List.getLast?_eq_none_iff.1 hr])
      simp at last
    | some c =>
      have last := Text.last_trimEndBy (· == '/') body (c := c)
        (by simp [hin, List.getLast?_cons, hr])
      exact ⟨c, List.mem_of_getLast? hr, by simpa using last⟩
  obtain ⟨part, hp, hcp⟩ := Text.exists_mem_splitChars '/' (List.mem_append_left tail hc) other
  rw [hbody, hin, List.append_assoc, List.cons_append, Text.splitChars_append,
    Text.splitChars_of_notMem noSlash, List.singleton_append]
  refine normalSegments_eq_finish ne (Text.splitChars_ne_nil '/' _) fun e => ?_
  rw [e, List.mem_singleton] at hp
  rw [hp] at hcp
  cases hcp

/-- A name is free to stand at any depth, with one slash at its end or none; with more it is not. -/
theorem normalSegments_of_name {name : List Char} (ne : name ≠ []) (other : name ≠ stars) (k : Nat) :
    normalSegments (name :: List.replicate k []) = finish (stars :: name :: List.replicate k []) ∨
    ∃ segs, segs ≠ [] ∧ (∀ rest, segs ≠ stars :: stars :: rest) ∧
      normalSegments (name :: List.replicate k []) = name :: [] :: segs ∧
      finish (stars :: name :: List.replicate k []) = stars :: name :: [] :: segs := by
  rcases k with _ | _ | k
  · exact .inl (normalSegments_name ne other).1
  · exact .inl (normalSegments_name ne other).2
  · have segs : finish (name :: List.replicate (k + 2) []) =
        name :: [] :: finish (List.replicate (k + 1) []) := by
      rw [finish_cons other (by simp), List.replicate_succ, finish_cons (by decide) (by simp)]
    refine .inr ⟨finish (List.replicate (k + 1) []), finish_ne_nil (by simp), finish_ne_twins _, ?_, ?_⟩
    · rw [normalSegments_eq_finish ne (by simp) (by simp [List.replicate_succ]), segs]
    · rw [finish_stars other (by simp), segs]

/-- The normal form of a pattern is the same behind a directory, unless it is a name with two or more
slashes at its end. -/
theorem normalSegments_cases {body : List Char} (solid : Solid body) :
    normalSegments (Text.splitChars '/' body) = innerSegments body ∨
    ∃ name segs, name ≠ stars ∧ segs ≠ [] ∧ (∀ rest, segs ≠ stars :: stars :: rest) ∧
      normalSegments (Text.splitChars '/' body) = name :: [] :: segs ∧
      innerSegments body = stars :: name :: [] :: segs := by
  unfold innerSegments innerText
  split
  · next rest =>
    left
    rw [Text.splitChars, if_pos rfl, normalSegments_rooted]
  · next rooted =>
    split
    · next inner =>
      left
      refine normalSegments_of_inner (fun h => ?_) inner
      obtain ⟨rest, rfl⟩ := List.head?_eq_some_iff.1 h
      exact rooted rest rfl
    · next plain =>
      obtain ⟨tail, hbody, htail⟩ := Text.exists_trimEndBy_append (· == '/') body
      obtain ⟨k, rfl⟩ : ∃ k, tail = List.replicate k '/' :=
        ⟨tail.length, List.eq_replicate_of_mem fun c hc => by simpa using htail c hc⟩
      generalize Text.trimEndBy (· == '/') body = name at hbody plain
      obtain ⟨c, hc, slash, star⟩ := solid
      have mem : c ∈ name := by
        rw [hbody] at hc
        exact (List.mem_append.1 hc).resolve_right fun h => slash (List.eq_of_mem_replicate h)
      have other : name ≠ stars := by
        rintro rfl
        exact star (by simpa [stars] using mem)
      rw [Text.splitChars_append, hbody, splitChars_slashes plain]
      rcases normalSegments_of_name (List.ne_nil_of_mem mem) other k with e | ⟨segs, ne, apart, raw, deep⟩
      · exact .inl e
      · exact .inr ⟨name, segs, other, ne, apart, raw, deep⟩

/-- **The same inside.** In the directory a pattern with more than slashes and stars matches what it
matches on its own. -/
theorem exists_shape?_of_behind {body : List Char} {as : List Atom} (solid : Solid body)
    (h : behind? body = some as) : ∃ s, shape? body = some s ∧
      ∀ rel, Tidy ('/' :: rel) → s.run rel = runAtoms as ('/' :: rel) := by
  obtain ⟨seg, hseg, c, hc, star⟩ := solid_innerSegments solid
  have two : seg ≠ stars := by
    rintro rfl
    exact star (by simpa [stars] using hc)
  have one : seg ≠ ['*'] := by
    rintro rfl
    exact star (by simpa using hc)
  unfold behind? at h
  unfold shape?
  rcases normalSegments_cases solid with e | ⟨name, segs, hn, ne, apart, hraw, hin⟩
  · have lone : innerSegments body ≠ [stars] := by
      intro e
      rw [e, List.mem_singleton] at hseg
      exact two hseg
    obtain ⟨front, hf, same⟩ :=
      runAtoms_front (innerSegments_ne_nil body) h (finish_ne_twins _) lone
    rw [e, if_neg (innerSegments_ne_nil body), toOption_shapeOf hseg two one, hf]
    exact ⟨.atoms front, rfl, fun rel _ => same rel⟩
  · rw [hin] at h
    rcases segments?_cases (by simp) (by simp [hn]) h with
      ⟨e, -⟩ | ⟨_, _, front, e, -, rfl, hf⟩ | ⟨_, _, _, e, two', -⟩
    · simp at e
    · obtain ⟨rfl, rfl⟩ := List.cons.inj (List.cons.inj e).2
      have asks (first : Bool) : AsksTwice front := asksTwice_of_segments? hn ne apart (hf first)
      have empty : ([] : List Char) ∈ name :: [] :: segs := by simp
      rw [hraw, if_neg (by simp), toOption_shapeOf empty (by decide) (by decide), hf]
      refine ⟨.atoms front, rfl, fun rel tidy => ?_⟩
      rw [(((asks true).cons (by simp) (by simp)).cons (by simp) (by simp)).runAtoms_eq_none tidy]
      exact (asks true).runAtoms_eq_none tidy.tail
    · exact (two' (List.cons.inj e).1.symm).elim

end DomainAtlas.Glob
