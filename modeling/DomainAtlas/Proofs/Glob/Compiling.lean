import DomainAtlas.Glob.Pattern

/-!
# What a pattern compiles to

Reading a pattern counts the characters of the expression it stands for, which only faults show. The
atoms are the same wherever a segment stands (`segmentAtoms_place`), so a pattern can be read segment by
segment without that count (`segments?`).

Results:
* `toOption_segmentsAtoms`: reading segments with and without the count gives the same atoms.
* `finish_ne_twins`, `finish_append`: the normal form of segments, behind a part of plain ones.
* `segments?_append`: plain segments in front stand for themselves.
-/
namespace DomainAtlas.Glob

/-! ## Places do not matter -/

theorem toOption_map {ε α β : Type} (f : α → β) (r : Except ε α) :
    (r.map f).toOption = r.toOption.map f := by
  cases r <;> rfl

theorem toOption_precede (a : Atom) (r : Except SegmentFault (List Atom × Nat)) :
    (precede a r).toOption.map Prod.fst = (r.toOption.map Prod.fst).map (a :: ·) := by
  cases r <;> rfl

theorem bracketRanges_place (p q : Nat) (cs : List Char) :
    (bracketRanges p cs).toOption = (bracketRanges q cs).toOption := by
  fun_induction bracketRanges p cs generalizing q with
  | case1 => simp [bracketRanges]
  | case2 p c d cs h => simp [bracketRanges, h, Except.toOption]
  | case3 p c d cs h width ih => rw [bracketRanges, if_neg h, toOption_map, toOption_map, ih]
  | case4 p c cs h ih =>
    rw [bracketRanges, toOption_map, toOption_map, ih]
    exact h

/-- Whether a bracket is negated, and what follows the sign. -/
def bracketSign : List Char → Bool × List Char
  | '!' :: rest => (true, rest)
  | '^' :: rest => (true, rest)
  | rest => (false, rest)

/-- A bracket in a segment. -/
theorem segmentAtoms_bracket (fuel place : Nat) (cs : List Char) :
    segmentAtoms (fuel + 1) place ('[' :: cs) =
      match bracketBody? (bracketSign cs).2 with
      | none => precede (.char '[') (segmentAtoms fuel (place + 2) cs)
      | some (inner, after) =>
        match bracketRanges (place + if (bracketSign cs).1 then 2 else 1) inner with
        | .error (low, high, at') => .error (.badRange low high at')
        | .ok ranges =>
          precede (.bracket ⟨(bracketSign cs).1, ranges⟩) (segmentAtoms fuel
            (place + (if (bracketSign cs).1 then 2 else 1) +
              (inner.map fun c => (bracketToken c).length).foldl (· + ·) 1) after) := by
  rfl

/-- The atoms of a segment are the same wherever it stands. -/
theorem segmentAtoms_place (fuel p q : Nat) (cs : List Char) :
    (segmentAtoms fuel p cs).toOption.map Prod.fst =
      (segmentAtoms fuel q cs).toOption.map Prod.fst := by
  fun_induction segmentAtoms fuel p cs generalizing q with
  | case1 => simp [segmentAtoms, Except.toOption]
  | case2 => simp [segmentAtoms, Except.toOption]
  | case3 => simp [segmentAtoms, Except.toOption]
  | case4 fuel p c cs ih => rw [segmentAtoms, toOption_precede, toOption_precede, ih]
  | case5 fuel p cs ih => rw [segmentAtoms, toOption_precede, toOption_precede, ih]
  | case6 fuel p cs ih => rw [segmentAtoms, toOption_precede, toOption_precede, ih]
  | case7 fuel p cs negated body sign unclosed ih =>
    replace sign : bracketSign cs = (negated, body) := sign
    rw [segmentAtoms_bracket]
    simp only [sign, unclosed, toOption_precede]
    rw [ih]
  | case8 fuel p cs negated body sign inner after closed start low high place bad =>
    replace sign : bracketSign cs = (negated, body) := sign
    have bad' := bracketRanges_place start (q + if negated then 2 else 1) inner
    rw [bad] at bad'
    rw [segmentAtoms_bracket]
    cases h : bracketRanges (q + if negated then 2 else 1) inner with
    | error e => simp only [sign, closed, h, Except.toOption]
    | ok ranges => simp [h, Except.toOption] at bad'
  | case9 fuel p cs negated body sign inner after closed start ranges good width ih =>
    replace sign : bracketSign cs = (negated, body) := sign
    have good' := bracketRanges_place start (q + if negated then 2 else 1) inner
    rw [good] at good'
    rw [segmentAtoms_bracket]
    cases h : bracketRanges (q + if negated then 2 else 1) inner with
    | error e => simp [h, Except.toOption] at good'
    | ok ranges' =>
      obtain rfl : ranges = ranges' := by simpa [h, Except.toOption] using good'
      simp only [sign, closed, h, toOption_precede]
      rw [ih]
  | case10 fuel p c cs escape escaped star one bracket ih =>
    rw [segmentAtoms, toOption_precede, toOption_precede, ih]
    all_goals assumption

def segment? (seg : List Char) : Option (List Atom) :=
  if seg = ['*'] then some [.name]
  else (segmentAtoms (seg.length + 1) 0 seg).toOption.map Prod.fst

def segments? (isDir : Bool) : Bool → Bool → List (List Char) → Option (List Atom)
  | _, _, [] => some []
  | first, slash, seg :: rest =>
    if seg = stars then
      if first then (segments? isDir false false rest).map (.leadingDirs :: ·)
      else if rest = [] then some [if isDir then .below else .slash]
      else (segments? isDir false true rest).map (.innerDirs :: ·)
    else
      (segment? seg).bind fun as =>
        if rest = [] then some ((if slash then [.slash] else []) ++ as ++ [.close])
        else (segments? isDir false true rest).map fun more =>
          (if slash then [.slash] else []) ++ as ++ more

theorem toOption_segmentsAtoms (isDir first slash : Bool) (p : Nat) (segs : List (List Char)) :
    (segmentsAtoms isDir first slash p segs).toOption = segments? isDir first slash segs := by
  induction segs generalizing first slash p with
  | nil => rfl
  | cons seg rest ih =>
    rw [segmentsAtoms, segments?]
    by_cases double : seg = stars
    · simp only [double, if_true, List.isEmpty_iff]
      cases first with
      | true => simp only [if_true, toOption_map, ih]
      | false =>
        by_cases last : rest = []
        · simp [last, Except.toOption]
        · simp only [Bool.false_eq_true, last, if_false, toOption_map, ih]
    · simp only [double, if_false]
      generalize p + (if first then 1 else 0) + (if slash then 1 else 0) = place
      have read : (if seg = ['*'] then Except.ok ([.name], place + 5)
          else segmentAtoms (seg.length + 1) place seg).toOption.map Prod.fst = segment? seg := by
        unfold segment?
        split
        · rfl
        · exact segmentAtoms_place _ _ _ _
      rw [← read]
      generalize (if seg = ['*'] then Except.ok ([.name], place + 5)
        else segmentAtoms (seg.length + 1) place seg) = body
      cases body with
      | error e => rfl
      | ok r =>
        obtain ⟨as, place'⟩ := r
        by_cases last : rest = []
        · simp [last, Except.toOption]
        · simp only [List.isEmpty_iff, last, if_false, toOption_map, ih]
          rfl

/-! ## The normal form -/

/-- A slash at the end stands for everything below. -/
def closeDir (segs : List (List Char)) : List (List Char) :=
  match segs.reverse with
  | [] :: rest => (stars :: rest).reverse
  | _ => segs

/-- The normal form of segments that are bound to a directory. -/
def finish (segs : List (List Char)) : List (List Char) := collapse (closeDir segs)

theorem normalSegments_rooted (segs : List (List Char)) : normalSegments ([] :: segs) = finish segs := rfl

/-- Segments with a slash inside are bound. -/
theorem normalSegments_eq_finish {first : List Char} {segs : List (List Char)} (h : first ≠ [])
    (ne : segs ≠ []) (more : segs ≠ [[]]) : normalSegments (first :: segs) = finish (first :: segs) := by
  obtain ⟨next, segs, rfl⟩ := List.exists_cons_of_ne_nil ne
  obtain ⟨c, cs, rfl⟩ := List.exists_cons_of_ne_nil h
  cases next with
  | cons _ _ => cases segs <;> rfl
  | nil =>
    cases segs with
    | nil => exact absurd rfl more
    | cons _ _ => rfl

/-- A segment on its own applies at any depth. -/
theorem normalSegments_name {s : List Char} (ne : s ≠ []) (h : s ≠ stars) :
    normalSegments [s] = finish [stars, s] ∧ normalSegments [s, []] = finish [stars, s, []] := by
  obtain ⟨c, cs, rfl⟩ := List.exists_cons_of_ne_nil ne
  simp only [normalSegments, h, if_false]
  exact ⟨rfl, rfl⟩

theorem closeDir_cons (a : List Char) {segs : List (List Char)} (ne : segs ≠ []) :
    closeDir (a :: segs) = a :: closeDir segs := by
  obtain ⟨last, rest, hr⟩ := List.exists_cons_of_ne_nil (List.reverse_ne_nil_iff.2 ne)
  rw [closeDir, closeDir, List.reverse_cons, hr]
  cases last with
  | nil => simp
  | cons c cs => rfl

theorem closeDir_ne_nil {segs : List (List Char)} (h : segs ≠ []) : closeDir segs ≠ [] := by
  unfold closeDir
  split
  · simp
  · exact h

theorem head?_collapse (segs : List (List Char)) : (collapse segs).head? = segs.head? := by
  fun_induction collapse segs with
  | case1 a b rest twins ih => rw [ih, List.head?_cons, List.head?_cons, twins.1, twins.2]
  | case2 a b rest apart ih => rfl
  | case3 segs h => rfl

theorem collapse_ne_nil {segs : List (List Char)} (h : segs ≠ []) : collapse segs ≠ [] := by
  intro e
  have := head?_collapse segs
  rw [e] at this
  exact h (List.head?_eq_none_iff.1 this.symm)

/-- No two stars in a row are left. -/
theorem collapse_ne_twins (segs rest : List (List Char)) : collapse segs ≠ stars :: stars :: rest := by
  fun_induction collapse segs with
  | case1 a b more twins ih => exact ih
  | case2 a b more apart ih =>
    intro e
    obtain ⟨rfl, tail⟩ := List.cons.inj e
    have head := head?_collapse (b :: more)
    rw [tail] at head
    exact apart ⟨rfl, (Option.some.inj head).symm⟩
  | case3 segs h =>
    rintro rfl
    exact h _ _ _ rfl

theorem collapse_cons {a : List Char} (h : a ≠ stars) (segs : List (List Char)) :
    collapse (a :: segs) = a :: collapse segs := by
  cases segs with
  | nil => rfl
  | cons b rest => rw [collapse, if_neg fun e => h e.1]

theorem mem_collapse_iff {segs : List (List Char)} {seg : List Char} :
    seg ∈ collapse segs ↔ seg ∈ segs := by
  fun_induction collapse segs with
  | case1 a b rest twins ih =>
    rw [ih, twins.1, twins.2]
    simp
  | case2 a b rest apart ih => rw [List.mem_cons, ih, ← List.mem_cons]
  | case3 segs h => rfl

theorem finish_ne_nil {segs : List (List Char)} (h : segs ≠ []) : finish segs ≠ [] :=
  collapse_ne_nil (closeDir_ne_nil h)

theorem finish_ne_twins (segs rest : List (List Char)) : finish segs ≠ stars :: stars :: rest :=
  collapse_ne_twins _ rest

/-- Segments other than two stars stay in front. -/
theorem finish_cons {a : List Char} (h : a ≠ stars) {segs : List (List Char)} (ne : segs ≠ []) :
    finish (a :: segs) = a :: finish segs := by
  rw [finish, closeDir_cons a ne, collapse_cons h, finish]

/-- Two stars stay in front of anything else. -/
theorem finish_stars {a : List Char} (h : a ≠ stars) {segs : List (List Char)} (ne : segs ≠ []) :
    finish (stars :: a :: segs) = stars :: finish (a :: segs) := by
  rw [finish, finish, closeDir_cons stars (by simp), closeDir_cons a ne, collapse,
    if_neg fun e => h e.2]

theorem finish_append {names segs : List (List Char)} (h : ∀ n ∈ names, n ≠ stars) (ne : segs ≠ []) :
    finish (names ++ segs) = names ++ finish segs := by
  induction names with
  | nil => rfl
  | cons n names ih =>
    obtain ⟨hn, hns⟩ := List.forall_mem_cons.1 h
    rw [List.cons_append, finish_cons hn (by simp [ne]), ih hns]
    rfl

/-- Segments that are no empty ones and no two stars are kept. -/
theorem mem_finish {segs : List (List Char)} {seg : List Char} (h : seg ∈ segs) (ne : seg ≠ []) :
    seg ∈ finish segs := by
  rw [finish, mem_collapse_iff, closeDir]
  split
  · next rest hr =>
    have : seg ∈ segs.reverse := List.mem_reverse.2 h
    rw [hr] at this
    simp [(List.mem_cons.1 this).resolve_left ne]
  · exact h

/-! ## Plain segments -/

/-- Characters that stand for themselves in a pattern. -/
def Plain (cs : List Char) : Prop := ∀ c ∈ cs, c ≠ '*' ∧ c ≠ '?' ∧ c ≠ '[' ∧ c ≠ '\\'

instance : DecidablePred Plain :=
  List.decidableBAll fun c => c ≠ '*' ∧ c ≠ '?' ∧ c ≠ '[' ∧ c ≠ '\\'

theorem Plain.ne_stars {seg : List Char} (h : Plain seg) : seg ≠ stars := by
  rintro rfl
  exact (h '*' (by simp [stars])).1 rfl

theorem Plain.ne_star {seg : List Char} (h : Plain seg) : seg ≠ ['*'] := by
  rintro rfl
  exact (h '*' (by simp)).1 rfl

theorem segment?_plain {seg : List Char} (h : Plain seg) : segment? seg = some (seg.map .char) := by
  have read (fuel p : Nat) (cs : List Char) (plain : Plain cs) (enough : cs.length < fuel) :
      (segmentAtoms fuel p cs).toOption.map Prod.fst = some (cs.map .char) := by
    induction cs generalizing fuel p with
    | nil =>
      obtain ⟨fuel, rfl⟩ := Nat.exists_eq_succ_of_ne_zero (Nat.ne_of_gt enough)
      rfl
    | cons c cs ih =>
      obtain ⟨fuel, rfl⟩ := Nat.exists_eq_succ_of_ne_zero (Nat.ne_of_gt (Nat.zero_lt_of_lt enough))
      obtain ⟨⟨star, one, bracket, escape⟩, rest⟩ := List.forall_mem_cons.1 plain
      rw [segmentAtoms, toOption_precede, ih _ _ rest (by simpa using enough)]
      · rfl
      · exact fun e => (escape e).elim
      · exact fun _ _ e => (escape e).elim
      · exact star
      · exact one
      · exact bracket
  unfold segment?
  split
  · next e => exact ((h '*' (by simp [e])).1 rfl).elim
  · exact read _ _ seg h (Nat.lt_succ_self _)

/-- The atoms of a plain path. -/
def literal (cs : List Char) : List Atom := cs.map fun c => if c = '/' then .slash else .char c

theorem literal_of_notMem {cs : List Char} (h : '/' ∉ cs) : literal cs = cs.map .char :=
  List.map_congr_left fun _ hc => if_neg fun e => h (by rwa [e] at hc)

/-- Plain segments in front stand for themselves, with a slash between any two. -/
theorem segments?_append {names segs : List (List Char)} (plain : ∀ n ∈ names, Plain n)
    (noSlash : ∀ n ∈ names, '/' ∉ n) (ne : names ≠ []) (ne' : segs ≠ []) (isDir first slash : Bool) :
    segments? isDir first slash (names ++ segs) = (segments? isDir false true segs).map fun as =>
      (if slash then [.slash] else []) ++ literal (['/'].intercalate names) ++ as := by
  induction names generalizing first slash with
  | nil => exact absurd rfl ne
  | cons n names ih =>
    obtain ⟨hn, hns⟩ := List.forall_mem_cons.1 plain
    obtain ⟨sn, sns⟩ := List.forall_mem_cons.1 noSlash
    rw [List.cons_append, segments?, if_neg hn.ne_stars, segment?_plain hn, Option.bind_some]
    cases names with
    | nil => simp [ne', literal_of_notMem sn]
    | cons next names =>
      rw [if_neg (by simp), ih hns sns (by simp), Option.map_map]
      congr 1
      funext as
      have inner : literal (['/'].intercalate (n :: next :: names)) =
          n.map .char ++ .slash :: literal (['/'].intercalate (next :: names)) := by
        rw [← literal_of_notMem sn, List.intercalate_cons_cons, List.append_assoc]
        simp [literal]
      rw [Function.comp_apply, inner]
      simp

end DomainAtlas.Glob
