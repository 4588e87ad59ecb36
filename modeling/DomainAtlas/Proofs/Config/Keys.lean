import DomainAtlas.Config.Merge

/-!
# Keys of mappings

A mapping is a list of entries in which keys are compared with `Datum.sameKey`: numbers by their
value, whatever their kind, points in time whatever clock they were read from, pairs place by
place. The comparison is symmetric and transitive, but a value need not be the same as itself: what
cannot be a key at all, such as a list, is not.

`Datum.Apart` says that no two entries have the same key.

Results:
* `Datum.sameKey_symm`, `Datum.sameKey_trans`, `Datum.sameKey_congr`: the comparison of keys.
* `Datum.find?_setEntry`, `Datum.keys_setEntry`: what setting an entry does to lookups and to the order.
* `Datum.setEntry_of_find?`: setting what is there already changes nothing.
-/
namespace DomainAtlas.Datum

/-! ## The comparison -/

/-- Scalars are the same key when they are the same as keys. -/
theorem sameScalar_iff {a b : Datum} :
    sameScalar a b = true ↔ ∃ k, a.scalarKey? = some k ∧ b.scalarKey? = some k := by
  unfold sameScalar
  split
  · next k l ha hb =>
    rw [ha, hb, beq_iff_eq]
    constructor
    · rintro rfl
      exact ⟨k, rfl, rfl⟩
    · rintro ⟨_, ⟨⟩, ⟨⟩⟩
      rfl
  · next none_left =>
    refine ⟨fun h => absurd h Bool.false_ne_true, ?_⟩
    rintro ⟨k, ha, hb⟩
    exact absurd hb (none_left k k ha)

theorem sameScalar_symm {a b : Datum} (h : sameScalar a b = true) : sameScalar b a = true := by
  obtain ⟨k, ha, hb⟩ := sameScalar_iff.1 h
  exact sameScalar_iff.2 ⟨k, hb, ha⟩

theorem sameScalar_trans {a b c : Datum} (hab : sameScalar a b = true)
    (hbc : sameScalar b c = true) : sameScalar a c = true := by
  obtain ⟨k, ha, hb⟩ := sameScalar_iff.1 hab
  obtain ⟨l, hb', hc⟩ := sameScalar_iff.1 hbc
  obtain rfl := Option.some.inj (hb.symm.trans hb')
  exact sameScalar_iff.2 ⟨k, ha, hc⟩

/-- A tuple is no scalar. -/
theorem ne_tuple_of_sameScalar {a b : Datum} (h : sameScalar a b = true) :
    (∀ as, a ≠ .tuple as) ∧ ∀ bs, b ≠ .tuple bs := by
  obtain ⟨k, ha, hb⟩ := sameScalar_iff.1 h
  constructor
  · rintro as rfl
    cases ha
  · rintro bs rfl
    cases hb

theorem sameKey_cases {a b : Datum} (h : sameKey a b = true) :
    (∃ as bs, a = .tuple as ∧ b = .tuple bs ∧ sameKeys as bs = true) ∨ sameScalar a b = true := by
  rw [sameKey.eq_def] at h
  split at h
  · next as bs => exact .inl ⟨as, bs, rfl, rfl, h⟩
  · exact .inr h

theorem sameKey_of_sameScalar {a b : Datum} (h : sameScalar a b = true) : sameKey a b = true := by
  rw [sameKey.eq_def]
  split
  · exact absurd rfl ((ne_tuple_of_sameScalar h).1 _)
  · exact h

theorem sameKeys_cons_iff {a : Datum} {as bs : List Datum} :
    sameKeys (a :: as) bs = true ↔
      ∃ b rest, bs = b :: rest ∧ sameKey a b = true ∧ sameKeys as rest = true := by
  cases bs with
  | nil => simp [sameKeys]
  | cons b rest => simp [sameKeys, and_assoc]

theorem sizeOf_lt_of_mem_tuple {a x : Datum} {as : List Datum} (ha : a = .tuple as) (hx : x ∈ as) :
    sizeOf x < sizeOf a := by
  have := List.sizeOf_lt_of_mem hx
  rw [ha, tuple.sizeOf_spec]
  omega

theorem sameKeys_symm {as : List Datum}
    (each : ∀ a ∈ as, ∀ b, sameKey a b = true → sameKey b a = true) {bs : List Datum}
    (h : sameKeys as bs = true) : sameKeys bs as = true := by
  induction as generalizing bs with
  | nil =>
    cases bs with
    | nil => rfl
    | cons b bs => exact h
  | cons a as ih =>
    obtain ⟨first, others⟩ := List.forall_mem_cons.1 each
    obtain ⟨b, rest, rfl, same, more⟩ := sameKeys_cons_iff.1 h
    exact sameKeys_cons_iff.2 ⟨a, as, rfl, first b same, ih others more⟩

theorem sameKey_symm (a b : Datum) (h : sameKey a b = true) : sameKey b a = true := by
  rcases sameKey_cases h with ⟨as, bs, ha, hb, same⟩ | same
  · have inside : ∀ x ∈ as, ∀ y, sameKey x y = true → sameKey y x = true := fun x hx y =>
      have := sizeOf_lt_of_mem_tuple ha hx
      sameKey_symm x y
    rw [ha, hb, sameKey]
    exact sameKeys_symm inside same
  · exact sameKey_of_sameScalar (sameScalar_symm same)
termination_by sizeOf a

theorem sameKeys_trans {as : List Datum}
    (each : ∀ a ∈ as, ∀ b c, sameKey a b = true → sameKey b c = true → sameKey a c = true)
    {bs cs : List Datum} (hab : sameKeys as bs = true) (hbc : sameKeys bs cs = true) :
    sameKeys as cs = true := by
  induction as generalizing bs cs with
  | nil =>
    cases bs with
    | nil => exact hbc
    | cons b bs => cases hab
  | cons a as ih =>
    obtain ⟨first, others⟩ := List.forall_mem_cons.1 each
    obtain ⟨b, bs, rfl, same, more⟩ := sameKeys_cons_iff.1 hab
    obtain ⟨c, cs, rfl, same', more'⟩ := sameKeys_cons_iff.1 hbc
    exact sameKeys_cons_iff.2 ⟨c, cs, rfl, first b c same same', ih others more more'⟩

theorem sameKey_trans (a b c : Datum) (hab : sameKey a b = true) (hbc : sameKey b c = true) :
    sameKey a c = true := by
  rcases sameKey_cases hab with ⟨as, bs, ha, hb, same⟩ | same
  · rcases sameKey_cases hbc with ⟨bs', cs, hb', hc, same'⟩ | same'
    · have inside : ∀ x ∈ as, ∀ y z, sameKey x y = true → sameKey y z = true → sameKey x z = true :=
        fun x hx y z =>
          have := sizeOf_lt_of_mem_tuple ha hx
          sameKey_trans x y z
      obtain rfl := Datum.tuple.inj (hb.symm.trans hb')
      rw [ha, hc, sameKey]
      exact sameKeys_trans inside same same'
    · exact absurd hb ((ne_tuple_of_sameScalar same').1 bs)
  · rcases sameKey_cases hbc with ⟨bs, _, hb, -⟩ | same'
    · exact absurd hb ((ne_tuple_of_sameScalar same).2 bs)
    · exact sameKey_of_sameScalar (sameScalar_trans same same')
termination_by sizeOf a

/-- Keys that are the same are the same as the same keys. -/
theorem sameKey_congr {a b : Datum} (h : sameKey a b = true) (c : Datum) :
    sameKey a c = sameKey b c := by
  rw [Bool.eq_iff_iff]
  exact ⟨sameKey_trans b a c (sameKey_symm a b h), sameKey_trans a b c h⟩

theorem sameKey_comm (a b : Datum) : sameKey a b = sameKey b a := by
  rw [Bool.eq_iff_iff]
  exact ⟨sameKey_symm a b, sameKey_symm b a⟩

/-! ## Entries -/

variable {es : List (Datum × Datum)} {k v : Datum}

theorem find?_cons (k k' v : Datum) (es : List (Datum × Datum)) :
    find? k ((k', v) :: es) = if sameKey k' k then some v else find? k es := rfl

/-- A key that is the same finds the same. -/
theorem find?_congr {k' : Datum} (h : sameKey k k' = true) : find? k es = find? k' es := by
  induction es with
  | nil => rfl
  | cons e es ih =>
    obtain ⟨k₀, v₀⟩ := e
    rw [find?_cons, find?_cons, ih, sameKey_comm k₀ k, sameKey_congr h, sameKey_comm k']

theorem find?_eq_none (h : ∀ e ∈ es, sameKey e.1 k = false) : find? k es = none := by
  induction es with
  | nil => rfl
  | cons e es ih =>
    obtain ⟨k₀, v₀⟩ := e
    rw [find?_cons, h _ List.mem_cons_self, if_neg Bool.false_ne_true,
      ih fun e he => h e (List.mem_cons_of_mem _ he)]

/-- Setting an entry is seen under its key, and under no other. -/
theorem find?_setEntry (k v : Datum) (es : List (Datum × Datum)) (k' : Datum) :
    find? k' (setEntry k v es) = if sameKey k k' then some v else find? k' es := by
  induction es with
  | nil => rfl
  | cons e es ih =>
    obtain ⟨k₀, v₀⟩ := e
    rw [setEntry]
    split
    · next same =>
      rw [find?_cons, find?_cons, sameKey_congr same]
      split <;> rfl
    · next other =>
      rw [find?_cons, find?_cons, ih]
      split
      · next same =>
        -- The key `k'` is that of the first entry, so it is not `k`.
        have apart : ¬ sameKey k k' = true := fun h =>
          other (sameKey_trans k₀ k' k same (sameKey_symm k k' h))
        rw [if_neg apart]
      · rfl

/-- A key keeps its place, and a new one goes to the end. -/
theorem keys_setEntry (k v : Datum) (es : List (Datum × Datum)) :
    (setEntry k v es).map Prod.fst =
      es.map Prod.fst ++ if (find? k es).isSome then [] else [k] := by
  induction es with
  | nil => rfl
  | cons e es ih =>
    obtain ⟨k₀, v₀⟩ := e
    rw [setEntry, find?_cons]
    split
    · simp
    · rw [List.map_cons, ih]
      rfl

theorem setEntry_of_find? (h : find? k es = some v) : setEntry k v es = es := by
  induction es with
  | nil => cases h
  | cons e es ih =>
    obtain ⟨k₀, v₀⟩ := e
    rw [find?_cons] at h
    rw [setEntry]
    split
    · next same =>
      rw [if_pos same] at h
      rw [Option.some.inj h]
    · next other =>
      rw [if_neg other] at h
      rw [ih h]

theorem setEntry_of_find?_none (h : find? k es = none) (v : Datum) :
    setEntry k v es = es ++ [(k, v)] := by
  induction es with
  | nil => rfl
  | cons e es ih =>
    obtain ⟨k₀, v₀⟩ := e
    rw [find?_cons] at h
    rw [setEntry]
    split
    · next same =>
      rw [if_pos same] at h
      cases h
    · next other =>
      rw [if_neg other] at h
      rw [ih h, List.cons_append]

/-- No two entries have the same key. -/
def Apart (es : List (Datum × Datum)) : Prop := es.Pairwise fun e f => sameKey e.1 f.1 = false

/-- In a mapping without repeated keys an entry is found under its key, if the key is the same as
itself. -/
theorem Apart.find?_of_mem (h : Apart es) {e : Datum × Datum} (he : e ∈ es)
    (self : sameKey e.1 e.1 = true) : find? e.1 es = some e.2 := by
  induction es with
  | nil => cases he
  | cons e₀ es ih =>
    obtain ⟨first, rest⟩ := List.pairwise_cons.1 h
    rcases List.mem_cons.1 he with rfl | he
    · exact if_pos self
    · exact (if_neg (by simp [first e he])).trans (ih rest he)

end DomainAtlas.Datum
