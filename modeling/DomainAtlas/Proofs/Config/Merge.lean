import DomainAtlas.Proofs.Config.Keys

/-!
# Laws of merged settings

What a mapping says about a name is `Datum.entry?`. Laying mappings over one another is described by
what the result says about each name: `overlaid` of what the two sides say. For that, the upper side
may say one thing only about a name (`Datum.Keyed`).

Results:
* `Datum.entry?_setEntry_self`, `Datum.entry?_setEntry_of_ne`: setting an entry is seen under its key
  only.
* `entry?_overlayEntries`: what a merged mapping says.
* `Datum.Keyed.overlayEntries`, `Datum.keyed_fold`: mappings that are merged, or built entry by entry,
  have every name once.
* `overlaid_eq_or`, `overlaid_pairs_eq_or`: a merged value that is no mapping is the value of the
  first side that has one.
-/
namespace DomainAtlas

/-! ## Keys that are texts -/

namespace Datum

theorem sameKey_text_right {k : Datum} {n : String} : sameKey k (.text n) = true ↔ k = .text n := by
  cases k <;> simp [sameKey, sameScalar, scalarKey?, whole?]
  case float x => cases x.isInt x.truncate <;> simp
  case moment m => cases m.micros? <;> simp

theorem find?_text (n : String) (es : List (Datum × Datum)) : find? (.text n) es = entry? n es := by
  induction es with
  | nil => rfl
  | cons e rest ih =>
    obtain ⟨k, v⟩ := e
    by_cases hk : k = .text n
    · subst hk
      simp [find?, entry?, sameKey_text_right]
    · have hs : sameKey k (.text n) = false := by
        simpa using mt sameKey_text_right.mp hk
      cases k <;> simp_all [find?, entry?]

theorem entry?_cons_self (n : String) (v : Datum) (es : List (Datum × Datum)) :
    entry? n ((.text n, v) :: es) = some v :=
  if_pos rfl

theorem entry?_cons_of_ne {n : String} {k : Datum} (h : k ≠ .text n) (v : Datum)
    (es : List (Datum × Datum)) : entry? n ((k, v) :: es) = entry? n es := by
  cases k <;> simp_all [ entry?]

theorem mem_of_entry?_eq_some {n : String} {d : Datum} {es : List (Datum × Datum)}
    (h : entry? n es = some d) : (.text n, d) ∈ es := by
  induction es with
  | nil => cases h
  | cons e rest ih =>
    obtain ⟨k, v⟩ := e
    by_cases hk : k = .text n
    · subst hk
      rw [entry?_cons_self] at h
      simp [Option.some.inj h]
    · rw [entry?_cons_of_ne hk] at h
      exact List.mem_cons_of_mem _ (ih h)

theorem entry?_setEntry_self (n : String) (v : Datum) (es : List (Datum × Datum)) :
    entry? n (setEntry (.text n) v es) = some v := by
  rw [← find?_text, find?_setEntry, if_pos (sameKey_text_right.mpr rfl)]

/-- Setting an entry is seen under its key only. -/
theorem entry?_setEntry_of_ne {n : String} {k : Datum} (h : k ≠ .text n) (v : Datum)
    (es : List (Datum × Datum)) : entry? n (setEntry k v es) = entry? n es := by
  rw [← find?_text, ← find?_text, find?_setEntry, if_neg (mt sameKey_text_right.mp h)]

/-! ## Mappings with every name once -/

/-- The names among the keys of a mapping. -/
def names : List (Datum × Datum) → List String
  | [] => []
  | (.text s, _) :: rest => s :: names rest
  | _ :: rest => names rest

/-- No name is a key twice. -/
def Keyed (es : List (Datum × Datum)) : Prop := (names es).Nodup

theorem Keyed.tail {e : Datum × Datum} {es : List (Datum × Datum)} (h : Keyed (e :: es)) :
    Keyed es := by
  obtain ⟨k, v⟩ := e
  cases k with
  | text s => exact (List.nodup_cons.mp h).2
  | _ => exact h

theorem mem_names {n : String} {es : List (Datum × Datum)} :
    n ∈ names es ↔ ∃ v, (.text n, v) ∈ es := by
  induction es with
  | nil => simp [names]
  | cons e rest ih =>
    obtain ⟨k, v⟩ := e
    cases k <;> simp [names, ih, exists_or, eq_comm]

/-- A mapping says nothing about what is not among its names. -/
theorem entry?_eq_none {n : String} {es : List (Datum × Datum)} (h : n ∉ names es) :
    entry? n es = none := by
  cases he : entry? n es with
  | none => rfl
  | some d => exact absurd (mem_names.mpr ⟨d, mem_of_entry?_eq_some he⟩) h

theorem mem_names_setEntry {n : String} {k v : Datum} {es : List (Datum × Datum)}
    (h : n ∈ names (setEntry k v es)) : k = .text n ∨ n ∈ names es := by
  induction es with
  | nil =>
    obtain ⟨w, hw⟩ := mem_names.mp h
    exact .inl (by simp [setEntry] at hw; exact hw.1.symm)
  | cons e rest ih =>
    obtain ⟨k', v'⟩ := e
    rw [setEntry] at h
    split at h
    · obtain ⟨w, hw⟩ := mem_names.mp h
      refine .inr (mem_names.mpr ?_)
      rcases List.mem_cons.mp hw with hw | hw
      · exact ⟨v', by simp [(Prod.mk.inj hw).1]⟩
      · exact ⟨w, List.mem_cons_of_mem _ hw⟩
    · cases k' with
      | text s =>
        rcases List.mem_cons.mp h with rfl | h
        · exact .inr (by simp [names])
        · exact (ih h).imp_right (by simp [names]; exact .inr)
      | _ => exact ih h

theorem Keyed.setEntry {es : List (Datum × Datum)} (h : Keyed es) (k v : Datum) :
    Keyed (setEntry k v es) := by
  induction es with
  | nil => cases k <;> simp [Datum.setEntry, Keyed, names]
  | cons e rest ih =>
    obtain ⟨k', v'⟩ := e
    rw [Datum.setEntry]
    split
    · cases k' <;> exact h
    · next hs =>
      cases k' with
      | text s =>
        have hn := List.nodup_cons.mp h
        refine List.nodup_cons.mpr ⟨fun hmem => ?_, ih hn.2⟩
        rcases mem_names_setEntry hmem with rfl | hmem
        · exact hs (sameKey_text_right.mpr rfl)
        · exact hn.1 hmem
      | _ => exact ih h

/-- The entries after one was set: one with the new value, and others that were there. -/
theorem mem_setEntry {k v : Datum} {es : List (Datum × Datum)} {e : Datum × Datum}
    (h : e ∈ setEntry k v es) : e ∈ es ∨ e.2 = v := by
  induction es with
  | nil =>
    obtain rfl := List.mem_singleton.mp h
    exact .inr rfl
  | cons e₀ rest ih =>
    obtain ⟨k', v'⟩ := e₀
    rw [setEntry] at h
    split at h
    · rcases List.mem_cons.mp h with rfl | h
      · exact .inr rfl
      · exact .inl (List.mem_cons_of_mem _ h)
    · rcases List.mem_cons.mp h with rfl | h
      · exact .inl List.mem_cons_self
      · exact (ih h).imp_left (List.mem_cons_of_mem _)

section Folds

variable {α : Type} (key value : α → Datum)

/-- A mapping built entry by entry has every name once. -/
theorem keyed_fold (as : List α) {es : List (Datum × Datum)} (h : Keyed es) :
    Keyed (as.foldl (fun acc a => setEntry (key a) (value a) acc) es) := by
  induction as generalizing es with
  | nil => exact h
  | cons a as ih => exact ih (h.setEntry _ _)

/-- What holds of the values of the entries set holds of the values of the mapping built. -/
theorem values_fold {P : Datum → Prop} (as : List α) {es : List (Datum × Datum)}
    (has : ∀ a ∈ as, P (value a)) (hes : ∀ e ∈ es, P e.2) :
    ∀ e ∈ as.foldl (fun acc a => setEntry (key a) (value a) acc) es, P e.2 := by
  induction as generalizing es with
  | nil => exact hes
  | cons a as ih =>
    refine ih (fun b hb => has b (List.mem_cons_of_mem _ hb)) fun e he => ?_
    rcases mem_setEntry he with hmem | h
    · exact hes e hmem
    · exact h ▸ has a List.mem_cons_self

end Folds

theorem keyed_nil : Keyed [] := List.nodup_nil

end Datum

/-! ## Merging -/

/-- What two sides say together: the upper side counts, and two mappings are merged. -/
def overlaid : Option Datum → Option Datum → Option Datum
  | lower, none => lower
  | none, some v => some v
  | some old, some v => some (overlay old v)

/-- What a merged mapping says about a name. -/
theorem entry?_overlayEntries {upper : List (Datum × Datum)} (h : Datum.Keyed upper) (n : String)
    (lower : List (Datum × Datum)) :
    Datum.entry? n (overlayEntries lower upper) =
      overlaid ( Datum.entry? n lower) ( Datum.entry? n upper) := by
  induction upper generalizing lower with
  | nil => simp [overlayEntries, Datum.entry?, overlaid]
  | cons e rest ih =>
    obtain ⟨k, v⟩ := e
    rw [overlayEntries]
    by_cases hk : k = .text n
    · subst hk
      have fresh := (List.nodup_cons.mp h).1
      rw [ih h.tail, Datum.entry?_setEntry_self, Datum.entry?_cons_self,
        Datum.entry?_eq_none fresh, Datum.find?_text]
      cases Datum.entry? n lower <;> simp [overlaid]
    · rw [ih h.tail, Datum.entry?_setEntry_of_ne hk, Datum.entry?_cons_of_ne hk]

theorem Datum.Keyed.overlayEntries {lower : List (Datum × Datum)} (h : Datum.Keyed lower)
    (upper : List (Datum × Datum)) : Datum.Keyed (overlayEntries lower upper) := by
  induction upper generalizing lower with
  | nil => simpa [DomainAtlas.overlayEntries] using h
  | cons e rest ih =>
    rw [DomainAtlas.overlayEntries]
    exact ih (h.setEntry _ _)

/-- A value laid over another is a mapping only where it was one itself. -/
theorem overlay_eq_map {old v : Datum} {m : List (Datum × Datum)} (h : overlay old v = .map m) :
    ∃ mv, v = .map mv ∧ (m = mv ∨ ∃ mo, old = .map mo ∧ m = overlayEntries mo mv) := by
  cases v with
  | map mv =>
    refine ⟨mv, rfl, ?_⟩
    cases old <;> simp [overlay] at h <;> simp [h]
  | _ => simp [overlay] at h

/-- A merged value that is no mapping is what the upper side says, or else the lower side. -/
theorem overlaid_eq_or {lower upper : Option Datum}
    (h : ∀ m, overlaid lower upper ≠ some (.map m)) : overlaid lower upper = upper.or lower := by
  cases upper with
  | none => cases lower <;> rfl
  | some v =>
    cases lower with
    | none => rfl
    | some old =>
      cases v with
      | map mv => cases old <;> exact absurd rfl (h _)
      | _ => rfl

theorem overlaid_eq_none {lower upper : Option Datum} :
    overlaid lower upper = none ↔ lower = none ∧ upper = none := by
  cases lower <;> cases upper <;> simp [overlaid]

/-- Of two pairs of sides merged with one another the first value counts, unless the outcome is a
mapping. -/
theorem overlaid_pairs_eq_or {a b c d : Option Datum}
    (h : ∀ m, overlaid (overlaid d c) (overlaid b a) ≠ some (.map m)) :
    overlaid (overlaid d c) (overlaid b a) = a.or (b.or (c.or d)) := by
  have outer := overlaid_eq_or h
  rw [outer] at h ⊢
  cases hupper : overlaid b a with
  | none =>
    obtain ⟨rfl, rfl⟩ := overlaid_eq_none.mp hupper
    rw [hupper, Option.none_or] at h
    exact overlaid_eq_or h
  | some v =>
    rw [hupper, Option.some_or] at h
    have upper := overlaid_eq_or fun m hm => h m (hupper ▸ hm)
    rw [← Option.or_assoc, ← upper, hupper]
    rfl

end DomainAtlas
