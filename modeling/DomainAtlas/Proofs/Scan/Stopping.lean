import DomainAtlas.Proofs.Scan.Gathering

/-!
# The read that ends a scan

A scan takes its reads one after the other. Either every file that was read can be taken apart, or
there is a first one that cannot, and the scan ends with what is wrong with it (`Method.Stops`).

Results:
* `Method.parses_or_stops`: one of both is the case.
* `finish_eq_ok_iff`, `finish_of_stops`: a scan gives a result in the first case only.
-/
namespace DomainAtlas.Scan

namespace Method

variable (m : Method)

/-- The first of the reads that cannot be taken apart, in their order, fails in this way. -/
def Stops (reads : List Read) (f : Failure) : Prop :=
  ∃ before r after bytes, reads = before ++ r :: after ∧ (∀ x ∈ before, m.Parses x) ∧
    r.content = .ok bytes ∧ m.examine r.path bytes = .error f

theorem Stops.cons {reads : List Read} {f : Failure} {r : Read} (parses : m.Parses r)
    (h : m.Stops reads f) : m.Stops (r :: reads) f := by
  obtain ⟨before, x, after, bytes, rfl, hb, hx, he⟩ := h
  exact ⟨r :: before, x, after, bytes, rfl, List.forall_mem_cons.2 ⟨parses, hb⟩, hx, he⟩

/-- Every file that was read can be taken apart, or there is a first one that cannot. -/
theorem parses_or_stops (reads : List Read) :
    (∀ r ∈ reads, m.Parses r) ∨ ∃ f, m.Stops reads f := by
  induction reads with
  | nil => exact .inl (by simp)
  | cons r reads ih =>
    by_cases parses : m.Parses r
    · rcases ih with all | ⟨f, stops⟩
      · exact .inl (List.forall_mem_cons.2 ⟨parses, all⟩)
      · exact .inr ⟨f, stops.cons m parses⟩
    · simp only [Parses, not_forall] at parses
      obtain ⟨bytes, hc, none⟩ := parses
      cases he : m.examine r.path bytes with
      | ok c => exact absurd ⟨c, he⟩ none
      | error f => exact .inr ⟨f, [], r, reads, bytes, rfl, by simp, hc, he⟩

/-- Gathering ends with the first read that cannot be taken apart. -/
theorem gather_of_stops (g : Gathered) {reads : List Read} {f : Failure} (h : m.Stops reads f) :
    (m.gather g reads).2 = .error f.problem := by
  obtain ⟨before, r, after, bytes, rfl, parses, hc, he⟩ := h
  induction before generalizing g with
  | nil => rw [List.nil_append, gather, hc]; simp only [he]
  | cons x before ih =>
    have rest := fun y hy => parses y (List.mem_cons_of_mem x hy)
    rw [List.cons_append]
    cases hx : x.content with
    | error e => rw [gather_cons_error m g hx]; exact ih _ rest
    | ok bytes' =>
      obtain ⟨c, hok⟩ := parses x List.mem_cons_self bytes' hx
      rw [gather_cons_ok m g hx hok]
      exact ih _ rest

end Method

variable (j : Job) (n : Nat) {reads : List Read}

/-- A scan ends with what is wrong with the first file that cannot be taken apart. -/
theorem finish_of_stops {f : Failure} (h : j.method.Stops reads f) :
    (j.finish n reads).2 = .error (.problem f.problem) := by
  have hg := j.method.gather_of_stops (.start j.trackUsages) h
  unfold Job.finish
  rcases he : j.method.gather (.start j.trackUsages) reads with ⟨events, gathered⟩
  rw [he] at hg
  simp only at hg
  subst hg
  rfl

/-- A scan gives a result exactly when every file that was read can be taken apart. -/
theorem finish_eq_ok_iff :
    (∃ result, (j.finish n reads).2 = .ok result) ↔ ∀ r ∈ reads, j.method.Parses r := by
  refine ⟨fun ⟨result, h⟩ => ?_, fun h => ⟨_, finish_eq j n h⟩⟩
  rcases j.method.parses_or_stops reads with parses | ⟨f, stops⟩
  · exact parses
  · rw [finish_of_stops j n stops] at h
    cases h

end DomainAtlas.Scan
