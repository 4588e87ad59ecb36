import DomainAtlas.Proofs.Index.Cache
import DomainAtlas.Scan.Cached

/-!
# What a run with a cache does

A run first looks into the cache (`Job.find`). When it finds its scan there it is done. When looking
fails, because the root has no absolute form or the cache cannot be loaded, so does the run. Otherwise the
scan is made and, if it gives a result, the cache is written (`CacheUse.save_cases`). Until then no file
changes.
-/
namespace DomainAtlas

/-- A cache that is loaded, with whatever outcome, has a path that is one. -/
theorem ScanCache.whole_of_load {c : ScanCache} {room : Json.Room} {fs : FileSystem}
    {expected : Option String} {outcome : LoadOutcome} (h : c.load room fs expected = .ok outcome) :
    c.path.hasZero = false := by
  cases zero : c.path.hasZero with
  | false => rfl
  | true =>
    rw [load, FileSystem.read, if_pos zero] at h
    cases h

theorem Path.hasZero_parent {p : Path} (h : p.hasZero = false) : p.parent.hasZero = false := by
  simp only [Path.hasZero, Path.parent, List.any_eq_false] at h ⊢
  exact fun part among => h part (List.dropLast_subset _ among)

namespace Scan

/-! ## Looking into the cache -/

section Find

variable (j : Job) {u : CacheUse} {fs : FileSystem} {key : String}

theorem CacheUse.load_of_reads (reads : u.reads = true) :
    (u.load fs key).2 = match u.cache.load u.room fs (some key) with
      | .error f => .error (.cache f)
      | .ok outcome => .ok outcome.scan? := by
  simp only [CacheUse.load, reads, Bool.not_true, Bool.false_eq_true, if_false]
  cases u.cache.load u.room fs (some key) <;> rfl

theorem Job.find_of_root (rooted : fs.pathFault? u.cache.cwd j.root = none) :
    j.find u fs = u.load fs (j.key u.cache.cwd fs) := by
  rw [Job.find, rooted]

/-- What has to be the case for a scan to be found. -/
theorem Job.found_scan {s : CachedScan} (h : (j.find u fs).2 = .ok (some s)) :
    fs.pathFault? u.cache.cwd j.root = none ∧ ∃ outcome,
      u.cache.load u.room fs (some (j.key u.cache.cwd fs)) = .ok outcome ∧
        outcome.scan? = some s := by
  cases rooted : fs.pathFault? u.cache.cwd j.root with
  | some f =>
    rw [Job.find, rooted] at h
    cases h
  | none =>
    rw [j.find_of_root rooted, CacheUse.load] at h
    refine ⟨rfl, ?_⟩
    split at h
    · cases h
    split at h
    · cases h
    · next outcome loaded => exact ⟨outcome, loaded, Except.ok.inj h⟩

end Find

/-! ## Writing the cache -/

section Save

variable (u : CacheUse) (fs : FileSystem) (key : String) (r : Result)

/-- The save of a result in the cache, whatever its path. -/
abbrev CacheUse.saved : FileSystem × Option Problem :=
  u.cache.save u.fails u.token r.definitions r.usages key fs

/-- Where there can be a file, the cache is saved or that fails and is noted. -/
theorem CacheUse.save_of_path (whole : u.cache.path.hasZero = false) :
    (∃ event, (u.save fs key r).2 = .ok event) ∧ (u.save fs key r).1 = (u.saved fs key r).1 := by
  unfold CacheUse.save CacheUse.saved ScanCache.save Saving.run
  simp only [whole, Path.hasZero_parent whole, Bool.false_eq_true, if_false]
  rcases (u.cache.saving u.token r.definitions r.usages key).runSteps u.fails SaveStep.all fs with
    ⟨fs', _ | e⟩
  · exact ⟨⟨_, rfl⟩, rfl⟩
  · exact ⟨⟨_, rfl⟩, rfl⟩

/-- Either the path of the cache turns out to be none, when at most directories were made. Or the cache
is saved, or that fails and is noted; it can only have been saved at a path that is one. -/
theorem CacheUse.save_cases :
    (∃ f, (u.save fs key r).2 = .error f ∧ fs.Grows (u.save fs key r).1) ∨
    (∃ event, (u.save fs key r).2 = .ok event) ∧
      (u.save fs key r).1 = (u.saved fs key r).1 ∧
      ((u.saved fs key r).2 = none → u.cache.path.hasZero = false) := by
  cases zero : u.cache.path.hasZero with
  | false =>
    obtain ⟨done, same⟩ := u.save_of_path fs key r zero
    exact .inr ⟨done, same, fun _ => rfl⟩
  | true =>
    unfold CacheUse.save CacheUse.saved ScanCache.save Saving.run
    by_cases above : u.cache.path.parent.hasZero = true
    · simp only [if_pos above]
      exact .inl ⟨_, rfl, FileSystem.Grows.refl fs⟩
    have made := (u.cache.saving u.token r.definitions r.usages key).grows_parents u.fails fs
    simp only [if_neg above, zero, if_true]
    rcases parents : (u.cache.saving u.token r.definitions r.usages key).runSteps u.fails [.parents]
      fs with ⟨fs', _ | e⟩
    · rw [parents] at made
      exact .inl ⟨_, rfl, made⟩
    · rw [SaveStep.all, Saving.runSteps_of_first _ _ parents]
      exact .inr ⟨⟨_, rfl⟩, rfl, fun h => by cases h⟩

end Save

/-! ## The whole run -/

namespace Job

variable {j : Job} {u : CacheUse} {fs : FileSystem}

theorem obtain_of_find_error {f : Fault} (h : (j.find u fs).2 = .error f) :
    (j.obtain u fs).outcome = .error f ∧ (j.obtain u fs).fs = fs := by
  unfold obtain
  rcases hf : j.find u fs with ⟨events, found⟩
  rw [hf] at h
  simp only at h
  subst h
  exact ⟨rfl, rfl⟩

/-- A run that finds its scan in the cache does nothing else. -/
theorem obtain_of_find_some {s : CachedScan} (h : (j.find u fs).2 = .ok (some s)) :
    j.obtain u fs = ⟨(j.find u fs).1.map Log.Emission.ofEvent,
      .ok ⟨s.definitions, s.usages, none, true⟩, fs⟩ := by
  unfold obtain
  rcases hf : j.find u fs with ⟨events, found⟩
  rw [hf] at h
  simp only at h
  subst h
  rfl

theorem obtain_of_find_none (h : (j.find u fs).2 = .ok none) :
    (j.obtain u fs).outcome = (j.refresh u fs (j.key u.cache.cwd fs)).outcome ∧
      (j.obtain u fs).fs = (j.refresh u fs (j.key u.cache.cwd fs)).fs := by
  unfold obtain
  rcases hf : j.find u fs with ⟨events, found⟩
  rw [hf] at h
  simp only at h
  subst h
  exact ⟨rfl, rfl⟩

theorem refresh_of_run_error (key : String) {f : Fault}
    (failed : (j.run (fs.tree u.cache.cwd j.root)).2 = .error f) :
    (j.refresh u fs key).outcome = .error f ∧ (j.refresh u fs key).fs = fs := by
  unfold refresh
  rcases hr : j.run (fs.tree u.cache.cwd j.root) with ⟨emissions, outcome⟩
  rw [hr] at failed
  simp only at failed
  subst failed
  exact ⟨rfl, rfl⟩

theorem refresh_of_run_ok (key : String) {r : Result}
    (ran : (j.run (fs.tree u.cache.cwd j.root)).2 = .ok r) :
    (j.refresh u fs key).outcome = (u.save fs key r).2.map (fun _ => r) ∧
      (j.refresh u fs key).fs = (u.save fs key r).1 := by
  unfold refresh
  rcases hr : j.run (fs.tree u.cache.cwd j.root) with ⟨emissions, outcome⟩
  rw [hr] at ran
  simp only at ran
  subst ran
  rcases hs : u.save fs key r with ⟨fs', _ | event⟩
  · simp only [hs, Except.map, and_self]
  · simp only [hs, Except.map, and_self]

end Job

end Scan

end DomainAtlas
