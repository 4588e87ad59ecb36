import DomainAtlas.Proofs.Scan.Obtaining
import DomainAtlas.Proofs.Scan.Stopping

/-!
# Scans of trees with a broken file

One file that can be read and cannot be taken apart leaves a scan without result, wherever it stands
and whatever was gathered before it. Which of several such files is reported depends on the order in
which reads are completed (`Job.FirstFailure`).

Results:
* `Job.exists_firstFailure`: the scan fails with the first of them.
* `Job.obtain_of_run_error`: a run whose scan fails gives the same failure and changes no file.
-/
namespace DomainAtlas.Scan.Job

variable (j : Job) {tree : Tree}

/-- A file of the tree can be read, and not taken apart. -/
def Broken (tree : Tree) : Prop :=
  ∃ paths, (j.enumerate tree).2 = .ok paths ∧ ∃ path ∈ paths, ¬ j.method.Parses (j.readOf path)

/-- What is wrong with the first such file, in the order in which reads are completed. -/
def FirstFailure (tree : Tree) (f : Failure) : Prop :=
  ∃ paths, (j.enumerate tree).2 = .ok paths ∧
    j.method.Stops (j.completion.order (paths.map j.readOf)) f

/-- The scan of a tree with a broken file fails with the first one. -/
theorem exists_firstFailure (h : j.Broken tree) :
    ∃ f, j.FirstFailure tree f ∧ (j.run tree).2 = .error (.problem f.problem) := by
  obtain ⟨paths, listed, path, hpath, broken⟩ := h
  have completed := j.completion.perm (paths.map j.readOf)
  rcases j.method.parses_or_stops (j.completion.order (paths.map j.readOf)) with all | ⟨f, stops⟩
  · exact absurd (all _ (completed.mem_iff.mpr (List.mem_map_of_mem hpath))) broken
  · refine ⟨f, ⟨paths, listed, stops⟩, ?_⟩
    unfold Job.run
    rcases he : j.enumerate tree with ⟨found, result⟩
    rw [he] at listed
    simp only at listed
    subst listed
    exact finish_of_stops j paths.length stops

variable (u : CacheUse) (fs : FileSystem)

/-- A run that finds nothing in the cache and whose scan fails ends with that failure, and leaves the
files as they are. -/
theorem obtain_of_run_error {f : Fault} (missed : (j.find u fs).2 = .ok none)
    (failed : (j.run (fs.tree u.cache.cwd j.root)).2 = .error f) :
    (j.obtain u fs).outcome = .error f ∧ (j.obtain u fs).fs = fs := by
  obtain ⟨outcome, after⟩ := obtain_of_find_none missed
  obtain ⟨failed', same⟩ := refresh_of_run_error (j.key u.cache.cwd fs) failed
  exact ⟨outcome.trans failed', after.trans same⟩

end DomainAtlas.Scan.Job
