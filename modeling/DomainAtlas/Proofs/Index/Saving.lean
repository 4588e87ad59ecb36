import DomainAtlas.Index.Cache
import DomainAtlas.Proofs.FileSystem.Places

/-!
# What a save comes to

A save makes the directories of the cache, then a file beside it, writes the payload there, and puts
that file in the place that the path of the cache leads to. Each step may fail by itself or from
outside, and then the file beside is removed. A step that fails from outside may have done part of its
work (`Saving.Leaves`). `Saving.Ends` relates the file systems before and after all such saves.

Results:
* `Saving.ends_run`: a save whose steps fail from outside with nothing done is one of them.
* `Saving.Ends.settles`: each of them makes parents of the path only and fails, or puts the payload in
  the place of the cache.
* `Saving.run_succeeds`: when a save that nothing disturbs succeeds.
-/
namespace DomainAtlas

open FileSystem

namespace Saving

variable (s : Saving) {fs made : FileSystem}

/-- What a step may have done when it fails from outside: nothing, or some parents are made, or some
bytes are in the file beside. -/
inductive Leaves : SaveStep → FileSystem → FileSystem → Prop
  | nothing {step : SaveStep} {fs : FileSystem} : Leaves step fs fs
  | parents {fs : FileSystem} (up : Nat) :
      Leaves .parents fs (fs.mkdirs s.cwd (Path.parent^[up] s.path.parent)).1
  | part {fs fs' : FileSystem} (bytes : ByteArray)
      (run : SaveStep.write.run { s with payload := bytes } fs = (fs', none)) : Leaves .write fs fs'

/-- What is done after a step that failed. -/
def afterFailure (step : SaveStep) (fs : FileSystem) : FileSystem :=
  if step.leavesFile then s.cleanUp fs else fs

/-- How a save may end whose steps may fail from outside. -/
inductive Ends : List SaveStep → FileSystem → FileSystem → Option OsError → Prop
  | done {fs : FileSystem} : Ends [] fs fs none
  | goes {step : SaveStep} {rest : List SaveStep} {fs next fs' : FileSystem} {e : Option OsError}
      (run : step.run s fs = (next, none)) (on : Ends rest next fs' e) : Ends (step :: rest) fs fs' e
  | fails {step : SaveStep} {rest : List SaveStep} {fs next : FileSystem} {e : OsError}
      (run : step.run s fs = (next, some e)) :
      Ends (step :: rest) fs (s.afterFailure step next) (some e)
  | struck {step : SaveStep} {rest : List SaveStep} {fs next : FileSystem}
      (left : s.Leaves step fs next) (e : OsError) :
      Ends (step :: rest) fs (s.afterFailure step next) (some e)

/-! ## Saves end so -/

theorem ends_runSteps (fails : SaveStep → Option OsError) (steps : List SaveStep) (fs : FileSystem) :
    s.Ends steps fs (s.runSteps fails steps fs).1 (s.runSteps fails steps fs).2 := by
  induction steps generalizing fs with
  | nil => exact .done
  | cons step rest ih =>
    rw [runSteps]
    cases fails step with
    | some e => exact .struck .nothing e
    | none =>
      simp only
      rcases hr : step.run s fs with ⟨next, _ | e⟩
      · exact .goes hr (ih next)
      · exact .fails hr

theorem ends_run (fails : SaveStep → Option OsError) (fs : FileSystem) :
    s.Ends SaveStep.all fs (s.run fails fs).1 (s.run fails fs).2 := ends_runSteps s fails _ fs

/-- A failure at some step fails the save, unless it has failed before. -/
theorem runSteps_of_fails {fails : SaveStep → Option OsError} {step : SaveStep} {e : OsError}
    (struck : fails step = some e) {steps : List SaveStep} (h : step ∈ steps) (fs : FileSystem) :
    ∃ e, (s.runSteps fails steps fs).2 = some e := by
  induction steps generalizing fs with
  | nil => cases h
  | cons first rest ih =>
    rw [runSteps]
    rcases hr : fails first with _ | f
    · rcases hm : first.run s fs with ⟨next, _ | f⟩
      · rcases List.mem_cons.mp h with rfl | h
        · rw [struck] at hr
          cases hr
        · exact ih h next
      · exact ⟨f, rfl⟩
    · exact ⟨f, rfl⟩

/-- What happens first decides a save that fails there, whatever was to follow. -/
theorem runSteps_of_first {fails : SaveStep → Option OsError} {step : SaveStep}
    (rest : List SaveStep) {fs' : FileSystem} {e : OsError}
    (h : s.runSteps fails [step] fs = (fs', some e)) :
    s.runSteps fails (step :: rest) fs = (fs', some e) := by
  rw [runSteps] at h ⊢
  split at h
  · cases h
  · exact h

/-- Making the directories of a cache leaves what is there. -/
theorem grows_parents (fails : SaveStep → Option OsError) (fs : FileSystem) :
    fs.Grows (s.runSteps fails [.parents] fs).1 := by
  have made := grows_mkdirs fs s.cwd s.path.parent
  rw [runSteps]
  cases fails .parents with
  | some e => exact Grows.refl fs
  | none =>
    rcases hm : fs.mkdirs s.cwd s.path.parent with ⟨fs', _ | e⟩ <;> rw [hm] at made
    · simp only [SaveStep.run, hm]
      exact made
    · simp only [SaveStep.run, hm]
      exact made

/-- An undisturbed save succeeds when its directories can be made, nothing stands where the file
beside goes, and the path ends at a name that is no directory. -/
theorem run_succeeds (fails : SaveStep → Option OsError) {beside key : List String}
    {n : Option FileNode} (calm : ∀ step, fails step = none)
    (dirs : fs.mkdirs s.cwd s.path.parent = (made, none))
    (free : made.resolve s.cwd false s.beside = .ok (beside, none))
    (target : made.resolve s.cwd false s.path = .ok (key, n)) (dir : n ≠ some .dir)
    (named : s.path.parts.getLast?.all (· == "..") = false) :
    ∃ written, made.AddsFile beside s.payload written ∧
      s.run fails fs = ((written.erase beside).put key (.file s.payload), none) := by
  have created : made.createNew s.cwd s.beside = .ok (made.put beside (.file ByteArray.empty)) := by
    rw [createNew, free]
  obtain ⟨written, hw, adds⟩ :=
    (addsFile_put (at?_of_resolve free) ByteArray.empty).write free s.payload
  have replaced : written.replace s.cwd s.beside s.path =
      .ok ((written.erase beside).put key (.file s.payload)) := by
    have ht := resolve_keeps adds.keeps target
    have hn : written.at? key ≠ some .dir := by
      rw [adds.at?_eq]
      split
      · simp
      · rw [at?_of_resolve target]
        exact dir
    rw [replace, adds.resolve free]
    simp only [named, Bool.false_eq_true, if_false, ht]
  refine ⟨written, adds, ?_⟩
  simp only [run, SaveStep.all, runSteps, calm, SaveStep.run, dirs, created, attempt, hw, replaced]

/-! ## What the endings come to -/

/-- Parents of the path are made, and what the path leads to, which is no directory, is a file with the
payload. -/
def Replaces (fs fs' : FileSystem) (made : FileSystem) (place : List String) : Prop :=
  fs.MakesParents s.cwd s.path made ∧ made.LeadsTo s.cwd s.path place ∧ made.at? place ≠ some .dir ∧
    ∀ k, fs'.at? k = if k = place then some (.file s.payload) else made.at? k

/-- What a save comes to: a failure with nothing but parents made, or a replaced file. -/
def Settles (fs fs' : FileSystem) : Option OsError → Prop
  | some _ => fs.MakesParents s.cwd s.path fs'
  | none => ∃ made place, s.Replaces fs fs' made place

variable {s} {fs' : FileSystem} {beside : List String} {bytes : ByteArray} {rest : List SaveStep}
  {e : Option OsError}

/-- A step that is one attempt: the save ends with what a failure leaves, or goes on behind it. -/
theorem Ends.attempt {step : SaveStep} {r : Except OsError FileSystem}
    (one : step.run s fs = fs.attempt r) (ends : s.Ends (step :: rest) fs fs' e) :
    (∃ next f, s.Leaves step fs next ∧ fs' = s.afterFailure step next ∧ e = some f) ∨
      ∃ next, r = .ok next ∧ s.Ends rest next fs' e := by
  cases ends with
  | goes run on => exact .inr ⟨_, attempt_eq_ok (one.symm.trans run), on⟩
  | fails run =>
    obtain rfl := attempt_eq_error (one.symm.trans run)
    exact .inl ⟨_, _, .nothing, rfl, rfl⟩
  | struck left f => exact .inl ⟨_, f, left, rfl, rfl⟩

theorem cleanUp_at? (hr : made.resolve s.cwd false s.beside = .ok (beside, none))
    (h : made.AddsFile beside bytes fs) (k : List String) : (s.cleanUp fs).at? k = made.at? k := by
  obtain ⟨cleaned, hu, same⟩ := h.unlink hr
  rw [cleanUp, hu]
  exact same k

section Steps

variable (parents : fs.MakesParents s.cwd s.path made)

include parents

/-- A failure behind which the file beside is removed. -/
theorem settles_cleaned {written : FileSystem} (e : OsError)
    (hr : made.resolve s.cwd false s.beside = .ok (beside, none))
    (h : made.AddsFile beside bytes written) : s.Settles fs (s.cleanUp written) (some e) :=
  parents.trans (.of_at?_eq (cleanUp_at? hr h))

-- What the remaining steps come to, one lemma for each step, the last one first.

theorem settles_replace {written : FileSystem}
    (hr : made.resolve s.cwd false s.beside = .ok (beside, none))
    (h : made.AddsFile beside s.payload written) (ends : s.Ends [.replace] written fs' e) :
    s.Settles fs fs' e := by
  rcases ends.attempt rfl with ⟨next, f, left, rfl, rfl⟩ | ⟨next, replaced, on⟩
  · cases left
    exact settles_cleaned parents f hr h
  · obtain ⟨key, n, target, dir, rfl⟩ := replace_eq_ok (h.resolve hr) replaced
    cases on
    obtain ⟨leads, there⟩ := leadsTo_of_resolve target
    have free : made.at? key ≠ some .dir := by
      intro isDir
      rw [h.keeps key _ isDir trivial] at there
      exact dir there.symm
    refine ⟨made, key, parents, leads.keeps h.keeps_back, free, fun k => ?_⟩
    have named : key ≠ [] := ne_root_of_at? free
    rw [at?_put _ named, at?_erase _ h.ne_root, h.at?_eq]
    by_cases own : k = beside
    · rw [if_pos own, own, h.new]
    · rw [if_neg own, if_neg own]

theorem settles_write {created : FileSystem}
    (hr : made.resolve s.cwd false s.beside = .ok (beside, none))
    (h : made.AddsFile beside bytes created) (ends : s.Ends [.write, .replace] created fs' e) :
    s.Settles fs fs' e := by
  rcases ends.attempt rfl with ⟨next, f, left, rfl, rfl⟩ | ⟨next, wrote, on⟩
  · cases left with
    | nothing => exact settles_cleaned parents f hr h
    | part some run =>
      obtain ⟨torn, wrote, adds⟩ := h.write hr some
      obtain rfl := Except.ok.inj (wrote.symm.trans (attempt_eq_ok run))
      exact settles_cleaned parents f hr adds
  · obtain ⟨written, wrote', adds⟩ := h.write hr s.payload
    obtain rfl := Except.ok.inj (wrote'.symm.trans wrote)
    exact settles_replace parents hr adds on

theorem settles_create (ends : s.Ends [.create, .write, .replace] made fs' e) :
    s.Settles fs fs' e := by
  rcases ends.attempt rfl with ⟨next, f, left, rfl, rfl⟩ | ⟨next, created, on⟩
  · cases left
    exact parents
  · obtain ⟨beside, hr, adds⟩ := createNew_eq_ok created
    exact settles_write parents hr adds on

end Steps

/-- **Saves.** A save that fails has made parents of the path at most. One that succeeds has put the
payload in the place of the cache. -/
theorem Ends.settles (ends : s.Ends SaveStep.all fs fs' e) : s.Settles fs fs' e := by
  have whole := makesParents_mkdirs fs s.cwd s.path 0
  cases ends with
  | goes run on =>
    rw [Function.iterate_zero_apply, show fs.mkdirs s.cwd s.path.parent = _ from run] at whole
    exact settles_create whole on
  | fails run =>
    rw [Function.iterate_zero_apply, show fs.mkdirs s.cwd s.path.parent = _ from run] at whole
    exact whole
  | struck left f =>
    cases left with
    | nothing => exact MakesParents.refl fs
    | parents up => exact makesParents_mkdirs fs s.cwd s.path up

end Saving

theorem ScanCache.saving_payload (c : ScanCache) (token : String) (store : Store)
    (usages : Option UsageIndex) (key : String) :
    (c.saving token store usages key).payload = (Envelope.text store usages key).toUTF8 := by
  rw [ScanCache.saving]

end DomainAtlas
