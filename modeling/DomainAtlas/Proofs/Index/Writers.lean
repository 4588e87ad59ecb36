import DomainAtlas.Proofs.FileSystem.Places
import DomainAtlas.Proofs.Index.Cache
import Mathlib.Logic.Function.Basic
import Mathlib.Logic.Relation

/-!
# Many writers of one cache

Any number of processes save, load and clear one cache. Each save goes step by step
(`SaveStep.run`), between its steps the others may make theirs, and any process may stop for good
after any step:

* `begins`: some process starts to save a scan, under a token of its choice;
* `makes`, `fails`: it makes its next step, and goes on or has failed;
* `refused`: its next step fails from outside, with nothing done;
* `tears`: its payload is written in part only;
* `cleans`: after a failure it removes its file beside the cache;
* `clears`: some process clears the cache.

Loading changes nothing, so it is no move. A process that stops is one that makes no more moves, and
one that saves again is a new one.

Results:
* `ScanCache.reaches_run`: a save that nobody disturbs is made of these moves.
* `ScanCache.Ready.beside_ne`: no file beside stands in the cache's place.
-/
namespace DomainAtlas

open FileSystem

/-! ## Processes and their moves -/

/-- How far a save is. -/
inductive Stage where
  /-- It goes on with these steps. -/
  | making (rest : List SaveStep)
  /-- This step failed, and the file beside is still to be removed. -/
  | failed (step : SaveStep)
  | ended

/-- Whether there is a file beside at this stage. -/
def Stage.holds : Stage → Bool
  | .making [] => false
  | .making (step :: _) => step.leavesFile
  | .failed step => step.leavesFile
  | .ended => false

/-- A process that saves. -/
structure Process where
  saving : Saving
  stage : Stage

/-- The file system, and the processes by their numbers. -/
structure World where
  fs : FileSystem
  processes : Nat → Option Process

namespace World

/-- One process is at a new stage, and the file system may be another. -/
def move (w : World) (fs : FileSystem) (i : Nat) (p : Process) : World :=
  ⟨fs, Function.update w.processes i (some p)⟩

/-- These are the bytes that one of the saves is about. -/
def Saves (w : World) (bytes : ByteArray) : Prop :=
  ∃ i p, w.processes i = some p ∧ bytes = p.saving.payload

section Move

variable (w : World) (fs : FileSystem) (i : Nat) (p : Process)

@[simp] theorem move_fs : (w.move fs i p).fs = fs := rfl

@[simp] theorem move_same : (w.move fs i p).processes i = some p := Function.update_self ..

theorem move_other {j : Nat} (h : j ≠ i) : (w.move fs i p).processes j = w.processes j :=
  Function.update_of_ne h ..

@[simp] theorem move_move (fs' : FileSystem) (p' : Process) :
    (w.move fs i p).move fs' i p' = w.move fs' i p' := by
  simp only [move, Function.update_idem]

variable {w i p}

theorem move_stay (h : w.processes i = some p) : w.move fs i p = ⟨fs, w.processes⟩ := by
  simp only [move, ← h, Function.update_eq_self]

variable {fs}

theorem Saves.move {bytes : ByteArray} (h : w.Saves bytes)
    (same : ∀ q, w.processes i = some q → q.saving = p.saving) : (w.move fs i p).Saves bytes := by
  obtain ⟨j, q, hj, rfl⟩ := h
  by_cases hji : j = i
  · subst hji
    exact ⟨j, p, move_same .., by rw [same q hj]⟩
  · exact ⟨j, q, by rw [move_other _ _ _ _ hji, hj], rfl⟩

end Move

end World

namespace ScanCache

/-- The moves of processes that share a cache. -/
inductive Moves (c : ScanCache) (w : World) : World → Prop
  | begins {i : Nat} (idle : w.processes i = none) (token : String) (store : Store)
      (usages : Option UsageIndex) (key : String) :
      Moves c w (w.move w.fs i ⟨c.saving token store usages key, .making SaveStep.all⟩)
  | makes {i : Nat} {s : Saving} {step : SaveStep} {rest : List SaveStep} {fs : FileSystem}
      (now : w.processes i = some ⟨s, .making (step :: rest)⟩)
      (run : step.run s w.fs = (fs, none)) :
      Moves c w (w.move fs i ⟨s, .making rest⟩)
  | fails {i : Nat} {s : Saving} {step : SaveStep} {rest : List SaveStep} {fs : FileSystem}
      {e : OsError} (now : w.processes i = some ⟨s, .making (step :: rest)⟩)
      (run : step.run s w.fs = (fs, some e)) :
      Moves c w (w.move fs i ⟨s, .failed step⟩)
  | refused {i : Nat} {s : Saving} {step : SaveStep} {rest : List SaveStep}
      (now : w.processes i = some ⟨s, .making (step :: rest)⟩) :
      Moves c w (w.move w.fs i ⟨s, .failed step⟩)
  | tears {i : Nat} {s : Saving} {rest : List SaveStep} {fs : FileSystem}
      (now : w.processes i = some ⟨s, .making (.write :: rest)⟩) (part : ByteArray)
      (run : SaveStep.write.run { s with payload := part } w.fs = (fs, none)) :
      Moves c w (w.move fs i ⟨s, .making (.write :: rest)⟩)
  | cleans {i : Nat} {s : Saving} {step : SaveStep}
      (now : w.processes i = some ⟨s, .failed step⟩) :
      Moves c w (w.move (if step.leavesFile then s.cleanUp w.fs else w.fs) i ⟨s, .ended⟩)
  | clears : Moves c w { w with fs := c.afterClear w.fs }

/-- What processes can come to that share a cache, none of them at work at the start. -/
def Reaches (c : ScanCache) (fs : FileSystem) : World → Prop :=
  Relation.ReflTransGen c.Moves ⟨fs, fun _ => none⟩

/-! ## A save on its own -/

section Alone

variable {c : ScanCache} {w : World} {i : Nat} {s : Saving}

/-- A step that failed is cleaned up after. -/
theorem reaches_cleaned {step : SaveStep} {fs : FileSystem}
    (failed : c.Moves w (w.move fs i ⟨s, .failed step⟩)) :
    Relation.ReflTransGen c.Moves w
      (w.move (if step.leavesFile then s.cleanUp fs else fs) i ⟨s, .ended⟩) := by
  have cleans := Moves.cleans (c := c) (w.move_same fs i ⟨s, .failed step⟩)
  rw [World.move_move] at cleans
  exact (Relation.ReflTransGen.single failed).tail cleans

theorem reaches_runSteps (fails : SaveStep → Option OsError) (steps : List SaveStep)
    (now : w.processes i = some ⟨s, .making steps⟩) :
    ∃ stage, (stage = .making [] ∨ stage = .ended) ∧
      Relation.ReflTransGen c.Moves w (w.move (s.runSteps fails steps w.fs).1 i ⟨s, stage⟩) := by
  induction steps generalizing w with
  | nil =>
    refine ⟨.making [], .inl rfl, ?_⟩
    rw [Saving.runSteps, World.move_stay _ now]
  | cons step rest ih =>
    rw [Saving.runSteps]
    cases hf : fails step with
    | some e => exact ⟨.ended, .inr rfl, reaches_cleaned (.refused now)⟩
    | none =>
      rcases hr : step.run s w.fs with ⟨fs, _ | e⟩
      · obtain ⟨stage, final, reaches⟩ := ih (w.move_same fs i ⟨s, .making rest⟩)
        rw [World.move_move] at reaches
        exact ⟨stage, final, .head (.makes now hr) reaches⟩
      · exact ⟨.ended, .inr rfl, reaches_cleaned (.fails now hr)⟩

/-- A save that nobody disturbs, whatever fails in it, is made of moves. -/
theorem reaches_run (fails : SaveStep → Option OsError) (idle : w.processes i = none)
    (token : String) (store : Store) (usages : Option UsageIndex) (key : String) :
    ∃ stage, (stage = .making [] ∨ stage = .ended) ∧
      Relation.ReflTransGen c.Moves w
        (w.move ((c.saving token store usages key).run fails w.fs).1 i
          ⟨c.saving token store usages key, stage⟩) := by
  have begins := Moves.begins (c := c) idle token store usages key
  obtain ⟨stage, final, reaches⟩ := reaches_runSteps (c := c) fails SaveStep.all
    (w.move_same w.fs i ⟨c.saving token store usages key, .making SaveStep.all⟩)
  rw [World.move_move] at reaches
  exact ⟨stage, final, .head begins reaches⟩

end Alone

/-! ## Where the files are -/

/-- What the cache needs around it. The path ends in a name, and the directory it is seen from is
there. When a link stands in the cache's place, in `fs` or once directories were made, the ways to
the cache and to the files beside do not go through that link, and it does not lead to a file beside
that is not there yet. -/
structure Ready (c : ScanCache) (fs : FileSystem) : Prop where
  named : c.path.parts.getLast?.all (· == "..") = false
  rooted : fs.Rooted (startOf c.cwd c.path)
  aside : ∀ made, fs.Grows made → ∀ key target, made.LeadsTo c.cwd c.path key →
    made.at? key = some (.link target) →
    ∀ p, (p = c.path ∨ ∃ token, p = besidePath c.cwd c.path token) → ∀ place,
      made.LeadsTo c.cwd p place → (made.erase key).LeadsTo c.cwd p place
  apart : ∀ made, fs.Grows made → ∀ key target, made.LeadsTo c.cwd c.path key →
    made.at? key = some (.link target) →
    ∀ token place, made.LeadsTo c.cwd (besidePath c.cwd c.path token) place →
      made.resolve c.cwd true c.path ≠ .ok (place, none)

section Places

variable {c : ScanCache} {fs : FileSystem}

theorem Ready.exists_name (ready : c.Ready fs) :
    ∃ name, c.path.parts.getLast? = some name ∧ name ≠ ".." := by
  have named := ready.named
  cases h : c.path.parts.getLast? with
  | none => simp [h] at named
  | some name => exact ⟨name, rfl, by simpa [h] using named⟩

/-- A path at whose place no link stands, and that is in order otherwise. -/
theorem ready_of_no_link (named : c.path.parts.getLast?.all (· == "..") = false)
    (rooted : fs.Rooted (startOf c.cwd c.path))
    (none : ∀ made, fs.Grows made → ∀ key target,
      made.resolve c.cwd false c.path ≠ .ok (key, some (.link target))) : c.Ready fs where
  named := named
  rooted := rooted
  aside made grows key target leads link := absurd (link ▸ leads) (none made grows key target)
  apart made grows key target leads link := absurd (link ▸ leads) (none made grows key target)

theorem last_besidePath (cwd : List String) (path : Path) (token : String) :
    (besidePath cwd path token).parts.getLast? = some s!".{path.name}.{token}.tmp" := by
  simp only [besidePath, List.getLast?_concat]

theorem isAbsolute_besidePath (cwd : List String) (path : Path) (token : String) :
    (besidePath cwd path token).isAbsolute = true := path.parent.isAbsolute_absolute cwd

/-- A file beside never stands in the cache's place: its name is a longer one. -/
theorem Ready.beside_ne (ready : c.Ready fs) {made : FileSystem} (grows : fs.Grows made)
    {token : String} {beside key : List String}
    (hb : made.LeadsTo c.cwd (besidePath c.cwd c.path token) beside)
    (hk : made.LeadsTo c.cwd c.path key) : beside ≠ key := by
  obtain ⟨name, hl, hn⟩ := ready.exists_name
  obtain ⟨dir, -, rfl⟩ := hk.in_dir (ready.rooted.keeps grows.keeps) hl hn
  have hname : c.path.name = name := by rw [Path.name, hl, Option.getD_some]
  have longer : name.length < (s!".{c.path.name}.{token}.tmp").length := by
    have dot : ".".length = 1 := rfl
    rw [hname]
    simp only [toString, String.length_append, dot]
    omega
  have notUp : s!".{c.path.name}.{token}.tmp" ≠ ".." := by
    intro e
    have tail : ".tmp".length = 4 := rfl
    have dots : "..".length = 2 := rfl
    have e' := congrArg String.length e
    simp only [toString, String.length_append, tail, dots] at e'
    omega
  have root : made.Rooted (startOf c.cwd (besidePath c.cwd c.path token)) := by
    rw [startOf, if_pos (isAbsolute_besidePath ..)]
    exact rooted_nil made
  obtain ⟨dir', -, rfl⟩ := hb.in_dir root (last_besidePath ..) notUp
  intro e
  have same := List.append_inj_right' e rfl
  rw [List.cons.inj same |>.1] at longer
  exact absurd longer (Nat.lt_irrefl _)

end Places

end ScanCache

end DomainAtlas
