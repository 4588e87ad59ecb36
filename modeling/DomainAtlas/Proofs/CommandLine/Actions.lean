import DomainAtlas.CommandLine.Program
import DomainAtlas.Proofs.FileSystem.Prolonged

/-!
# What parts of a command do to the desk

`Action.after` is the outcome of a part of a command from a given desk. Two properties of parts are
composed along it: that a part touches files by logging only (`Action.LogsOnly`), and that it ends the
command, if at all, as a failure (`Action.Sound`).

Results:
* `Action.LogsOnly.bind`, `Action.logsOnly_forM`: parts that only log are composed of such parts.
* `Action.logsOnly_say`, `Action.logsOnly_emit`: telling the user and noting events only log.
* `Action.run_of_fails`: a command that ends as a failure has exit code one.
-/
namespace DomainAtlas.CommandLine

open FileSystem

namespace Action

variable {α β : Type}

/-- What a part of a command leads to from a desk. -/
def after (a : Action α) (s : Surroundings) (d : Desk) : Except Ending α × Desk :=
  (ReaderT.run a s).run d

theorem after_bind (a : Action α) (f : α → Action β) (s : Surroundings) (d : Desk) :
    (a >>= f).after s d = match a.after s d with
      | (.ok x, d) => (f x).after s d
      | (.error e, d) => (.error e, d) := by
  change (ExceptT.bind (ReaderT.run a s) fun x => ReaderT.run (f x) s).run d = _
  unfold after ExceptT.run
  simp only [ExceptT.bind, ExceptT.mk, bind, StateT.bind, ExceptT.bindCont]
  rcases ReaderT.run a s d with ⟨x | x, d'⟩ <;> rfl

@[simp] theorem after_pure (x : α) (s : Surroundings) (d : Desk) :
    (pure x : Action α).after s d = (.ok x, d) := rfl

@[simp] theorem after_read (s : Surroundings) (d : Desk) :
    (read : Action Surroundings).after s d = (.ok s, d) := rfl

@[simp] theorem after_files (s : Surroundings) (d : Desk) :
    files.after s d = (.ok d.written.fs, d) := rfl

/-! ## Logging only -/

/-- The desk is the one at the start with more of everything logged. -/
structure Logged (s : Surroundings) (start d : Desk) : Prop where
  routing : d.routing = start.routing
  files : Prolonged (start.routing.Places s.cwd start.written.fs) start.written.fs d.written.fs

/-- A part of a command that touches no file but by logging. -/
def LogsOnly (a : Action α) : Prop :=
  ∀ s start d, start.written.fs.Rooted s.cwd → Logged s start d → Logged s start (a.after s d).2

theorem logsOnly_pure (x : α) : LogsOnly (pure x) := fun _ _ _ _ h => h

theorem logsOnly_throw (e : Ending) : LogsOnly (throw e : Action α) := fun _ _ _ _ h => h

theorem logsOnly_crash (c : Crash) : LogsOnly (crash c : Action α) := logsOnly_throw _

theorem logsOnly_read : LogsOnly (read : Action Surroundings) := fun _ _ _ _ h => h

theorem logsOnly_get : LogsOnly (get : Action Desk) := fun _ _ _ _ h => h

theorem logsOnly_files : LogsOnly files := fun _ _ _ _ h => h

theorem LogsOnly.bind {a : Action α} {f : α → Action β} (ha : a.LogsOnly)
    (hf : ∀ x, (f x).LogsOnly) : (a >>= f).LogsOnly := by
  intro s start d rooted h
  have first := ha s start d rooted h
  rw [after_bind]
  rcases ha' : a.after s d with ⟨e | x, d'⟩ <;> rw [ha'] at first
  · exact first
  · exact hf x s start d' rooted first

/-- Printing touches no file. -/
theorem logsOnly_write {f : Log.Written → Log.Written} (hf : ∀ w, (f w).fs = w.fs) :
    LogsOnly (write f) := by
  intro s start d _ h
  refine ⟨h.routing, ?_⟩
  change Prolonged _ _ (f d.written).fs
  rw [hf]
  exact h.files

theorem logsOnly_emit (e : Log.Emission) : LogsOnly (emit e) := by
  intro s start d rooted h
  refine ⟨h.routing, ?_⟩
  change Prolonged _ _ (d.routing.write s.cwd s.moment.clockText d.written e).fs
  rw [h.routing]
  exact start.routing.prolonged_write rooted h.files _ e

theorem logsOnly_say (status : Console.Status) : LogsOnly (say status) := by
  refine logsOnly_read.bind fun s => ?_
  have noted : ∀ _ : Unit, LogsOnly (note status.event) := fun _ => logsOnly_emit _
  split
  · next text _ => exact (logsOnly_write (f := fun w => w.printError text) fun _ => rfl).bind noted
  · exact (logsOnly_crash _).bind noted

theorem logsOnly_forM {f : α → Action Unit} (hf : ∀ x, (f x).LogsOnly) (xs : List α) :
    LogsOnly (xs.forM f) := by
  induction xs with
  | nil => exact logsOnly_pure ()
  | cons x xs ih => exact (hf x).bind fun _ => ih

end Action

/-! ## Failures -/

/-- An ending with exit code one. -/
def Ending.Fails : Ending → Prop
  | .refused _ => True
  | .crashed _ => True
  | _ => False

namespace Action

variable {α β : Type}

/-- A part of a command that ends it as a failure, if at all. -/
def Sound (a : Action α) : Prop := ∀ s d e, (a.after s d).1 = .error e → e.Fails

theorem sound_pure (x : α) : Sound (pure x) := fun _ _ _ h => nomatch h

theorem sound_read : Sound (read : Action Surroundings) := fun _ _ _ h => nomatch h

theorem sound_get : Sound (get : Action Desk) := fun _ _ _ h => nomatch h

theorem sound_change (f : Desk → Desk) : Sound (change f) := fun _ _ _ h => nomatch h

theorem sound_crash (c : Crash) : Sound (crash c : Action α) := by
  rintro s d e h
  obtain rfl := Except.error.inj h
  trivial

theorem Sound.bind {a : Action α} {f : α → Action β} (ha : a.Sound) (hf : ∀ x, (f x).Sound) :
    (a >>= f).Sound := by
  intro s d e h
  have first := ha s d
  rw [after_bind] at h
  rcases ha' : a.after s d with ⟨e' | x, d'⟩ <;> rw [ha'] at h first
  · obtain rfl := Except.error.inj h
    exact first e' rfl
  · exact hf x s d' e h

theorem sound_emit (e : Log.Emission) : Sound (emit e) := sound_read.bind fun _ => sound_change _

theorem sound_forM {f : α → Action Unit} (hf : ∀ x, (f x).Sound) (xs : List α) :
    Sound (xs.forM f) := by
  induction xs with
  | nil => exact sound_pure ()
  | cons x xs ih => exact (hf x).bind fun _ => ih

theorem sound_say (status : Console.Status) : Sound (say status) := by
  refine sound_read.bind fun s => ?_
  have noted : ∀ _ : Unit, Sound (note status.event) := fun _ => sound_emit _
  split
  · exact (sound_change _).bind noted
  · exact (sound_crash _).bind noted

/-- A part of a command that ends it as a failure. -/
def Fatal (a : Action α) : Prop := ∀ s d, ∃ e, (a.after s d).1 = .error e ∧ e.Fails

theorem fatal_crash (c : Crash) : Fatal (crash c : Action α) := fun _ _ => ⟨_, rfl, trivial⟩

theorem fatal_refused (message : String) : Fatal (throw (.refused message) : Action α) :=
  fun _ _ => ⟨_, rfl, trivial⟩

theorem Fatal.bind {a : Action α} {f : α → Action β} (ha : a.Sound) (hf : ∀ x, (f x).Fatal) :
    (a >>= f).Fatal := by
  intro s d
  have first := ha s d
  rw [after_bind]
  rcases ha' : a.after s d with ⟨e | x, d'⟩ <;> rw [ha'] at first
  · exact ⟨e, rfl, first e rfl⟩
  · exact hf x s d'

/-- The exit code of a command that ends as a failure. What is printed at the end changes no file. -/
theorem run_of_fails {a : Action Unit} {s : Surroundings} {d d' : Desk} {e : Ending}
    (h : a.after s d = (.error e, d')) (fails : e.Fails) :
    (a.run s d).exitCode = 1 ∧ (a.run s d).desk.written.fs = d'.written.fs := by
  unfold after at h
  unfold run
  rw [h]
  cases e with
  | done => exact fails.elim
  | refused message => exact ⟨rfl, rfl⟩
  | misused text => exact fails.elim
  | crashed c => exact ⟨rfl, rfl⟩

end Action

end DomainAtlas.CommandLine
