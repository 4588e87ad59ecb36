import DomainAtlas.Proofs.Index.Writers

/-!
# The invariant of a cache with many writers

Every process between the making of its file beside the cache and its last step has that file for
itself, what stands in the cache's place stood there at the start or is a whole payload, and
everything else is as it was at the start, but for directories that saves make (`ScanCache.Whole`).

Two processes cannot have the same file, even under one token, because a file beside is always a new
one. No file beside stands in the cache's place, because its name is a longer one.

Results:
* `ScanCache.Whole.leads_iff`: the cache and the files beside are where they were at the start.
* `ScanCache.Whole.move`: what is to be shown of a move of one process, with `stays`, `sets` and
  `releases` for what such a move can do to the files.
-/
namespace DomainAtlas

open FileSystem

namespace ScanCache

/-! ## The invariant -/

/-- The process saves to the cache, and what it still has to do ends the steps of a save. -/
structure Serves (c : ScanCache) (p : Process) : Prop where
  cwd : p.saving.cwd = c.cwd
  path : p.saving.path = c.path
  beside : ∃ token, p.saving.beside = besidePath c.cwd c.path token
  steps : ∀ rest, p.stage = .making rest → rest <:+ SaveStep.all

/-- The process has a file beside, whose place is this one. -/
def Keeper (made : FileSystem) (w : World) (i : Nat) (key : List String) : Prop :=
  ∃ p, w.processes i = some p ∧ p.stage.holds = true ∧
    made.LeadsTo p.saving.cwd p.saving.beside key

/-- The file beside of a process stands where nothing was, with the whole payload before the last
step. -/
def Guarded (made fs : FileSystem) (p : Process) (key : List String) : Prop :=
  made.LeadsTo p.saving.cwd p.saving.beside key ∧ made.at? key = none ∧
    ∃ bytes, fs.at? key = some (.file bytes) ∧
      (p.stage = .making [.replace] → bytes = p.saving.payload)

/-- This held of the file system at the start. When the path led nowhere, for want of a directory, it
may hold only once some directories were made. -/
def Initially (c : ScanCache) (start : FileSystem) (P : FileSystem → Prop) : Prop :=
  P start ∨ (∀ key, ¬ start.LeadsTo c.cwd c.path key) ∧ ∃ made, start.Grows made ∧ P made

/-- What can stand in the cache's place: what stood there at the start or, unless that is a
directory, nothing or a whole payload. -/
def Sound (made : FileSystem) (w : World) (key : List String) : Prop :=
  w.fs.at? key = made.at? key ∨ made.at? key ≠ some .dir ∧
    (w.fs.at? key = none ∨ ∃ bytes, w.Saves bytes ∧ w.fs.at? key = some (.file bytes))

/-- The state, seen from the start with some directories made (`made`). None are made when the cache
leads to a place from the start. -/
structure Whole (c : ScanCache) (start made : FileSystem) (w : World) : Prop where
  grows : start.Grows made
  settled : (∃ key, start.LeadsTo c.cwd c.path key) → made = start
  serves : ∀ i p, w.processes i = some p → c.Serves p
  file : ∀ i p, w.processes i = some p → p.stage.holds = true → ∃ key, Guarded made w.fs p key
  alone : ∀ i j key, Keeper made w i key → Keeper made w j key → i = j
  cache : ∀ key, made.LeadsTo c.cwd c.path key → Sound made w key
  rest : ∀ key, ¬ made.LeadsTo c.cwd c.path key → (∀ i, ¬ Keeper made w i key) →
    w.fs.at? key = made.at? key

section Invariant

variable {c : ScanCache} {start made : FileSystem} {w : World}

/-- The file beside of a process that saves to the cache is not in the cache's place. -/
theorem Serves.not_cache {p : Process} (h : c.Serves p) (ready : c.Ready start)
    (grows : start.Grows made) {key : List String}
    (leads : made.LeadsTo p.saving.cwd p.saving.beside key) : ¬ made.LeadsTo c.cwd c.path key := by
  intro hc
  obtain ⟨token, hb⟩ := h.beside
  rw [h.cwd, hb] at leads
  exact ready.beside_ne grows leads hc rfl

theorem whole_start (fs : FileSystem) : c.Whole fs fs ⟨fs, fun _ => none⟩ where
  grows := Grows.refl fs
  settled _ := rfl
  serves i p h := by cases h
  file i p h := by cases h
  alone i j key h := by obtain ⟨p, hp, -⟩ := h; cases hp
  cache key _ := .inl rfl
  rest key _ _ := rfl

namespace Whole

variable (inv : c.Whole start made w)

include inv

/-- Where a process keeps its file beside. -/
theorem keeper_guarded {i : Nat} {key : List String} (h : Keeper made w i key) :
    ∃ p, w.processes i = some p ∧ Guarded made w.fs p key := by
  obtain ⟨p, hp, holds, leads⟩ := h
  obtain ⟨key', guarded⟩ := inv.file i p hp holds
  obtain rfl := guarded.1.unique leads
  exact ⟨p, hp, guarded⟩

theorem keeper_at? {i : Nat} {key : List String} (h : Keeper made w i key) :
    made.at? key = none ∧ ∃ bytes, w.fs.at? key = some (.file bytes) := by
  obtain ⟨p, -, -, none, bytes, file, -⟩ := inv.keeper_guarded h
  exact ⟨none, bytes, file⟩

/-- The directories and links that are there were there at the start, or were made since. -/
theorem keeps_back : w.fs.Keeps made := by
  intro key n hn leads
  by_cases hk : ∃ i, Keeper made w i key
  · obtain ⟨i, hk⟩ := hk
    obtain ⟨-, bytes, file⟩ := inv.keeper_at? hk
    rw [file] at hn
    cases hn
    exact leads.elim
  · by_cases hc : made.LeadsTo c.cwd c.path key
    · rcases inv.cache key hc with same | ⟨-, none | ⟨bytes, -, file⟩⟩
      · rw [← same, hn]
      · rw [none] at hn
        cases hn
      · rw [file] at hn
        cases hn
        exact leads.elim
    · rw [← inv.rest key hc (not_exists.mp hk), hn]

/-- The directories and links of the start are all there, but for a link in the cache's place. -/
theorem keeps_aside {key : List String} {n : FileNode} (hn : made.at? key = some n)
    (leads : n.Leads) (aside : made.LeadsTo c.cwd c.path key → n = .dir) :
    w.fs.at? key = some n := by
  by_cases hc : made.LeadsTo c.cwd c.path key
  · obtain rfl := aside hc
    rcases inv.cache key hc with same | ⟨noDir, -⟩
    · rw [same, hn]
    · exact absurd hn noDir
  · rw [inv.rest key hc, hn]
    intro i hk
    rw [(inv.keeper_at? hk).1] at hn
    cases hn

/-- Where no directory stands in the cache's place, none stood there at the start. -/
theorem not_dir {key : List String} (h : w.fs.at? key ≠ some .dir) : made.at? key ≠ some .dir :=
  fun dir => h (inv.keeps_aside dir trivial fun _ => rfl)

theorem not_keeper (ready : c.Ready start) {key : List String} (hc : made.LeadsTo c.cwd c.path key)
    (i : Nat) : ¬ Keeper made w i key := by
  rintro ⟨p, hp, -, leads⟩
  exact (inv.serves i p hp).not_cache ready inv.grows leads hc

theorem rooted (ready : c.Ready start) : w.fs.Rooted (startOf c.cwd c.path) :=
  fun above hp => inv.keeps_aside ((ready.rooted.keeps inv.grows.keeps) above hp) trivial
    fun _ => rfl

/-- The cache and the files beside are where they were. -/
theorem leads_iff (ready : c.Ready start) {p : Path}
    (hp : p = c.path ∨ ∃ token, p = besidePath c.cwd c.path token) {key : List String} :
    w.fs.LeadsTo c.cwd p key ↔ made.LeadsTo c.cwd p key := by
  refine ⟨fun h => h.keeps inv.keeps_back, fun h => ?_⟩
  by_cases link : ∃ place target, made.LeadsTo c.cwd c.path place ∧
      made.at? place = some (.link target)
  · obtain ⟨place, target, leads, link⟩ := link
    have root : place ≠ [] := ne_root_of_at? (by rw [link]; simp)
    refine (ready.aside made inv.grows place target leads link p hp key h).keeps ?_
    intro k n hn follows
    rw [at?_erase _ root] at hn
    split at hn
    · cases hn
    · next ne => exact inv.keeps_aside hn follows fun hk => absurd (hk.unique leads) ne
  · refine h.keeps fun k n hn follows => inv.keeps_aside hn follows fun hk => ?_
    cases n with
    | file bytes => exact follows.elim
    | link target => exact absurd ⟨k, target, hk, hn⟩ link
    | dir => rfl

end Whole

/-! ## What each move keeps -/

section Step

variable {fs : FileSystem} {i j : Nat} {p : Process} {key : List String}

theorem keeper_move_other (h : j ≠ i) :
    Keeper made (w.move fs i p) j key ↔ Keeper made w j key := by
  simp only [Keeper, World.move_other _ _ _ _ h]

theorem keeper_move_same :
    Keeper made (w.move fs i p) i key ↔
      p.stage.holds = true ∧ made.LeadsTo p.saving.cwd p.saving.beside key := by
  constructor
  · rintro ⟨q, hq, holds, leads⟩
    rw [World.move_same] at hq
    cases hq
    exact ⟨holds, leads⟩
  · rintro ⟨holds, leads⟩
    exact ⟨p, World.move_same .., holds, leads⟩

theorem saving_eq {s : Saving} {stage : Stage} (now : w.processes i = some ⟨s, stage⟩)
    (q : Process) (hq : w.processes i = some q) : q.saving = s := by
  rw [now] at hq
  cases hq
  rfl

theorem Sound.move (h : Sound made w key) (at?_eq : fs.at? key = w.fs.at? key)
    (same : ∀ q, w.processes i = some q → q.saving = p.saving) :
    Sound made (w.move fs i p) key := by
  unfold Sound at h ⊢
  rw [World.move_fs, at?_eq]
  rcases h with h | ⟨noDir, h | ⟨bytes, saves, h⟩⟩
  · exact .inl h
  · exact .inr ⟨noDir, .inl h⟩
  · exact .inr ⟨noDir, .inr ⟨bytes, saves.move same, h⟩⟩

end Step

namespace Whole

variable {i : Nat} {p : Process} {fs : FileSystem} (inv : c.Whole start made w)

include inv

/-- What is to be shown of a move of one process. -/
theorem move (serves : c.Serves p)
    (own : p.stage.holds = true →
      ∃ key, Guarded made fs p key ∧ ∀ j, j ≠ i → ¬ Keeper made w j key)
    (others : ∀ j key, j ≠ i → Keeper made w j key → fs.at? key = w.fs.at? key)
    (cache : ∀ key, made.LeadsTo c.cwd c.path key → Sound made (w.move fs i p) key)
    (rest : ∀ key, ¬ made.LeadsTo c.cwd c.path key →
      (∀ j, ¬ Keeper made (w.move fs i p) j key) → fs.at? key = made.at? key) :
    c.Whole start made (w.move fs i p) where
  grows := inv.grows
  settled := inv.settled
  serves j q hq := by
    by_cases h : j = i
    · subst h
      rw [World.move_same] at hq
      cases hq
      exact serves
    · rw [World.move_other _ _ _ _ h] at hq
      exact inv.serves j q hq
  file j q hq holds := by
    by_cases h : j = i
    · subst h
      rw [World.move_same] at hq
      cases hq
      obtain ⟨key, guarded, -⟩ := own holds
      exact ⟨key, guarded⟩
    · rw [World.move_other _ _ _ _ h] at hq
      obtain ⟨key, leads, free, found⟩ := inv.file j q hq holds
      refine ⟨key, leads, free, ?_⟩
      rw [World.move_fs, others j key h ⟨q, hq, holds, leads⟩]
      exact found
  alone j k key hj hk := by
    -- The file beside of the process that moved is nobody else's.
    have mine : ∀ {j}, j ≠ i → Keeper made (w.move fs i p) i key → ¬ Keeper made w j key := by
      intro j h hi hj
      obtain ⟨holds, leads⟩ := keeper_move_same.mp hi
      obtain ⟨key', guarded, free⟩ := own holds
      rw [guarded.1.unique leads] at free
      exact free j h hj
    by_cases h : j = i
    · by_cases h' : k = i
      · rw [h, h']
      · subst h
        exact absurd ((keeper_move_other h').mp hk) (mine h' hj)
    · by_cases h' : k = i
      · subst h'
        exact absurd ((keeper_move_other h).mp hj) (mine h hk)
      · exact inv.alone j k key ((keeper_move_other h).mp hj) ((keeper_move_other h').mp hk)
  cache := cache
  rest := rest

/-- A process is at another stage, and nothing happened to any file. -/
theorem stays {stage : Stage} (now : w.processes i = some p)
    (serves : c.Serves ⟨p.saving, stage⟩) (holds : stage.holds = p.stage.holds)
    (last : stage ≠ .making [.replace]) :
    c.Whole start made (w.move w.fs i ⟨p.saving, stage⟩) := by
  refine inv.move serves (fun h => ?_) (fun _ _ _ _ => rfl)
    (fun key hc => (inv.cache key hc).move rfl (saving_eq now)) (fun key hc none => inv.rest key hc ?_)
  · have held : p.stage.holds = true := holds.symm.trans h
    obtain ⟨key, leads, free, bytes, file, -⟩ := inv.file i p now held
    refine ⟨key, ⟨leads, free, bytes, file, fun e => absurd e last⟩, fun j ne hj => ne ?_⟩
    exact inv.alone j i key hj ⟨p, now, held, leads⟩
  · intro j hj
    by_cases h : j = i
    · subst h
      obtain ⟨q, hq, held, leads⟩ := hj
      rw [now] at hq
      cases hq
      exact none j (keeper_move_same.mpr ⟨holds.trans held, leads⟩)
    · exact none j ((keeper_move_other h).mpr hj)

/-- A process starts. -/
theorem begins (idle : w.processes i = none) (serves : c.Serves p) (holds : p.stage.holds = false) :
    c.Whole start made (w.move w.fs i p) := by
  refine inv.move serves (fun h => ?_) (fun _ _ _ _ => rfl)
    (fun key hc => (inv.cache key hc).move rfl fun q hq => ?_)
    (fun key hc none => inv.rest key hc ?_)
  · rw [holds] at h
    cases h
  · rw [idle] at hq
    cases hq
  · intro j hj
    by_cases h : j = i
    · obtain ⟨q, hq, -⟩ := hj
      rw [h, idle] at hq
      cases hq
    · exact none j ((keeper_move_other h).mpr hj)

/-- A process makes its file beside, or writes it. -/
theorem sets (ready : c.Ready start) {key : List String} {bytes : ByteArray}
    (serves : c.Serves p) (same : ∀ q, w.processes i = some q → q.saving = p.saving)
    (holds : p.stage.holds = true) (last : p.stage = .making [.replace] → bytes = p.saving.payload)
    (leads : made.LeadsTo p.saving.cwd p.saving.beside key) (free : made.at? key = none)
    (mine : ∀ j, j ≠ i → ¬ Keeper made w j key)
    (at?_eq : ∀ k, fs.at? k = if k = key then some (.file bytes) else w.fs.at? k) :
    c.Whole start made (w.move fs i p) := by
  have here : Guarded made fs p key := ⟨leads, free, bytes, by rw [at?_eq, if_pos rfl], last⟩
  refine inv.move serves (fun _ => ⟨key, here, mine⟩) (fun j k ne hj => ?_)
    (fun k hc => (inv.cache k hc).move ?_ same) (fun k hc none => ?_)
  · rw [at?_eq, if_neg]
    rintro rfl
    exact mine j ne hj
  · rw [at?_eq, if_neg]
    rintro rfl
    exact serves.not_cache ready inv.grows leads hc
  · have ne : k ≠ key := by
      rintro rfl
      exact none i (keeper_move_same.mpr ⟨holds, leads⟩)
    rw [at?_eq, if_neg ne]
    refine inv.rest k hc fun j hj => ?_
    by_cases h : j = i
    · subst h
      obtain ⟨q, hq, -, hl⟩ := hj
      rw [same q hq] at hl
      exact ne (hl.unique leads)
    · exact none j ((keeper_move_other h).mpr hj)

/-- A process gives up its file beside: it was removed, or it took the cache's place. -/
theorem releases (ready : c.Ready start) {key : List String} {stage : Stage}
    (now : w.processes i = some p) (held : p.stage.holds = true)
    (serves : c.Serves ⟨p.saving, stage⟩) (holds : stage.holds = false)
    (leads : made.LeadsTo p.saving.cwd p.saving.beside key) (gone : fs.at? key = none)
    (cache : ∀ k, made.LeadsTo c.cwd c.path k → Sound made (w.move fs i ⟨p.saving, stage⟩) k)
    (at?_eq : ∀ k, k ≠ key → ¬ made.LeadsTo c.cwd c.path k → fs.at? k = w.fs.at? k) :
    c.Whole start made (w.move fs i ⟨p.saving, stage⟩) := by
  have mine : Keeper made w i key := ⟨p, now, held, leads⟩
  refine inv.move serves (fun h => ?_) (fun j k ne hj => at?_eq k ?_ fun hc => ?_) cache
    (fun k hc none => ?_)
  · rw [holds] at h
    cases h
  · rintro rfl
    exact ne (inv.alone j i k hj mine)
  · exact inv.not_keeper ready hc j hj
  · by_cases hk : k = key
    · rw [hk, gone, (inv.keeper_at? mine).1]
    · rw [at?_eq k hk hc]
      refine inv.rest k hc fun j hj => ?_
      by_cases h : j = i
      · subst h
        obtain ⟨q, hq, -, hl⟩ := hj
        rw [now] at hq
        cases hq
        exact hk (hl.unique leads)
      · exact none j ((keeper_move_other h).mpr hj)

end Whole

end Invariant

end ScanCache

end DomainAtlas
