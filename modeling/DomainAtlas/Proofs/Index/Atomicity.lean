import DomainAtlas.Proofs.Index.Whole

/-!
# A cache with many writers is never torn

Step by step, every move of processes that share a cache keeps the invariant `ScanCache.Whole`. The
directories are made only while the cache leads nowhere; once it leads to a place, they are all there.

Results:
* `ScanCache.whole_of_moves`: every move keeps the invariant.
* `ScanCache.whole_of_reaches`: so it holds in every state that can be reached.
* `ScanCache.load_of_reaches`: so nothing but whole contents is ever found in the cache.
-/
namespace DomainAtlas

open FileSystem

namespace ScanCache

section Invariant

variable {c : ScanCache} {start made : FileSystem} {w : World}

/-! ## Step by step -/

/-- A process that saves to the cache does so at every stage that ends the steps of a save. -/
theorem Serves.next {p : Process} (h : c.Serves p) (stage : Stage)
    (steps : ∀ rest, stage = .making rest → rest <:+ SaveStep.all) : c.Serves ⟨p.saving, stage⟩ :=
  ⟨h.cwd, h.path, h.beside, steps⟩

/-- A step determines what is left to do behind it. -/
theorem steps_cases {step : SaveStep} {rest : List SaveStep} (h : step :: rest <:+ SaveStep.all) :
    (step = .parents ∧ rest = [.create, .write, .replace]) ∨
    (step = .create ∧ rest = [.write, .replace]) ∨ (step = .write ∧ rest = [.replace]) ∨
    (step = .replace ∧ rest = []) := by
  simpa [SaveStep.all, List.suffix_cons_iff] using h

namespace Whole

variable {i : Nat} {s : Saving} {fs : FileSystem} (inv : c.Whole start made w)

include inv

/-- Where the paths of a process lead. -/
theorem leads_beside (ready : c.Ready start) {p : Process} (serves : c.Serves p)
    {key : List String} :
    w.fs.LeadsTo p.saving.cwd p.saving.beside key ↔
      made.LeadsTo p.saving.cwd p.saving.beside key := by
  rw [serves.cwd]
  exact inv.leads_iff ready (.inr serves.beside)

theorem leads_cache (ready : c.Ready start) {key : List String} :
    w.fs.LeadsTo c.cwd c.path key ↔ made.LeadsTo c.cwd c.path key :=
  inv.leads_iff ready (.inl rfl)

/-- While the cache leads nowhere, directories are made. Nothing stood in its place, and nothing does
once there is one. -/
theorem grown (ready : c.Ready start) (nowhere : ∀ key, ¬ made.LeadsTo c.cwd c.path key)
    (grows : w.fs.Grows fs) : ∃ made', c.Whole start made' ⟨fs, w.processes⟩ := by
  have same : ∀ key, (∀ i, ¬ Keeper made w i key) → w.fs.at? key = made.at? key :=
    fun key => inv.rest key (nowhere key)
  have free : ∀ key, w.fs.at? key = none → made.at? key = none := by
    intro key h
    by_cases hk : ∃ i, Keeper made w i key
    · obtain ⟨i, hk⟩ := hk
      exact (inv.keeper_at? hk).1
    · rw [← same key (not_exists.mp hk), h]
  obtain ⟨made', grows', at?_eq⟩ := exists_grows grows free
  have file : ∀ i p, w.processes i = some p → p.stage.holds = true →
      ∃ key, Guarded made w.fs p key ∧ Guarded made' fs p key := by
    intro i p hp holds
    obtain ⟨key, leads, none, bytes, found, last⟩ := inv.file i p hp holds
    refine ⟨key, ⟨leads, none, bytes, found, last⟩, leads.keeps grows'.keeps, ?_, bytes,
      grows.stays key _ found, last⟩
    rw [at?_eq, if_neg (by simp [found]), none]
  -- The files beside are where they were.
  have keeper : ∀ i key, Keeper made' w i key ↔ Keeper made w i key := by
    intro i key
    refine ⟨fun ⟨p, hp, holds, leads⟩ => ?_,
      fun ⟨p, hp, holds, leads⟩ => ⟨p, hp, holds, leads.keeps grows'.keeps⟩⟩
    obtain ⟨key', before, after⟩ := file i p hp holds
    rw [← after.1.unique leads]
    exact ⟨p, hp, holds, before.1⟩
  have agree : ∀ key, (∀ i, ¬ Keeper made w i key) → fs.at? key = made'.at? key := by
    intro key none
    rw [at?_eq]
    cases h : w.fs.at? key with
    | none => rw [if_pos rfl]
    | some n => rw [if_neg (by simp), ← same key none, h, grows.stays key n h]
  refine ⟨made', inv.grows.trans grows', fun ⟨key, h⟩ => ?_, inv.serves,
    fun i p hp holds => ?_, fun i j key hi hj => ?_, fun key hc => .inl (agree key fun i hi => ?_),
    fun key _ none => agree key fun i hi => none i ((keeper i key).mpr hi)⟩
  · exact absurd (h.keeps inv.grows.keeps) (nowhere key)
  · obtain ⟨key, -, after⟩ := file i p hp holds
    exact ⟨key, after⟩
  · exact inv.alone i j key ((keeper i key).mp hi) ((keeper j key).mp hj)
  · obtain ⟨p, hp, -, leads⟩ := (keeper i key).mpr hi
    exact (inv.serves i p hp).not_cache ready (inv.grows.trans grows') leads hc

/-- The directories of the cache are made, or some of them. Where the cache leads to a place they are
there already. -/
theorem parents (ready : c.Ready start) :
    ∃ made', c.Whole start made' ⟨(w.fs.mkdirs c.cwd c.path.parent).1, w.processes⟩ := by
  obtain ⟨name, hl, hn⟩ := ready.exists_name
  by_cases place : ∃ key, w.fs.LeadsTo c.cwd c.path key
  · obtain ⟨key, leads⟩ := place
    rw [leads.mkdirs_parent (inv.rooted ready) hl hn]
    exact ⟨made, inv⟩
  · have nowhere : ∀ key, ¬ made.LeadsTo c.cwd c.path key := fun key h =>
      place ⟨key, (inv.leads_cache ready).mpr h⟩
    exact inv.grown ready nowhere (grows_mkdirs w.fs c.cwd c.path.parent)

/-- A process makes its file beside. -/
theorem creates (ready : c.Ready start)
    (now : w.processes i = some ⟨s, .making [.create, .write, .replace]⟩)
    (run : w.fs.createNew s.cwd s.beside = .ok fs) :
    c.Whole start made (w.move fs i ⟨s, .making [.write, .replace]⟩) := by
  have serves := inv.serves i _ now
  obtain ⟨key, hr, adds⟩ := createNew_eq_ok run
  obtain ⟨leads, none⟩ := leadsTo_of_resolve hr
  have leads' := (inv.leads_beside ready serves).mp leads
  -- Every process keeps a file at its place, and here was none.
  have nobody : ∀ j, ¬ Keeper made w j key := by
    intro j hj
    obtain ⟨-, bytes, file⟩ := inv.keeper_at? hj
    rw [none] at file
    cases file
  have notCache : ¬ made.LeadsTo c.cwd c.path key := serves.not_cache ready inv.grows leads'
  refine inv.sets ready (serves.next _ ?_) (saving_eq now) rfl ?_ leads' ?_ (fun j _ => nobody j)
    adds.at?_eq
  · rintro rest ⟨⟩
    exact ⟨[.parents, .create], rfl⟩
  · simp
  · rw [← inv.rest key notCache nobody, none]

/-- A process writes its file beside. -/
theorem writes (ready : c.Ready start) {stage stage' : Stage} {bytes : ByteArray}
    (now : w.processes i = some ⟨s, stage⟩) (held : stage.holds = true)
    (serves : c.Serves ⟨s, stage'⟩) (holds : stage'.holds = true)
    (last : stage' = .making [.replace] → bytes = s.payload)
    (run : w.fs.write s.cwd s.beside bytes = .ok fs) :
    c.Whole start made (w.move fs i ⟨s, stage'⟩) := by
  obtain ⟨key, leads, none, old, file, -⟩ := inv.file i _ now held
  have leads' := (inv.leads_beside ready (inv.serves i _ now)).mpr leads
  rw [leads'.write file] at run
  obtain rfl := Except.ok.inj run
  refine inv.sets ready serves (saving_eq now) holds last leads none (fun j ne hj => ?_)
    (at?_put w.fs (ne_root_of_file file) _)
  exact ne (inv.alone j i key hj ⟨_, now, held, leads⟩)

/-- A process puts its file beside in the cache's place. -/
theorem replaces (ready : c.Ready start) (now : w.processes i = some ⟨s, .making [.replace]⟩)
    (run : w.fs.replace s.cwd s.beside s.path = .ok fs) :
    c.Whole start made (w.move fs i ⟨s, .making []⟩) := by
  have serves := inv.serves i _ now
  obtain ⟨beside, leads, none, bytes, file, last⟩ := inv.file i _ now rfl
  obtain rfl := last rfl
  have leads' := (inv.leads_beside ready serves).mpr leads
  have found : w.fs.resolve s.cwd false s.beside = .ok (beside, some (.file s.payload)) := by
    rw [leads', file]
  obtain ⟨key, n, ht, noDir, rfl⟩ := replace_eq_ok found run
  obtain ⟨target, hn⟩ := leadsTo_of_resolve ht
  have cwd : s.cwd = c.cwd := serves.cwd
  have path : s.path = c.path := serves.path
  rw [cwd, path] at target
  have target' := (inv.leads_cache ready).mp target
  have rootB : beside ≠ [] := ne_root_of_file file
  have rootK : key ≠ [] := ne_root_of_at? (hn ▸ noDir)
  have at?_eq : ∀ k, ((w.fs.erase beside).put key (.file s.payload)).at? k =
      if k = key then some (.file s.payload) else if k = beside then Option.none
      else w.fs.at? k := by
    intro k
    rw [at?_put _ rootK, at?_erase _ rootB]
  have ne : beside ≠ key := by
    rintro rfl
    exact serves.not_cache ready inv.grows leads target'
  have before : made.at? key ≠ some .dir := inv.not_dir (hn ▸ noDir)
  refine inv.releases ready now rfl (serves.next _ ?_) rfl leads ?_ (fun k hc => ?_)
    fun k hk hc => ?_
  · rintro rest ⟨⟩
    exact List.nil_suffix
  · rw [at?_eq, if_neg ne, if_pos rfl]
  · obtain rfl := hc.unique target'
    refine .inr ⟨before, .inr ⟨s.payload, ⟨i, _, World.move_same .., rfl⟩, ?_⟩⟩
    rw [World.move_fs, at?_eq, if_pos rfl]
  · have notKey : k ≠ key := by
      rintro rfl
      exact hc target'
    rw [at?_eq, if_neg notKey, if_neg hk]

/-- A process cleans up after a step that failed. -/
theorem cleans (ready : c.Ready start) {step : SaveStep}
    (now : w.processes i = some ⟨s, .failed step⟩) :
    c.Whole start made
      (w.move (if step.leavesFile then s.cleanUp w.fs else w.fs) i ⟨s, .ended⟩) := by
  have serves := inv.serves i _ now
  have done : c.Serves ⟨s, .ended⟩ := serves.next _ (by rintro rest ⟨⟩)
  cases leaves : step.leavesFile with
  | false =>
    rw [if_neg (by simp)]
    exact inv.stays now done leaves.symm (by simp)
  | true =>
    rw [if_pos rfl]
    obtain ⟨key, leads, none, bytes, file, -⟩ := inv.file i _ now leaves
    have leads' := (inv.leads_beside ready serves).mpr leads
    have root : key ≠ [] := ne_root_of_file file
    have erased : s.cleanUp w.fs = w.fs.erase key := by
      rw [Saving.cleanUp, leads'.unlink file]
    rw [erased]
    refine inv.releases ready now leaves done rfl leads ?_ (fun k hc => ?_) fun k hk _ => ?_
    · rw [at?_erase _ root, if_pos rfl]
    · refine (inv.cache k hc).move ?_ (saving_eq now)
      rw [at?_erase _ root, if_neg]
      rintro rfl
      exact serves.not_cache ready inv.grows leads hc
    · rw [at?_erase _ root, if_neg hk]

/-- Some process clears the cache. -/
theorem clears (ready : c.Ready start) :
    c.Whole start made ⟨c.afterClear w.fs, w.processes⟩ := by
  rcases c.afterClear_cases w.fs with same | ⟨key, n, hr, noDir, erased⟩
  · rw [same]
    exact inv
  · obtain ⟨leads, hn⟩ := leadsTo_of_resolve hr
    have leads' := (inv.leads_cache ready).mp leads
    have there : w.fs.at? key ≠ some .dir := by rw [hn]; simpa using noDir
    have root : key ≠ [] := ne_root_of_at? there
    have before : made.at? key ≠ some .dir := inv.not_dir there
    have at?_eq : ∀ k, k ≠ key → (c.afterClear w.fs).at? k = w.fs.at? k := by
      intro k hk
      rw [erased, at?_erase _ root, if_neg hk]
    refine ⟨inv.grows, inv.settled, inv.serves, fun i p hp holds => ?_, inv.alone, fun k hc => ?_,
      fun k hc none => ?_⟩
    · obtain ⟨k, hl, free, found⟩ := inv.file i p hp holds
      refine ⟨k, hl, free, ?_⟩
      rw [at?_eq k]
      · exact found
      · rintro rfl
        exact (inv.serves i p hp).not_cache ready inv.grows hl leads'
    · obtain rfl := hc.unique leads'
      refine .inr ⟨before, .inl ?_⟩
      simp only [erased]
      rw [at?_erase _ root, if_pos rfl]
    · have hk : k ≠ key := by
        rintro rfl
        exact hc leads'
      exact (at?_eq k hk).trans (inv.rest k hc none)

/-- The directories are made, and the process is at another stage. -/
theorem parents_stays (ready : c.Ready start) {p : Process} {stage : Stage}
    (now : w.processes i = some p) (serves : c.Serves ⟨p.saving, stage⟩)
    (holds : stage.holds = p.stage.holds) (last : stage ≠ .making [.replace]) :
    ∃ made', c.Whole start made'
      (w.move (w.fs.mkdirs c.cwd c.path.parent).1 i ⟨p.saving, stage⟩) := by
  obtain ⟨made', inv'⟩ := inv.parents ready
  exact ⟨made', inv'.stays now serves holds last⟩

/-- A step that is made. -/
theorem makes (ready : c.Ready start) {step : SaveStep} {rest : List SaveStep}
    (now : w.processes i = some ⟨s, .making (step :: rest)⟩)
    (run : step.run s w.fs = (fs, none)) :
    ∃ made', c.Whole start made' (w.move fs i ⟨s, .making rest⟩) := by
  have serves := inv.serves i _ now
  have suffix : step :: rest <:+ SaveStep.all := serves.steps _ rfl
  have next : c.Serves ⟨s, .making rest⟩ := by
    refine serves.next _ ?_
    rintro rest' ⟨⟩
    exact (List.suffix_cons step rest).trans suffix
  rcases steps_cases suffix with ⟨rfl, rfl⟩ | ⟨rfl, rfl⟩ | ⟨rfl, rfl⟩ | ⟨rfl, rfl⟩
  · have made' := inv.parents_stays ready now next rfl (by simp)
    have dirs : w.fs.mkdirs c.cwd c.path.parent = (fs, none) := by
      rw [← serves.cwd, ← serves.path]
      exact run
    rw [dirs] at made'
    exact made'
  · exact ⟨made, inv.creates ready now (attempt_eq_ok run)⟩
  · exact ⟨made, inv.writes ready now rfl next rfl (fun _ => rfl) (attempt_eq_ok run)⟩
  · exact ⟨made, inv.replaces ready now (attempt_eq_ok run)⟩

/-- A step that fails. -/
theorem fails (ready : c.Ready start) {step : SaveStep} {rest : List SaveStep} {e : OsError}
    (now : w.processes i = some ⟨s, .making (step :: rest)⟩)
    (run : step.run s w.fs = (fs, some e)) :
    ∃ made', c.Whole start made' (w.move fs i ⟨s, .failed step⟩) := by
  have serves := inv.serves i _ now
  have failed : c.Serves ⟨s, .failed step⟩ := serves.next _ (by rintro rest ⟨⟩)
  cases step with
  | parents =>
    have made' := inv.parents_stays ready now failed rfl (by simp)
    have dirs : w.fs.mkdirs c.cwd c.path.parent = (fs, some e) := by
      rw [← serves.cwd, ← serves.path]
      exact run
    rw [dirs] at made'
    exact made'
  | create | write | replace =>
    obtain rfl := attempt_eq_error run
    exact ⟨made, inv.stays now failed rfl (by simp)⟩

end Whole

/-! ## The run -/

/-- Every move keeps the invariant. -/
theorem whole_of_moves (ready : c.Ready start) {w' : World} (inv : c.Whole start made w)
    (moves : c.Moves w w') : ∃ made', c.Whole start made' w' := by
  cases moves with
  | begins idle token store usages key =>
    refine ⟨made, inv.begins idle ⟨rfl, rfl, ⟨token, rfl⟩, ?_⟩ rfl⟩
    rintro rest ⟨⟩
    exact List.suffix_refl _
  | makes now run => exact inv.makes ready now run
  | fails now run => exact inv.fails ready now run
  | @refused i s step rest now =>
    have failed : c.Serves ⟨s, .failed step⟩ := (inv.serves i _ now).next _ (by rintro rest ⟨⟩)
    exact ⟨made, inv.stays now failed rfl (by simp)⟩
  | @tears i s rest fs now part run =>
    have serves := inv.serves i _ now
    refine ⟨made, inv.writes ready now rfl serves rfl ?_ (attempt_eq_ok run)⟩
    simp
  | cleans now => exact ⟨made, inv.cleans ready now⟩
  | clears => exact ⟨made, inv.clears ready⟩

/-- The invariant holds in every state that can be reached. -/
theorem whole_of_reaches (ready : c.Ready start) (reaches : c.Reaches start w) :
    ∃ made, c.Whole start made w := by
  induction reaches with
  | refl => exact ⟨start, whole_start start⟩
  | tail _ moves ih =>
    obtain ⟨made, inv⟩ := ih
    exact whole_of_moves ready inv moves

namespace Whole

variable (inv : c.Whole start made w)

include inv

/-- What the cache's path leads to. -/
theorem cache_of_resolve {key : List String} {n : FileNode}
    (h : w.fs.resolve c.cwd false c.path = .ok (key, some n)) :
    made.resolve c.cwd false c.path = .ok (key, some n) ∨
      ∃ bytes, w.Saves bytes ∧ n = .file bytes := by
  obtain ⟨leads, hn⟩ := leadsTo_of_resolve h
  have leads' := leads.keeps inv.keeps_back
  rcases inv.cache key leads' with same | ⟨-, none | ⟨bytes, saves, file⟩⟩
  · rw [← hn, same]
    exact .inl leads'
  · rw [none] at hn
    cases hn
  · rw [file] at hn
    exact .inr ⟨bytes, saves, (Option.some.inj hn).symm⟩

/-- What reading the cache gives. -/
theorem bytes_of_read (ready : c.Ready start) {bytes : ByteArray}
    (h : w.fs.read c.cwd c.path = .ok bytes) :
    made.read c.cwd c.path = .ok bytes ∨ w.Saves bytes := by
  obtain ⟨path, place, follow⟩ := read_eq_ok_iff.mp h
  by_cases link : ∃ key target, w.fs.resolve c.cwd false c.path = .ok (key, some (.link target))
  · -- Through a link of the start: it leads to no file beside, and to nothing that saves put there.
    obtain ⟨key, target, hr⟩ := link
    have leads := (leadsTo_of_resolve hr).1.keeps inv.keeps_back
    have atKey := (leadsTo_of_resolve hr).2
    have before : made.at? key = some (.link target) := by
      rcases inv.cache_of_resolve hr with same | ⟨_, -, e⟩
      · exact (leadsTo_of_resolve same).2
      · cases e
    have file : w.fs.at? place = some (.file bytes) := at?_of_resolveFrom _ _ _ follow
    have notKey : ¬ made.LeadsTo c.cwd c.path place := by
      intro hc
      rw [hc.unique leads, atKey] at file
      cases file
    have same : w.fs.at? place = made.at? place := by
      refine inv.rest place notKey fun i hi => ?_
      obtain ⟨none, -⟩ := inv.keeper_at? hi
      obtain ⟨p, hp, -, hl⟩ := hi
      obtain ⟨token, hb⟩ := (inv.serves i p hp).beside
      rw [(inv.serves i p hp).cwd, hb] at hl
      refine ready.apart made inv.grows key target leads before token place hl ?_
      rw [resolve_true_keeps inv.keeps_back (by simp [none]) follow, none]
    have stays : ∀ target, made.at? place ≠ some (.link target) := by simp [← same, file]
    refine .inl (read_eq_ok_iff.mpr ⟨path, place, ?_⟩)
    rw [resolve_true_keeps inv.keeps_back stays follow, ← same, file]
  · have follow' : w.fs.resolve c.cwd true c.path = w.fs.resolve c.cwd false c.path :=
      resolve_follow fun key target e => link ⟨key, target, e⟩
    rw [follow'] at follow
    rcases inv.cache_of_resolve follow with same | ⟨bytes', saves, e⟩
    · have stays : ∀ target, made.at? place ≠ some (.link target) := by
        rw [(leadsTo_of_resolve same).2]
        simp
      refine .inl (read_eq_ok_iff.mpr ⟨path, place, ?_⟩)
      rw [(leadsTo_of_resolve same).1.follow stays, (leadsTo_of_resolve same).2]
    · cases e
      exact .inr saves

/-- What holds with the directories made held at the start. -/
theorem initially {P : FileSystem → Prop} (h : P made) : c.Initially start P := by
  by_cases place : ∃ key, start.LeadsTo c.cwd c.path key
  · rw [inv.settled place] at h
    exact .inl h
  · exact .inr ⟨not_exists.mp place, made, inv.grows, h⟩

end Whole

/-- **Many writers.** However many processes save and clear the cache, however their steps fall, fail
or stop: what the cache's path leads to is what it led to at the start, or the whole payload of one of
the saves. So loading gives nothing, because nothing can be read, or what one of these gives. -/
theorem load_of_reaches (ready : c.Ready start) (reaches : c.Reaches start w) :
    (∀ key n, w.fs.resolve c.cwd false c.path = .ok (key, some n) →
      c.Initially start (fun fs => fs.resolve c.cwd false c.path = .ok (key, some n)) ∨
        ∃ bytes, w.Saves bytes ∧ n = .file bytes) ∧
    ∀ room expected,
      (∃ e, w.fs.read c.cwd c.path = .error e ∧
        c.load room w.fs expected = LoadOutcome.ofRead room expected (.error e)) ∨
      ∃ bytes, w.fs.read c.cwd c.path = .ok bytes ∧
        c.load room w.fs expected = LoadOutcome.ofRead room expected (.ok bytes) ∧
        (c.Initially start (fun fs => fs.read c.cwd c.path = .ok bytes) ∨ w.Saves bytes) := by
  obtain ⟨made, inv⟩ := whole_of_reaches ready reaches
  refine ⟨fun key n h => ?_, fun room expected => ?_⟩
  · rcases inv.cache_of_resolve h with same | saved
    · exact .inl (inv.initially same)
    · exact .inr saved
  · unfold load
    cases h : w.fs.read c.cwd c.path with
    | error e => exact .inl ⟨e, rfl, rfl⟩
    | ok bytes =>
      refine .inr ⟨bytes, rfl, rfl, ?_⟩
      rcases inv.bytes_of_read ready h with same | saved
      · exact .inl (inv.initially same)
      · exact .inr saved

end Invariant

/-! ## Two writers -/

def topCache : ScanCache := ⟨[], ⟨"/", ["c.json"]⟩⟩

/-- Nothing but some old cache. -/
def topFiles : FileSystem := ⟨[(["c.json"], .file "old".toUTF8)]⟩

theorem leadsTo_top (fs : FileSystem) {name : String} (up : name ≠ "..")
    (short : ¬ maxName < name.utf8ByteSize) : fs.LeadsTo [] ⟨"/", [name]⟩ [name] :=
  resolveFrom_last fs maxLinks [] up short

theorem ready_topFiles : topCache.Ready topFiles := by
  refine ready_of_no_link (by decide) (rooted_nil _) fun made grows key target h => ?_
  have leads : topFiles.LeadsTo [] ⟨"/", ["c.json"]⟩ ["c.json"] :=
    leadsTo_top topFiles (by decide) (by decide)
  obtain ⟨hl, link⟩ := leadsTo_of_resolve h
  rw [hl.unique (leads.keeps grows.keeps), grows.stays ["c.json"] (.file "old".toUTF8) rfl] at link
  cases link

/-- One process stops with half its payload written, another one saves, and the cache is whole. -/
theorem load_of_reaches_stopped : ∃ w, topCache.Reaches topFiles w ∧
    (∃ s, w.processes 0 = some ⟨s, .making [.write, .replace]⟩) ∧
    (w.processes 1).isSome = true ∧
    ∀ room expected,
      (∃ e, w.fs.read topCache.cwd topCache.path = .error e ∧
        topCache.load room w.fs expected = LoadOutcome.ofRead room expected (.error e)) ∨
      ∃ bytes, w.fs.read topCache.cwd topCache.path = .ok bytes ∧
        topCache.load room w.fs expected = LoadOutcome.ofRead room expected (.ok bytes) ∧
        (topCache.Initially topFiles (fun fs => fs.read topCache.cwd topCache.path = .ok bytes) ∨
          w.Saves bytes) := by
  let s := topCache.saving "t" Store.empty none "k"
  have beside : s.beside = ⟨"/", [".c.json.t.tmp"]⟩ := by decide
  have top : topFiles.LeadsTo [] ⟨"/", ["c.json"]⟩ ["c.json"] :=
    leadsTo_top topFiles (by decide) (by decide)
  have parents : SaveStep.parents.run s topFiles = (topFiles, none) :=
    top.mkdirs_parent (rooted_nil _) rfl (by decide)
  let created := topFiles.put [".c.json.t.tmp"] (.file ByteArray.empty)
  have leads : ∀ fs : FileSystem, fs.LeadsTo [] s.beside [".c.json.t.tmp"] :=
    fun fs => beside ▸ leadsTo_top fs (by decide) (by decide)
  have create : SaveStep.create.run s topFiles = (created, none) := by
    have free : topFiles.resolve s.cwd false s.beside = .ok ([".c.json.t.tmp"], none) :=
      leads topFiles
    simp only [SaveStep.run, createNew, free, attempt, created]
  have tear : SaveStep.write.run { s with payload := "half".toUTF8 } created =
      (created.put [".c.json.t.tmp"] (.file "half".toUTF8), none) := by
    have file : created.at? [".c.json.t.tmp"] = some (.file ByteArray.empty) := by
      rw [at?_put _ (by simp), if_pos rfl]
    have wrote : created.write s.cwd s.beside "half".toUTF8 =
        .ok (created.put [".c.json.t.tmp"] (.file "half".toUTF8)) := (leads created).write file _
    simp only [SaveStep.run, wrote, attempt]
  let start : World := ⟨topFiles, fun _ => none⟩
  let stateAt (fs : FileSystem) (rest : List SaveStep) : World := start.move fs 0 ⟨s, .making rest⟩
  have now : ∀ fs rest, (stateAt fs rest).processes 0 = some ⟨s, .making rest⟩ :=
    fun fs rest => World.move_same ..
  have begins : topCache.Moves start (stateAt topFiles [.parents, .create, .write, .replace]) :=
    .begins rfl "t" Store.empty none "k"
  have parents' := Moves.makes (c := topCache) (now topFiles [.parents, .create, .write, .replace])
    parents
  have create' := Moves.makes (c := topCache) (now topFiles [.create, .write, .replace]) create
  have tear' := Moves.tears (c := topCache) (now created [.write, .replace]) _ tear
  simp only [stateAt, World.move_move] at begins parents' create' tear'
  obtain ⟨stage, -, saved⟩ := reaches_run (c := topCache) (fun _ => none)
    (World.move_other start _ 0 _ (by decide : 1 ≠ 0)) "u" Store.empty none "k"
  have reaches : topCache.Reaches topFiles _ :=
    ((((Relation.ReflTransGen.single begins).tail parents').tail create').tail tear').trans saved
  refine ⟨_, reaches, ⟨s, ?_⟩, ?_, (load_of_reaches ready_topFiles reaches).2⟩
  · rw [World.move_other _ _ _ _ (by decide), World.move_same]
  · rw [World.move_same]
    rfl

end ScanCache

end DomainAtlas
