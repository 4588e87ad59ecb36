import DomainAtlas.Proofs.Index.Envelope
import DomainAtlas.Proofs.Scan.Identity
import DomainAtlas.Proofs.Scan.Obtaining

/-!
# The cache over a history of runs

Runs of any kind share one cache file: they differ in root, settings and flags, some may not read the
cache, some scans fail, some saves fail, files are edited in between and the cache is deleted at times.
Nothing else touches the cache file. The file then holds exactly what was saved last, if anything was
since the last deletion (`Slot`), and that decides what every further run takes from it.

Results:
* `Job.kept_run`: what a scan comes to survives being written and read.
* `slot_of_reaches`: along every history the cache file holds the latest saved result, or there is none.
* `Call.obtain_after`: a run takes exactly the latest saved result from the cache, when that is of the
  same root and kind, and then reads no source file.
-/
namespace DomainAtlas.Scan

/-! ## What a scan gives can be kept -/

/-- What was gathered survives being written and read. -/
structure Gathered.Kept (g : Gathered) : Prop where
  store : g.store.Kept
  usages : ∀ u, g.usages = some u → u.Proper

theorem Gathered.kept_start (trackUsages : Bool) : (Gathered.start trackUsages).Kept := by
  refine ⟨⟨Store.proper_empty, by simp [Gathered.start, Store.definitions, Store.empty]⟩, ?_⟩
  intro u hu
  cases trackUsages with
  | false => cases hu
  | true =>
    obtain rfl := Option.some.inj hu
    exact UsageIndex.proper_empty

theorem Method.sound_of_examine {m : Method} {path : String} {bytes : ByteArray} {c : Contribution}
    (h : m.examine path bytes = .ok c) {d : Definition} (hd : c.definition = some d) : d.Sound := by
  unfold Method.examine at h
  split at h
  · cases h
  · next dialect _ =>
    split at h
    · cases h
    · next root _ =>
      simp only at h
      split at h
      · cases h
      · next definition hx =>
        obtain rfl := Except.ok.inj h
        simp only at hd
        subst hd
        unfold Extraction.Extractor.definition at hx
        cases hc : m.extractor.captures dialect root with
        | error p => rw [hc] at hx; cases hx
        | ok cs =>
          rw [hc] at hx
          exact Extraction.Extractor.sound_of_definitionOf (Except.ok.inj hx)

theorem Gathered.Kept.add {g : Gathered} (h : g.Kept) {path : String} {c : Contribution}
    (sound : ∀ d, c.definition = some d → d.Sound) : (g.add path c).Kept := by
  constructor
  · cases hd : c.definition with
    | none => simpa [Gathered.add, hd] using h.store
    | some d =>
      have hs : (g.add path c).store = g.store.insert d := by simp [Gathered.add, hd]
      rw [hs]
      refine ⟨h.store.proper.insert d, fun e he => ?_⟩
      rcases Store.mem_definitions_insert he with rfl | he
      · exact sound _ hd
      · exact h.store.sound e he
  · intro u hu
    obtain ⟨v, hv, rfl⟩ := Option.map_eq_some_iff.1 hu
    exact (h.usages v hv).extend _ _

theorem Method.kept_gather (m : Method) (reads : List Read) {g g' : Gathered} (h : g.Kept)
    (hg : (m.gather g reads).2 = .ok g') : g'.Kept := by
  induction reads generalizing g with
  | nil =>
    obtain rfl := Except.ok.inj hg
    exact h
  | cons r reads ih =>
    cases hr : r.content with
    | error e =>
      have miss : (g.miss r.path e).Kept := ⟨h.store, h.usages⟩
      rw [m.gather_cons_error g hr] at hg
      exact ih miss hg
    | ok bytes =>
      cases he : m.examine r.path bytes with
      | error f =>
        rw [Method.gather, hr] at hg
        simp only [he] at hg
        cases hg
      | ok c =>
        rw [m.gather_cons_ok g hr he] at hg
        exact ih (h.add fun d hd => Method.sound_of_examine he hd) hg

/-- A result of a fresh scan, in a form that survives being written and read. -/
structure Result.Kept (r : Result) : Prop where
  fresh : r.fromCache = false
  store : r.definitions.Kept
  usages : ∀ u, r.usages = some u → u.Proper

theorem Job.kept_finish {j : Job} {n : Nat} {reads : List Read} {r : Result}
    (h : (j.finish n reads).2 = .ok r) : r.Kept := by
  unfold Job.finish at h
  rcases hg : j.method.gather (.start j.trackUsages) reads with ⟨events, _ | g⟩
  · rw [hg] at h
    cases h
  · have kept : g.Kept :=
      j.method.kept_gather reads (Gathered.kept_start j.trackUsages) (by rw [hg])
    rw [hg] at h
    obtain rfl := Except.ok.inj h
    exact ⟨rfl, kept.store, kept.usages⟩

theorem Job.kept_run {j : Job} {tree : Tree} {r : Result} (h : (j.run tree).2 = .ok r) :
    r.Kept := by
  unfold Job.run at h
  rcases he : j.enumerate tree with ⟨found, _ | paths⟩
  · rw [he] at h
    cases h
  · rw [he] at h
    exact Job.kept_finish h

/-! ## Runs -/

/-- A run that is asked for. -/
structure Call where
  job : Job
  /-- Whether the cache may be read. -/
  reads : Bool
  /-- The room there is to read it. -/
  room : Json.Room
  /-- The name of the file beside. -/
  token : String
  /-- The steps of its save that fail from outside. -/
  fails : SaveStep → Option OsError

namespace Call

variable (k : Call) (c : ScanCache) (fs : FileSystem)

/-- How the cache takes part. -/
def use : CacheUse := ⟨c, k.reads, k.room, k.token, k.fails⟩

/-- What the run leads to. -/
def obtain : Obtained := k.job.obtain (k.use c) fs

/-- The absolute root as text, or why there is none. -/
def root : Except PathFault String :=
  match fs.pathFault? c.cwd k.job.root with
  | some f => .error f
  | none => .ok (fs.realpath c.cwd k.job.root).text

/-- The text that identifies the run, and its digest. -/
def identity : String := cacheKeyText (fs.realpath c.cwd k.job.root) k.job.trackUsages

def key : String := k.job.key c.cwd fs

/-- What the run finds in the cache. -/
def found : Except Fault (Option CachedScan) := (k.job.find (k.use c) fs).2

def save (r : Result) : FileSystem × Option Problem :=
  c.save k.fails k.token r.definitions r.usages (k.key c fs) fs

/-- The run makes a fresh scan with this result, and saves it. -/
def Saves (r : Result) : Prop :=
  (k.obtain c fs).outcome = .ok r ∧ r.fromCache = false ∧ (k.save c fs r).2 = none

variable {k c fs}

/-- A run with a root can look into the cache, and look there for its own key. -/
theorem root_eq_ok_iff {root : String} : k.root c fs = .ok root ↔
    fs.pathFault? c.cwd k.job.root = none ∧ (fs.realpath c.cwd k.job.root).text = root := by
  unfold Call.root
  cases fs.pathFault? c.cwd k.job.root <;> simp

/-- A run fails and at most makes directories; or it takes a scan from the cache; or it finds none
there, gives a fresh result and saves that. -/
theorem obtain_cases (k : Call) (c : ScanCache) (fs : FileSystem) :
    (∃ f, (k.obtain c fs).outcome = .error f ∧ fs.Grows (k.obtain c fs).fs) ∨
    (∃ s, k.found c fs = .ok (some s)) ∨
    ∃ r, k.found c fs = .ok none ∧ (k.job.run (fs.tree c.cwd k.job.root)).2 = .ok r ∧
      (k.obtain c fs).outcome = .ok r ∧ (k.obtain c fs).fs = (k.save c fs r).1 ∧
      ((k.save c fs r).2 = none → c.path.hasZero = false) := by
  cases h : k.found c fs with
  | error f =>
    obtain ⟨failed, same⟩ := Job.obtain_of_find_error h
    exact .inl ⟨f, failed, same.symm ▸ FileSystem.Grows.refl fs⟩
  | ok found =>
    cases found with
    | some s => exact .inr (.inl ⟨s, rfl⟩)
    | none =>
      obtain ⟨outcome, after⟩ := Job.obtain_of_find_none h
      unfold obtain
      rw [outcome, after]
      cases ran : (k.job.run (fs.tree c.cwd k.job.root)).2 with
      | error f =>
        obtain ⟨failed, same⟩ := Job.refresh_of_run_error (u := k.use c) (k.key c fs) ran
        exact .inl ⟨f, failed, same.symm ▸ FileSystem.Grows.refl fs⟩
      | ok r =>
        obtain ⟨given, left⟩ := Job.refresh_of_run_ok (u := k.use c) (k.key c fs) ran
        rcases (k.use c).save_cases fs (k.key c fs) r with ⟨f, failed, grows⟩ | ⟨⟨event, done⟩, same, whole⟩
        · rw [failed] at given
          exact .inl ⟨f, given, left.symm ▸ grows⟩
        · rw [done] at given
          exact .inr (.inr ⟨r, rfl, rfl, given, left.trans same, whole⟩)

theorem save_of_run {r : Result} {fs' : FileSystem}
    (h : (c.saving k.token r.definitions r.usages (k.key c fs)).run k.fails fs = (fs', none)) :
    k.save c fs r = (fs', none) := by
  unfold save ScanCache.save
  rw [h]
  rfl

/-- Loading finds nothing where there is no cache file. -/
theorem load_of_vacant (h : c.Vacant fs) (whole : c.path.hasZero = false) (room : Json.Room)
    (expected : Option String) :
    ∃ outcome, c.load room fs expected = .ok outcome ∧ outcome.scan? = none := by
  obtain ⟨f, text, failed⟩ := h.read whole
  rw [ScanCache.load, failed]
  cases f <;> exact ⟨_, rfl, rfl⟩

theorem not_found_of_vacant (h : c.Vacant fs) (s : CachedScan) : k.found c fs ≠ .ok (some s) := by
  intro found
  obtain ⟨-, outcome, loaded, scan⟩ := Job.found_scan k.job found
  obtain ⟨outcome', loaded', none⟩ :=
    load_of_vacant h (ScanCache.whole_of_load loaded) k.room (some (k.key c fs))
  obtain rfl := Except.ok.inj (loaded.symm.trans loaded')
  cases scan.symm.trans none

theorem found_of_vacant (h : c.Vacant fs) (rooted : fs.pathFault? c.cwd k.job.root = none)
    (whole : c.path.hasZero = false) : k.found c fs = .ok none := by
  rw [found, Job.find_of_root k.job rooted]
  cases reads : k.reads with
  | false => simp only [CacheUse.load, use, reads, Bool.not_false, if_true]
  | true =>
    obtain ⟨outcome, loaded, none⟩ := load_of_vacant h whole k.room (some (k.key c fs))
    rw [CacheUse.load_of_reads reads]
    simp only [use]
    rw [show k.job.key c.cwd fs = k.key c fs from rfl, loaded]
    simp only [none]

/-- A scan that is found in a saved result is that result, under the key of the run. -/
theorem found_of_holds {r : Result} {key : String} (kept : r.Kept)
    (h : c.Holds fs (Envelope.text r.definitions r.usages key).toUTF8) {s : CachedScan}
    (found : k.found c fs = .ok (some s)) :
    key = k.key c fs ∧ s = ⟨r.definitions, r.usages, .str key⟩ := by
  obtain ⟨-, outcome, loaded, scan⟩ := Job.found_scan k.job found
  have whole := LoadOutcome.ofRead_payload kept.store kept.usages k.room (k.key c fs) key
  have read := h.read (ScanCache.whole_of_load loaded)
  unfold ScanCache.load at loaded
  simp only [use, read] at loaded
  obtain rfl := Except.ok.inj (loaded.symm.trans whole)
  by_cases own : key = k.key c fs
  · rw [if_pos own] at scan
    exact ⟨own, (Option.some.inj scan).symm⟩
  · rw [if_neg own] at scan
    cases scan

/-- A saved result is found under its own key, by a run that may read the cache. -/
theorem found_of_key {r : Result} (kept : r.Kept)
    (h : c.Holds fs (Envelope.text r.definitions r.usages (k.key c fs)).toUTF8)
    (rooted : fs.pathFault? c.cwd k.job.root = none) (whole : c.path.hasZero = false)
    (reads : k.reads = true) :
    k.found c fs = .ok (some ⟨r.definitions, r.usages, .str (k.key c fs)⟩) := by
  have loaded := LoadOutcome.ofRead_payload kept.store kept.usages k.room (k.key c fs) (k.key c fs)
  rw [if_pos rfl, ← h.read whole] at loaded
  rw [found, Job.find_of_root k.job rooted, CacheUse.load_of_reads reads]
  simp only [use, ScanCache.load]
  rw [show k.job.key c.cwd fs = k.key c fs from rfl, loaded]
  rfl

end Call

/-! ## Histories -/

/-- Something that happens; the latest is last in a history. -/
inductive Happening where
  /-- A run, on the file system it found. -/
  | called (k : Call) (fs : FileSystem)
  /-- Files were changed, but not the cache file. -/
  | edited
  /-- The cache was deleted, if it was there. A deletion that is refused is a mere edit: it changes
  nothing. -/
  | cleared

/-- Nothing was done to the cache file. -/
def Untouched (c : ScanCache) (fs fs' : FileSystem) : Prop :=
  (∀ bytes, c.Holds fs bytes → c.Holds fs' bytes) ∧ (c.Vacant fs → c.Vacant fs')

/-- The histories that start without a cache file, each with the file system it leads to. -/
inductive Reaches (c : ScanCache) : List Happening → FileSystem → Prop
  | start {fs : FileSystem} (h : c.Vacant fs) : Reaches c [] fs
  | call {log : List Happening} {fs : FileSystem} (h : Reaches c log fs) (k : Call) :
    Reaches c (log ++ [.called k fs]) (k.obtain c fs).fs
  | edit {log : List Happening} {fs fs' : FileSystem} (h : Reaches c log fs)
    (untouched : Untouched c fs fs') : Reaches c (log ++ [.edited]) fs'
  | clear {log : List Happening} {fs : FileSystem} (h : Reaches c log fs) :
    Reaches c (log ++ [.cleared]) (c.afterClear fs)

/-- It changes what is in the cache file: a deletion does, and a run that saves a result. -/
def Happening.Renews (c : ScanCache) : Happening → Prop
  | .called k fs => ∃ r, k.Saves c fs r
  | .edited => False
  | .cleared => True

/-- The run saved this result, and since then no other was saved and the cache was not deleted. -/
def LatestSaved (c : ScanCache) (log : List Happening) (k : Call) (fs : FileSystem) (r : Result) :
    Prop :=
  ∃ before after, log = before ++ .called k fs :: after ∧ k.Saves c fs r ∧
    ∀ h ∈ after, ¬ h.Renews c

section Latest

variable {c : ScanCache} {log : List Happening} {k : Call} {fs : FileSystem} {r : Result}

theorem not_latestSaved_nil : ¬ LatestSaved c [] k fs r := by
  rintro ⟨before, after, h, -⟩
  cases before <;> cases h

theorem latestSaved_iff : LatestSaved c log k fs r ↔ ∃ before h after,
    log = before ++ h :: after ∧ (h = .called k fs ∧ k.Saves c fs r) ∧ ∀ h ∈ after, ¬ h.Renews c := by
  constructor
  · rintro ⟨before, after, e, saves, quiet⟩
    exact ⟨before, _, after, e, ⟨rfl, saves⟩, quiet⟩
  · rintro ⟨before, _, after, e, ⟨rfl, saves⟩, quiet⟩
    exact ⟨before, after, e, saves, quiet⟩

theorem latestSaved_concat (h : Happening) :
    LatestSaved c (log ++ [h]) k fs r ↔
      (h = .called k fs ∧ k.Saves c fs r) ∨ (¬ h.Renews c ∧ LatestSaved c log k fs r) := by
  rw [latestSaved_iff, latestSaved_iff]
  exact exists_last_concat log h

theorem latestSaved_concat_of_quiet {h : Happening} (quiet : ¬ h.Renews c) :
    LatestSaved c (log ++ [h]) k fs r ↔ LatestSaved c log k fs r := by
  rw [latestSaved_concat]
  constructor
  · rintro (⟨rfl, saves⟩ | ⟨-, latest⟩)
    · exact absurd ⟨r, saves⟩ quiet
    · exact latest
  · exact fun latest => .inr ⟨quiet, latest⟩

end Latest

/-! ## What the cache file holds -/

/-- The bytes a run writes for a result. -/
def Call.payload (k : Call) (c : ScanCache) (fs : FileSystem) (r : Result) : ByteArray :=
  (Envelope.text r.definitions r.usages (k.key c fs)).toUTF8

/-- After a history there is no cache file and no saved result, or the file holds the latest one. -/
inductive Slot (c : ScanCache) (log : List Happening) (fs : FileSystem) : Prop
  | vacant (h : c.Vacant fs) (none : ∀ k fs' r, ¬ LatestSaved c log k fs' r)
  | held {k : Call} {found : FileSystem} {r : Result}
    (latest : ∀ k' fs' r', LatestSaved c log k' fs' r' ↔ k' = k ∧ fs' = found ∧ r' = r)
    (kept : r.Kept) (whole : c.path.hasZero = false) (h : c.Holds fs (k.payload c found r))

section Slot

variable {c : ScanCache} {log : List Happening} {fs fs' : FileSystem} {k : Call} {r : Result}

theorem Slot.present (slot : Slot c log fs) : c.Vacant fs ∨ ∃ bytes, c.Holds fs bytes := by
  cases slot with
  | vacant h none => exact .inl h
  | held latest kept whole h => exact .inr ⟨_, h⟩

/-- What does not renew the cache file leaves it as it is. -/
theorem Slot.quiet (slot : Slot c log fs) {h : Happening} (quiet : ¬ h.Renews c)
    (untouched : Untouched c fs fs') : Slot c (log ++ [h]) fs' := by
  cases slot with
  | vacant h none =>
    refine .vacant (untouched.2 h) fun k fs' r latest => ?_
    exact none k fs' r ((latestSaved_concat_of_quiet quiet).1 latest)
  | held latest kept whole h =>
    refine .held (fun k' fs' r' => ?_) kept whole (untouched.1 _ h)
    rw [latestSaved_concat_of_quiet quiet]
    exact latest k' fs' r'

/-- The latest saved result is the one in the cache file. -/
theorem Slot.of_latest (slot : Slot c log fs) (latest : LatestSaved c log k fs' r) :
    r.Kept ∧ c.path.hasZero = false ∧ c.Holds fs (k.payload c fs' r) := by
  cases slot with
  | vacant h none => exact (none k fs' r latest).elim
  | held only kept whole h =>
    obtain ⟨rfl, rfl, rfl⟩ := (only k fs' r).1 latest
    exact ⟨kept, whole, h⟩

theorem untouched_refl : Untouched c fs fs := ⟨fun _ h => h, fun h => h⟩

theorem untouched_of_grows (grows : fs.Grows fs') : Untouched c fs fs' :=
  ⟨fun _ h => h.grows grows, fun h => h.grows grows⟩

/-- A file that comes to stand where nothing was is not the cache file, where there is one. -/
theorem untouched_of_addsFile {key : List String} {bytes found : ByteArray}
    (adds : fs.AddsFile key bytes fs') (h : c.Holds fs found) : Untouched c fs fs' := by
  refine ⟨fun bytes' holds => holds.keeps adds.keeps fun k hk => ?_, fun vacant => ?_⟩
  · rw [adds.at?_eq, if_neg, hk]
    rintro rfl
    rw [adds.new] at hk
    cases hk
  · obtain ⟨k, hk⟩ := h
    cases vacant fs (FileSystem.Grows.refl fs) k _ hk

theorem slot_of_saves (saves : k.Saves c fs r) (kept : r.Kept) (whole : c.path.hasZero = false)
    (h : c.Holds fs' (k.payload c fs r)) : Slot c (log ++ [.called k fs]) fs' := by
  refine .held (fun k' fs₂ r' => ?_) kept whole h
  rw [latestSaved_concat]
  constructor
  · rintro (⟨e, saves'⟩ | ⟨quiet, -⟩)
    · obtain ⟨rfl, rfl⟩ := Happening.called.inj e
      exact ⟨rfl, rfl, Except.ok.inj (saves'.1.symm.trans saves.1)⟩
    · exact absurd ⟨r, saves⟩ quiet
  · rintro ⟨rfl, rfl, rfl⟩
    exact .inl ⟨rfl, saves⟩

/-- A run that fails. -/
theorem Slot.called_failed (slot : Slot c log fs) {f : Fault}
    (failed : (k.obtain c fs).outcome = .error f) (grows : fs.Grows (k.obtain c fs).fs) :
    Slot c (log ++ [.called k fs]) (k.obtain c fs).fs := by
  refine slot.quiet (fun ⟨r, saves⟩ => ?_) (untouched_of_grows grows)
  cases failed.symm.trans saves.1

/-- A run that takes its result from the cache. -/
theorem Slot.called_cached (slot : Slot c log fs) {s : CachedScan}
    (h : k.found c fs = .ok (some s)) :
    Slot c (log ++ [.called k fs]) (k.obtain c fs).fs := by
  have cached : k.obtain c fs = _ := Job.obtain_of_find_some h
  rw [cached]
  refine slot.quiet (fun ⟨r, saves⟩ => ?_) untouched_refl
  obtain rfl := Except.ok.inj ((congrArg Obtained.outcome cached).symm.trans saves.1)
  cases saves.2.1

/-- A run that gives a fresh result. -/
theorem Slot.called_fresh (slot : Slot c log fs)
    (run : (k.job.run (fs.tree c.cwd k.job.root)).2 = .ok r)
    (outcome : (k.obtain c fs).outcome = .ok r) (after : (k.obtain c fs).fs = (k.save c fs r).1)
    (whole : (k.save c fs r).2 = none → c.path.hasZero = false) :
    Slot c (log ++ [.called k fs]) (k.obtain c fs).fs := by
  have kept := Job.kept_run run
  rw [after]
  cases hs : (k.save c fs r).2 with
  | none =>
    have holds := ScanCache.holds_save slot.present hs
    rw [ScanCache.saving_payload] at holds
    exact slot_of_saves ⟨outcome, kept.fresh, hs⟩ kept (whole hs) holds
  | some p =>
    -- The failed save keeps what an earlier run has left.
    refine slot.quiet (fun ⟨r', saves⟩ => ?_) (untouched_of_grows (ScanCache.grows_save hs))
    obtain rfl := Except.ok.inj (outcome.symm.trans saves.1)
    cases hs.symm.trans saves.2.2

theorem Slot.called (slot : Slot c log fs) (k : Call) :
    Slot c (log ++ [.called k fs]) (k.obtain c fs).fs := by
  rcases k.obtain_cases c fs with ⟨f, failed, grows⟩ | ⟨s, h⟩ | ⟨r, -, run, outcome, after, whole⟩
  · exact slot.called_failed failed grows
  · exact slot.called_cached h
  · exact slot.called_fresh run outcome after whole

theorem Slot.cleared (slot : Slot c log fs) :
    Slot c (log ++ [.cleared]) (c.afterClear fs) := by
  have vacant : c.Vacant (c.afterClear fs) := by
    rcases slot.present with h | ⟨bytes, h⟩
    · rw [ScanCache.afterClear_of_vacant h]
      exact h
    · exact ScanCache.vacant_afterClear h
  refine .vacant vacant fun k fs' r latest => ?_
  rcases (latestSaved_concat _).1 latest with ⟨e, -⟩ | ⟨quiet, -⟩
  · cases e
  · exact quiet trivial

/-- **The cache file along a history.** -/
theorem slot_of_reaches (h : Reaches c log fs) : Slot c log fs := by
  induction h with
  | start h => exact .vacant h fun _ _ _ => not_latestSaved_nil
  | call h k ih => exact ih.called k
  | edit h untouched ih => exact ih.quiet (fun renews => renews) untouched
  | clear h ih => exact ih.cleared

end Slot

/-! ## What is taken from it -/

/-- Of the runs in a history no two have the same key unless they are identified by the same text. -/
def KeysApart (c : ScanCache) (log : List Happening) : Prop :=
  ∀ k fs k' fs', .called k fs ∈ log → .called k' fs' ∈ log → k.key c fs = k'.key c fs' →
    k.identity c fs = k'.identity c fs'

theorem LatestSaved.mem {c : ScanCache} {log : List Happening} {k : Call} {fs : FileSystem}
    {r : Result} (h : LatestSaved c log k fs r) : .called k fs ∈ log := by
  obtain ⟨before, after, rfl, -⟩ := h
  simp

/-- A run that has saved a result has an absolute root. -/
theorem LatestSaved.rooted {c : ScanCache} {log : List Happening} {k : Call} {fs : FileSystem}
    {r : Result} (h : LatestSaved c log k fs r) :
    k.root c fs = .ok (fs.realpath c.cwd k.job.root).text := by
  obtain ⟨before, after, -, saves, -⟩ := h
  refine Call.root_eq_ok_iff.2 ⟨?_, rfl⟩
  cases rooted : fs.pathFault? c.cwd k.job.root with
  | none => rfl
  | some f =>
    have failed : k.found c fs = .error (.path f) := by rw [Call.found, Job.find, Call.use, rooted]
    cases (Job.obtain_of_find_error failed).1.symm.trans saves.1

/-- **Runs along a history.** Take any history and any run after it. If the run takes its result from
the cache, then some run of the same root and kind before it has saved a fresh result, no other result
was saved since and the cache was not deleted, and both results agree entry by entry. And if the latest
saved result is that of a run of the same root and kind, and the run may read the cache, then it takes
the result from there; it changes nothing, and whatever the source files and the parser are makes no
difference to it. -/
theorem Call.obtain_after {c : ScanCache} {log : List Happening} {fs : FileSystem}
    (history : Reaches c log fs) (k : Call) (apart : KeysApart c (log ++ [.called k fs])) :
    (∀ r, (k.obtain c fs).outcome = .ok r → r.fromCache = true →
      ∃ k' fs' r', LatestSaved c log k' fs' r' ∧ k'.root c fs' = k.root c fs ∧
        k'.job.trackUsages = k.job.trackUsages ∧ r.definitions.items = r'.definitions.items ∧
        r.usages.map UsageIndex.items = r'.usages.map UsageIndex.items) ∧
    (∀ k' fs' r', LatestSaved c log k' fs' r' → k'.root c fs' = k.root c fs →
      k'.job.trackUsages = k.job.trackUsages → k.reads = true →
      (∃ r, (k.obtain c fs).outcome = .ok r ∧ r.fromCache = true ∧
        r.definitions.items = r'.definitions.items ∧
        r.usages.map UsageIndex.items = r'.usages.map UsageIndex.items) ∧
      (k.obtain c fs).fs = fs ∧
      ∀ read parser, ({ k with job := { k.job with read, parser } } : Call).obtain c fs =
        k.obtain c fs) := by
  constructor
  · intro r outcome fromCache
    rcases k.obtain_cases c fs with ⟨f, failed, -⟩ | ⟨s, found⟩ | ⟨r', -, run, outcome', -⟩
    · cases outcome.symm.trans failed
    · have cached : k.obtain c fs = _ := Job.obtain_of_find_some found
      obtain rfl := Except.ok.inj (outcome.symm.trans (congrArg Obtained.outcome cached))
      cases slot_of_reaches history with
      | vacant h none => exact absurd found (Call.not_found_of_vacant h s)
      | @held k' fs' r' latest kept whole h =>
        obtain ⟨own, rfl⟩ := Call.found_of_holds kept h found
        have saved := (latest k' fs' r').2 ⟨rfl, rfl, rfl⟩
        have same := cacheKeyText_inj (apart k' fs' k fs
          (List.mem_append_left _ saved.mem) (by simp) own)
        have rooted := (Job.found_scan k.job found).1
        have root : k.root c fs = .ok _ := Call.root_eq_ok_iff.2 ⟨rooted, rfl⟩
        refine ⟨k', fs', r', saved, ?_, same.2, rfl, rfl⟩
        rw [root, saved.rooted, same.1]
    · obtain rfl := Except.ok.inj (outcome.symm.trans outcome')
      cases fromCache.symm.trans (Job.kept_run run).fresh
  · intro k' fs' r' saved root kind reads
    obtain ⟨kept, whole, h⟩ := (slot_of_reaches history).of_latest saved
    obtain ⟨rooted, same⟩ := Call.root_eq_ok_iff.1 (root.symm.trans saved.rooted)
    have text : k'.identity c fs' = k.identity c fs := by
      simp only [identity, cacheKeyText, kind, same]
    have key : k'.key c fs' = k.key c fs :=
      congrArg (fun t => Sha256.hex (Text.encode t).toList) text
    rw [Call.payload, key] at h
    have found := Call.found_of_key kept h rooted whole reads
    have cached : k.obtain c fs = _ := Job.obtain_of_find_some found
    refine ⟨⟨_, congrArg Obtained.outcome cached, rfl, rfl, rfl⟩, congrArg Obtained.fs cached,
      fun read parser => ?_⟩
    have other : ({ k with job := { k.job with read, parser } } : Call).obtain c fs = _ :=
      Job.obtain_of_find_some found
    exact other.trans cached.symm

/-- A scan of everything that keeps no file. -/
def bareJob : Job :=
  ⟨⟨"/", []⟩, ⟨[], [], false, 1, true⟩, .default, true, oneClass, fun _ => .ok .empty, false,
    .ofInt 0, .enumeration⟩

def bareCall : Call := ⟨bareJob, true, .least, "t", fun _ => none⟩

/-- Another run of the same root, with other settings and a save that could only fail. -/
def laterCall : Call :=
  ⟨{ bareJob with settings := .default }, true, .least, "u", fun _ => some (.told "full")⟩

def rootCache : ScanCache := ⟨[], ⟨"/", ["c.json"]⟩⟩

/-- It succeeds on an empty directory, wherever that is. -/
theorem run_emptyDirectory (root : Path) :
    ∃ r, (({ bareJob with root } : Job).run (.dir [])).2 = .ok r := by
  have noLines : loadTree (ignoreNames false) "" (.dir []) = .empty := by
    simp only [loadTree, loadTree.loadEntries, List.mergeSort_nil]
    rfl
  have made : ∃ e, Enumerator.make (.dir []) [] [] false = .ok e := by
    unfold Enumerator.make IgnoreChecker.load
    rw [noLines]
    exact ⟨_, rfl⟩
  have noPaths : ∀ e : Enumerator, e.paths (.dir []) = [] := by
    simp [Enumerator.paths, Enumerator.visited, walk, walk.walkEntries, Tree.fileNames, Text.sort]
  obtain ⟨e, he⟩ := made
  have enumerate : ({ bareJob with root } : Job).enumerate (.dir []) =
      (e.loadEvents ++ e.walkEvents (.dir []), .ok []) := by
    simp only [Job.enumerate, bareJob, he, noPaths]
  unfold Job.run
  rw [enumerate]
  exact ⟨_, rfl⟩

theorem run_bareJob : ∃ r, (bareJob.run (.dir [])).2 = .ok r := run_emptyDirectory bareJob.root

/-- Its save, on an empty file system: the cache file is the only new thing at the root. -/
theorem save_bareCall (r : Result) : (bareCall.save rootCache .empty r).2 = none ∧
    (bareCall.save rootCache .empty r).1.at? ["a.php"] = none := by
  have parents : FileSystem.empty.mkdirs [] ⟨"/", []⟩ = (.empty, none) :=
    FileSystem.empty.mkdirs_root
  have top : ∀ name : String, name ≠ ".." → ¬ FileSystem.maxName < name.utf8ByteSize →
      FileSystem.empty.resolve [] false ⟨"/", [name]⟩ = .ok ([name], none) :=
    fun _ h short => FileSystem.resolveFrom_last .empty FileSystem.maxLinks [] h short
  have free : FileSystem.empty.resolve [] false (rootCache.saving "t" r.definitions r.usages
      (bareCall.key rootCache .empty)).beside = .ok ([".c.json.t.tmp"], none) :=
    top ".c.json.t.tmp" (by decide) (by decide)
  obtain ⟨written, adds, run⟩ := (rootCache.saving "t" r.definitions r.usages
    (bareCall.key rootCache .empty)).run_succeeds (fun _ => none) (fun _ => rfl) parents free
    (top "c.json" (by decide) (by decide)) (by simp) rfl
  have save := Call.save_of_run (k := bareCall) (c := rootCache) run
  refine ⟨by rw [save], ?_⟩
  rw [save, FileSystem.at?_put _ (by simp), FileSystem.at?_erase _ (by simp), adds.at?_eq]
  rfl

theorem realpath_root (fs : FileSystem) : fs.realpath [] ⟨"/", []⟩ = ⟨"/", []⟩ := by
  rw [FileSystem.realpath, FileSystem.realpathFrom.eq_def]
  rfl

theorem pathFault?_root (fs : FileSystem) : fs.pathFault? [] ⟨"/", []⟩ = none := by
  rw [FileSystem.pathFault?, realpath_root]
  simp only [FileSystem.resolve_root]
  rfl

/-- A run of the root directory has it as its root. -/
theorem root_of_root {k : Call} (h : k.job.root = ⟨"/", []⟩) (fs : FileSystem) :
    k.root rootCache fs = .ok "/" := by
  rw [Call.root_eq_ok_iff, h]
  exact ⟨pathFault?_root fs, congrArg Path.text (realpath_root fs)⟩

/-- After one run from nothing and a new source file, the next run still takes the old result. -/
theorem obtain_after_edit : ∃ r fs', (bareCall.obtain rootCache .empty).outcome = .ok r ∧
    r.fromCache = false ∧ Reaches rootCache [.called bareCall .empty, .edited] fs' ∧
    fs'.at? ["a.php"] = some (.file .empty) ∧
    KeysApart rootCache [.called bareCall .empty, .edited, .called laterCall fs'] ∧
    ∃ r', (laterCall.obtain rootCache fs').outcome = .ok r' ∧ r'.fromCache = true ∧
      r'.definitions.items = r.definitions.items := by
  have vacant : rootCache.Vacant .empty :=
    ScanCache.vacant_of_dirs fun key n h => by
      unfold FileSystem.at? FileSystem.empty at h
      split at h
      · exact (Option.some.inj h).symm
      · cases h
  have tree : FileSystem.empty.tree [] ⟨"/", []⟩ = .dir [] := by
    rw [FileSystem.tree, FileSystem.resolve_root]
    rfl
  obtain ⟨r, run⟩ := run_bareJob
  obtain ⟨outcome, after⟩ : (bareCall.obtain rootCache .empty).outcome = .ok r ∧
      (bareCall.obtain rootCache .empty).fs = (bareCall.save rootCache .empty r).1 := by
    have run' : (bareCall.job.run (FileSystem.empty.tree rootCache.cwd bareCall.job.root)).2 =
        .ok r := tree ▸ run
    have missed : bareCall.found rootCache .empty = .ok none :=
      Call.found_of_vacant vacant (pathFault?_root _) rfl
    obtain ⟨outcome, after⟩ := Job.obtain_of_find_none missed
    obtain ⟨given, left⟩ := Job.refresh_of_run_ok (bareCall.key rootCache .empty) run'
    obtain ⟨⟨event, done⟩, same⟩ :=
      (bareCall.use rootCache).save_of_path .empty (bareCall.key rootCache .empty) r rfl
    rw [done] at given
    exact ⟨outcome.trans given, after.trans (left.trans same)⟩
  have fresh := (Job.kept_run run).fresh
  have saves : bareCall.Saves rootCache .empty r := ⟨outcome, fresh, (save_bareCall r).1⟩
  have called : Reaches rootCache [.called bareCall .empty] (bareCall.obtain rootCache .empty).fs :=
    .call (.start vacant) bareCall
  have adds := FileSystem.addsFile_put (after ▸ (save_bareCall r).2) ByteArray.empty
  have stored : LatestSaved rootCache [.called bareCall .empty] bareCall .empty r :=
    ⟨[], [], rfl, saves, by simp⟩
  have edited := Reaches.edit called
    (untouched_of_addsFile adds ((slot_of_reaches called).of_latest stored).2.2)
  have same : ∀ fs', bareCall.identity rootCache .empty = laterCall.identity rootCache fs' :=
    fun fs' => congrArg (fun p => cacheKeyText p true)
      ((realpath_root .empty).trans (realpath_root fs').symm)
  have apart : ∀ fs', KeysApart rootCache
      [.called bareCall .empty, .edited, .called laterCall fs'] := by
    intro fs' k fs₁ k' fs₂ hk hk' _
    simp only [List.mem_cons, Happening.called.injEq, reduceCtorEq, List.not_mem_nil, false_or,
      or_false] at hk hk'
    rcases hk with ⟨rfl, rfl⟩ | ⟨rfl, rfl⟩ <;> rcases hk' with ⟨rfl, rfl⟩ | ⟨rfl, rfl⟩
    · rfl
    · exact same fs₂
    · exact (same fs₁).symm
    · rfl
  refine ⟨r, _, outcome, fresh, edited, by rw [adds.at?_eq, if_pos rfl], apart _, ?_⟩
  have latest : LatestSaved rootCache [.called bareCall .empty, .edited] bareCall .empty r :=
    ⟨[], [.edited], rfl, saves, by simp [Happening.Renews]⟩
  obtain ⟨⟨r', outcome', cached, items, -⟩, -⟩ :=
    (Call.obtain_after edited laterCall (apart _)).2 bareCall .empty r latest
      ((root_of_root rfl _).trans (root_of_root rfl _).symm) rfl rfl
  exact ⟨r', outcome', cached, items⟩

end DomainAtlas.Scan
