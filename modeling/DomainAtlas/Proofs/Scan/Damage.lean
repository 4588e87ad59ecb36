import DomainAtlas.Proofs.Index.Acceptance
import DomainAtlas.Proofs.Scan.History

/-!
# Runs with a damaged cache

A cache that is not there, cannot be read or does not hold an envelope is a miss: the run goes on with
the scan. There are three exceptions. Loading fails at a path with a zero character, on bytes that are no
UTF-8, and on a text in which arrays and objects stand too deep in one another; the run then fails before
anything is scanned.

Results:
* `ScanCache.load_eq_error_iff`: loading fails exactly there.
* `Scan.Job.find_eq_error_iff`: when looking into the cache fails.
* `Scan.Job.obtain_eq_error_iff`: a run with a cache fails exactly then, or when it has to scan and the
  scan fails.
-/
namespace DomainAtlas

namespace Text

/-- Whether bytes are a text. -/
def IsUtf8 (bytes : ByteArray) : Prop := ∃ s : String, s.toUTF8 = bytes

theorem decode_eq_ok_iff {bytes : ByteArray} {s : String} : decode bytes = .ok s ↔ s.toUTF8 = bytes := by
  constructor
  · intro h
    unfold decode String.fromUTF8? at h
    split at h
    · next read =>
      split at read
      · cases h
        cases read
        rfl
      · cases read
    · cases h
  · rintro rfl
    exact decode_toUTF8 s

/-- Decoding fails on bytes that are no text, and only on those. -/
theorem exists_decode_error_iff {bytes : ByteArray} :
    (∃ f, decode bytes = .error f) ↔ ¬ IsUtf8 bytes := by
  constructor
  · rintro ⟨f, failed⟩ ⟨s, hs⟩
    cases failed.symm.trans (decode_eq_ok_iff.2 hs)
  · intro h
    cases read : decode bytes with
    | error f => exact ⟨f, rfl⟩
    | ok s => exact (h ⟨s, decode_eq_ok_iff.1 read⟩).elim

end Text

/-- How a cache can be damaged so that loading fails. -/
inductive ScanCache.Damaged (c : ScanCache) (room : Json.Room) (fs : FileSystem) : LoadFault → Prop
  /-- No file can be at its path. -/
  | zero (zero : c.path.hasZero = true) : Damaged c room fs .zero
  /-- It is no text, from some place on. -/
  | garbled {bytes : ByteArray} {f : Text.DecodeFault} (read : fs.read c.cwd c.path = .ok bytes)
    (noText : ¬ Text.IsUtf8 bytes) (place : Text.decode bytes = .error f) : Damaged c room fs (.encoding f)
  /-- It is a text that is too deep. -/
  | deep {text message : String} (read : fs.read c.cwd c.path = .ok text.toUTF8)
    (deep : Json.parse room.depth (Text.unifyBreaks text) = .error (.nested message)) :
    Damaged c room fs (.nested message)

/-- The text of a cache, if it is one, says nothing that cannot be held here. -/
def ScanCache.Held (c : ScanCache) (room : Json.Room) (fs : FileSystem) : Prop :=
  ∀ text, fs.read c.cwd c.path = .ok text.toUTF8 →
    ∀ what, Json.parse room.depth (Text.unifyBreaks text) ≠ .error (.unheld what)

/-- Whatever stands at the path of a cache, loading fails only for such damage. -/
theorem ScanCache.load_eq_error_iff {c : ScanCache} {room : Json.Room} {fs : FileSystem}
    (held : c.Held room fs) (expected : Option String) (f : LoadFault) :
    c.load room fs expected = .error f ↔ c.Damaged room fs f := by
  unfold load
  constructor
  · intro failed
    unfold LoadOutcome.ofRead at failed
    split at failed
    · next read =>
      cases failed
      exact .zero (FileSystem.read_eq_zero_iff.1 read)
    · cases failed
    · cases failed
    · next bytes read =>
      split at failed
      · next g decoded =>
        cases failed
        exact .garbled read (Text.exists_decode_error_iff.1 ⟨g, decoded⟩) decoded
      · next text decoded =>
        rw [← Text.decode_eq_ok_iff.1 decoded] at read
        unfold LoadOutcome.ofText at failed
        split at failed
        · cases failed
        · next deep =>
          cases failed
          exact .deep read deep
        · next what unheld => exact absurd unheld (held text read what)
        · cases failed
  · intro damaged
    cases damaged with
    | zero zero => rw [FileSystem.read_eq_zero_iff.2 zero, LoadOutcome.ofRead]
    | garbled read noText place => rw [read, LoadOutcome.ofRead, place]
    | deep read deep =>
      rw [read, LoadOutcome.ofRead, Text.decode_toUTF8]
      simp only
      rw [LoadOutcome.ofText, deep]

namespace Scan

section Runs

variable {j : Job} {u : CacheUse} {fs : FileSystem}

/-- Why a run cannot even look into the cache: its root has no absolute form, or the cache is damaged. -/
inductive Job.Barred (j : Job) (u : CacheUse) (fs : FileSystem) : Fault → Prop
  | root {g : PathFault} (h : fs.pathFault? u.cache.cwd j.root = some g) : Barred j u fs (.path g)
  | cache {g : LoadFault} (rooted : fs.pathFault? u.cache.cwd j.root = none)
    (damaged : u.cache.Damaged u.room fs g) : Barred j u fs (.cache g)

theorem Job.find_eq_error_iff (reads : u.reads = true) (held : u.cache.Held u.room fs) {f : Fault} :
    (j.find u fs).2 = .error f ↔ j.Barred u fs f := by
  cases rooted : fs.pathFault? u.cache.cwd j.root with
  | some g =>
    rw [Job.find, rooted]
    constructor
    · rintro ⟨⟩
      exact .root rooted
    · rintro (⟨h⟩ | ⟨h, -⟩) <;> cases rooted.symm.trans h
      rfl
  | none =>
    rw [j.find_of_root rooted, CacheUse.load_of_reads reads]
    have load := fun g => ScanCache.load_eq_error_iff held (some (j.key u.cache.cwd fs)) g
    constructor
    · intro failed
      split at failed
      · next g loaded =>
        cases failed
        exact .cache rooted ((load g).1 loaded)
      · cases failed
    · rintro (⟨h⟩ | ⟨-, damaged⟩)
      · cases rooted.symm.trans h
      · rw [(load _).2 damaged]

/-- A run that finds nothing where it looked can save what it comes to. -/
theorem CacheUse.path_of_found (reads : u.reads = true) {found : Option CachedScan}
    (h : (j.find u fs).2 = .ok found) : u.cache.path.hasZero = false := by
  cases rooted : fs.pathFault? u.cache.cwd j.root with
  | some g =>
    rw [Job.find, rooted] at h
    cases h
  | none =>
    rw [j.find_of_root rooted, CacheUse.load_of_reads reads] at h
    split at h
    · cases h
    · next outcome loaded => exact ScanCache.whole_of_load loaded

/-- **Damage.** Loading a cache fails exactly when it is damaged, whatever key is expected. A run that may
read the cache fails exactly when its root has no absolute form, when the cache is damaged, or when no scan
is kept for the run and the scan itself fails. -/
theorem Job.obtain_eq_error_iff (j : Job) (u : CacheUse) (fs : FileSystem) (reads : u.reads = true)
    (held : u.cache.Held u.room fs) :
    (∀ expected f, u.cache.load u.room fs expected = .error f ↔ u.cache.Damaged u.room fs f) ∧
    ∀ f, (j.obtain u fs).outcome = .error f ↔
      j.Barred u fs f ∨
        ((j.find u fs).2 = .ok none ∧ (j.run (fs.tree u.cache.cwd j.root)).2 = .error f) := by
  refine ⟨ScanCache.load_eq_error_iff held, fun f => ?_⟩
  rw [← find_eq_error_iff reads held]
  cases found : (j.find u fs).2 with
  | error g => simp [(obtain_of_find_error found).1]
  | ok scan =>
    cases scan with
    | some s => simp [obtain_of_find_some found]
    | none =>
      rw [(obtain_of_find_none found).1]
      cases ran : (j.run (fs.tree u.cache.cwd j.root)).2 with
      | error g => simp [(refresh_of_run_error (j.key u.cache.cwd fs) ran).1]
      | ok r =>
        obtain ⟨⟨event, saved⟩, -⟩ := u.save_of_path fs (j.key u.cache.cwd fs) r
          (CacheUse.path_of_found reads found)
        rw [(refresh_of_run_ok _ ran).1, saved]
        simp [Except.map]

end Runs

/-- A run that may read a cache in just the room that an envelope takes. -/
def narrowUse : CacheUse := ⟨shelfCache, true, shelfRoom, "t", fun _ => none⟩

/-- A member that nobody reads makes the run fail when it is too deep. -/
theorem obtain_pitFiles : narrowUse.reads = true ∧
    narrowUse.cache.Held narrowUse.room (filesWith (pitMembers 4)) ∧
    ∃ message, (bareJob.obtain narrowUse (filesWith (pitMembers 4))).outcome =
      .error (.cache (.nested message)) := by
  obtain ⟨message, deep⟩ := deep_pitMembers 4
  have read := read_filesWith (pitMembers 4)
  have held : narrowUse.cache.Held narrowUse.room (filesWith (pitMembers 4)) := by
    intro text same what unheld
    obtain rfl := String.toByteArray_inj.1 (Except.ok.inj (read.symm.trans same))
    cases deep.symm.trans unheld
  refine ⟨rfl, held, message, ?_⟩
  rw [(Job.obtain_eq_error_iff bareJob narrowUse (filesWith (pitMembers 4)) rfl held).2]
  exact .inl (.cache (pathFault?_root _) (.deep read deep))

/-- Files with a cache of one byte that begins no character, beside an empty source directory. -/
def garbledFiles : FileSystem := ⟨[(["c.json"], .file ⟨#[0xff]⟩), (["src"], .dir)]⟩

def besideJob : Job := { bareJob with root := ⟨"/", ["src"]⟩ }

/-- The cache makes the run fail, though the scan it stands for would succeed. -/
theorem obtain_garbledFiles : (∃ f, rootCache.load shelfRoom garbledFiles none = .error f) ∧
    (∃ f, (besideJob.obtain ⟨rootCache, true, shelfRoom, "t", fun _ => none⟩ garbledFiles).outcome =
      .error (.cache f)) ∧
    ∃ r, (besideJob.run (garbledFiles.tree [] besideJob.root)).2 = .ok r := by
  have read : garbledFiles.read [] ⟨"/", ["c.json"]⟩ = .ok ⟨#[0xff]⟩ := by
    have there : garbledFiles.resolve [] true ⟨"/", ["c.json"]⟩ =
        .ok (["c.json"], some (.file ⟨#[0xff]⟩)) :=
      FileSystem.resolveFrom_file garbledFiles true FileSystem.maxLinks [] (by decide) (by decide) [] rfl
    exact FileSystem.read_eq_ok_iff.2 ⟨by decide, _, there⟩
  have there : garbledFiles.resolve [] true ⟨"/", ["src"]⟩ = .ok (["src"], some .dir) := by
    refine (FileSystem.resolveFrom_dir garbledFiles true FileSystem.maxLinks [] (by decide) (by decide)
      [] rfl).trans ?_
    rw [FileSystem.resolveFrom]
    rfl
  have tree : garbledFiles.tree [] ⟨"/", ["src"]⟩ = .dir [] := by
    rw [FileSystem.tree, there]
    rfl
  have rooted : garbledFiles.pathFault? [] ⟨"/", ["src"]⟩ = none := by
    have unlinked : garbledFiles.Unlinked ⟨"/", ["src"]⟩ := by decide +kernel
    have place : garbledFiles.realpath [] ⟨"/", ["src"]⟩ = ⟨"/", ["src"]⟩ :=
      FileSystem.realpath_of_unlinked rfl unlinked []
    rw [FileSystem.pathFault?, place]
    simp only [there]
    rfl
  have noText : ¬ Text.IsUtf8 ⟨#[0xff]⟩ := by
    have invalid : ¬ ByteArray.IsValidUTF8 ⟨#[0xff]⟩ := by decide +kernel
    rintro ⟨s, hs⟩
    exact invalid (hs ▸ s.isValidUTF8)
  obtain ⟨f, decoded⟩ := Text.exists_decode_error_iff.2 noText
  have failed (expected : Option String) :
      rootCache.load shelfRoom garbledFiles expected = .error (.encoding f) := by
    rw [ScanCache.load, show garbledFiles.read rootCache.cwd rootCache.path = _ from read,
      LoadOutcome.ofRead, decoded]
  refine ⟨⟨_, failed none⟩, ⟨.encoding f, ?_⟩, tree ▸ run_emptyDirectory ⟨"/", ["src"]⟩⟩
  refine (Job.obtain_of_find_error ?_).1
  rw [Job.find_of_root besideJob rooted, CacheUse.load_of_reads rfl]
  simp only [failed]

end Scan

end DomainAtlas
