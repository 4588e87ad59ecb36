import DomainAtlas.Proofs.Index.Saving

/-!
# The cache file through saves and deletions

The cache file is looked at by its path alone: it holds some bytes (`ScanCache.Holds`), or there is
none (`ScanCache.Vacant`). A save that fails at any step leaves things as they are, but for
directories it may have made; a save that succeeds leaves the new bytes; a deletion leaves nothing.

Results:
* `ScanCache.grows_save`, `ScanCache.holds_save`: what a failed save keeps, and what one that succeeds
  leaves.
* `ScanCache.save_all_or_nothing`: all that a save changes, whichever step fails.
* `ScanCache.vacant_afterClear`, `ScanCache.afterClear_of_vacant`: deletions.
-/
namespace DomainAtlas

open FileSystem

/-! ## The cache file -/

namespace ScanCache

variable (c : ScanCache)

/-- There is a cache file with these bytes. -/
def Holds (fs : FileSystem) (bytes : ByteArray) : Prop :=
  ∃ key, fs.resolve c.cwd false c.path = .ok (key, some (.file bytes))

/-- There is no cache file. Nor is there one that only a missing directory hides: `missing/../x` is
no way to the file `x`, but becomes one when a save makes its directories. -/
def Vacant (fs : FileSystem) : Prop :=
  ∀ fs', fs.Grows fs' → ∀ key n, fs'.resolve c.cwd false c.path = .ok (key, some n) → n = .dir

variable {c} {fs fs' : FileSystem} {bytes : ByteArray}

theorem Holds.keeps (h : c.Holds fs bytes) (keeps : fs.Keeps fs')
    (same : ∀ key, fs.at? key = some (.file bytes) → fs'.at? key = some (.file bytes)) :
    c.Holds fs' bytes := by
  obtain ⟨key, hr⟩ := h
  exact ⟨key, by rw [resolve_keeps keeps hr, same key (at?_of_resolve hr)]⟩

theorem Holds.grows (h : c.Holds fs bytes) (grows : fs.Grows fs') : c.Holds fs' bytes :=
  h.keeps grows.keeps fun key hn => grows.stays key _ hn

theorem Vacant.grows (h : c.Vacant fs) (grows : fs.Grows fs') : c.Vacant fs' :=
  fun fs'' more => h fs'' (grows.trans more)

/-- A file system of directories only has no cache file. -/
theorem vacant_of_dirs (h : ∀ key n, fs.at? key = some n → n = .dir) : c.Vacant fs := by
  intro fs' grows key n hr
  have hn := at?_of_resolve hr
  cases h0 : fs.at? key with
  | none => exact grows.fresh key n h0 hn
  | some m =>
    rw [grows.stays key m h0] at hn
    exact Option.some.inj hn ▸ h key m h0

theorem Holds.read (h : c.Holds fs bytes) (whole : c.path.hasZero = false) :
    fs.read c.cwd c.path = .ok bytes := by
  obtain ⟨key, hr⟩ := h
  have follow : fs.resolve c.cwd true c.path = .ok (key, some (.file bytes)) := by
    rw [resolve_follow fun k t e => ?_, hr]
    rw [hr] at e
    cases (Prod.mk.inj (Except.ok.inj e)).2
  exact read_eq_ok_iff.2 ⟨whole, key, follow⟩

theorem Vacant.read (h : c.Vacant fs) (whole : c.path.hasZero = false) :
    ∃ f text, fs.read c.cwd c.path = .error (.at f text) := by
  have dir := h fs (Grows.refl fs)
  have follow : fs.resolve c.cwd true c.path = fs.resolve c.cwd false c.path :=
    resolve_follow fun k t e => by cases dir k _ e
  unfold FileSystem.read
  rw [follow, whole]
  cases hr : fs.resolve c.cwd false c.path with
  | error f => exact ⟨_, _, rfl⟩
  | ok r =>
    obtain ⟨key, _ | n⟩ := r
    · exact ⟨_, _, rfl⟩
    · obtain rfl := dir key n hr
      exact ⟨_, _, rfl⟩

/-! ## What saves and deletions do to it -/

/-- The path does not end at a link, and does not come to do so when directories are made. -/
theorem not_link_of_grows (h : c.Vacant fs ∨ ∃ bytes, c.Holds fs bytes) (grows : fs.Grows fs')
    (key : List String) (target : String) :
    fs'.resolve c.cwd false c.path ≠ .ok (key, some (.link target)) := by
  intro hr
  rcases h with h | ⟨bytes, h⟩
  · cases h fs' grows key _ hr
  · obtain ⟨key', hr'⟩ := h.grows grows
    rw [hr'] at hr
    cases (Prod.mk.inj (Except.ok.inj hr)).2

section Saves

variable (c) (token key : String) (store : Store) (usages : Option UsageIndex)

/-- A save of a scan may lead from the one file system to the other, with this problem or none. -/
def MaySave (fs fs' : FileSystem) (p : Option Problem) : Prop :=
  ∃ e, (c.saving token store usages key).Ends SaveStep.all fs fs' e ∧ p = e.map c.saveProblem

theorem maySave_save (fails : SaveStep → Option OsError) (fs : FileSystem) :
    c.MaySave token key store usages fs (c.save fails token store usages key fs).1
      (c.save fails token store usages key fs).2 :=
  ⟨_, Saving.ends_run _ fails fs, rfl⟩

variable {c token key store usages} {p : Option Problem}

theorem MaySave.makesParents {problem : Problem}
    (h : c.MaySave token key store usages fs fs' (some problem)) :
    fs.MakesParents c.cwd c.path fs' ∧ ∃ e, problem = c.saveProblem e := by
  obtain ⟨e, ends, failed⟩ := h
  obtain ⟨f, rfl, own⟩ := Option.map_eq_some_iff.mp failed.symm
  exact ⟨ends.settles, f, own.symm⟩

theorem MaySave.replaces (h : c.MaySave token key store usages fs fs' none) :
    ∃ made place, (c.saving token store usages key).Replaces fs fs' made place := by
  obtain ⟨e, ends, done⟩ := h
  obtain rfl := Option.map_eq_none_iff.mp done.symm
  exact ends.settles

/-- A save that fails leaves the cache file, or the lack of it, as it is. -/
theorem grows_save {fails : SaveStep → Option OsError} {problem : Problem}
    (h : (c.save fails token store usages key fs).2 = some problem) :
    fs.Grows (c.save fails token store usages key fs).1 :=
  (h ▸ c.maySave_save token key store usages fails fs : MaySave ..).makesParents.1.grows

/-- The payload is in the cache file after the save, unless the path led there through what it
replaced. -/
theorem holds_of_replaces {made : FileSystem} {place : List String}
    (replaces : (c.saving token store usages key).Replaces fs fs' made place) :
    c.Holds fs' (c.saving token store usages key).payload ↔
      (made.erase place).LeadsTo c.cwd c.path place := by
  obtain ⟨-, leads, dir, after⟩ := replaces
  have named : place ≠ [] := ne_root_of_at? dir
  have without := at?_erase made named
  constructor
  · rintro ⟨key, hr⟩
    obtain ⟨found, -⟩ := leadsTo_of_resolve hr
    -- The file in the place leads nowhere, so the way to it is a way without it too.
    have keeps : fs'.Keeps (made.erase place) := by
      intro k m hm way
      rw [after] at hm
      split at hm
      · obtain rfl := Option.some.inj hm
        exact way.elim
      · next other => rw [without, if_neg other, hm]
    have keepsMade : (made.erase place).Keeps made := by
      intro k m hm way
      rw [without] at hm
      split at hm
      · cases hm
      · exact hm
    have less := found.keeps keeps
    obtain rfl := leads.unique (less.keeps keepsMade)
    exact less
  · intro less
    have keeps : (made.erase place).Keeps fs' := by
      intro k m hm way
      rw [without] at hm
      split at hm
      · cases hm
      · next other => rw [after, if_neg other, hm]
    have found := less.keeps keeps
    rw [LeadsTo, after, if_pos rfl] at found
    exact ⟨place, found⟩

/-- Without a link in the place the path leads there as well when nothing is there. -/
theorem leadsTo_erase {made : FileSystem} {place : List String}
    (leads : made.LeadsTo c.cwd c.path place) (dir : made.at? place ≠ some .dir)
    (link : ∀ target, made.at? place ≠ some (.link target)) :
    (made.erase place).LeadsTo c.cwd c.path place := by
  refine leads.keeps fun k m hm way => ?_
  rw [at?_erase _ (ne_root_of_at? dir), if_neg, hm]
  rintro rfl
  cases m with
  | file bytes => exact way
  | link target => exact link target hm
  | dir => exact dir hm

/-- A save that succeeds leaves its bytes in the cache file. -/
theorem holds_save {fails : SaveStep → Option OsError} (h : c.Vacant fs ∨ ∃ bytes, c.Holds fs bytes)
    (done : (c.save fails token store usages key fs).2 = none) :
    c.Holds (c.save fails token store usages key fs).1 (c.saving token store usages key).payload := by
  obtain ⟨made, place, replaces⟩ :=
    (done ▸ c.maySave_save token key store usages fails fs : MaySave ..).replaces
  obtain ⟨parents, leads, dir, -⟩ := id replaces
  refine (holds_of_replaces replaces).mpr (leadsTo_erase leads dir fun target link => ?_)
  refine not_link_of_grows h parents.grows place target ?_
  rw [← link]
  exact leads

/-- **A save changes all or nothing.** The cache is saved while any of the steps may fail, from outside
or by itself, and be left half done. When a step fails, so does the save, with the problem of a cache that
could not be written: parents of the path may have been made, there are the same files as before with the
same bytes, and the cache reads as before. When the save succeeds, parents may have been made, and the place
that the path leads to is now a file with the payload. This is where the path then leads, unless its
way went through the link that was replaced there. -/
theorem save_all_or_nothing (c : ScanCache) (token key : String) (store : Store)
    (usages : Option UsageIndex) (fs : FileSystem) :
    (∀ fails, c.MaySave token key store usages fs (c.save fails token store usages key fs).1
        (c.save fails token store usages key fs).2 ∧
      ((∃ step e, fails step = some e) →
        ∃ problem, (c.save fails token store usages key fs).2 = some problem)) ∧
    (∀ fs' problem, c.MaySave token key store usages fs fs' (some problem) →
      problem.family = .cache ∧ problem.code = .cacheWriteFailed ∧
      fs.MakesParents c.cwd c.path fs' ∧
      (∀ k bytes, fs'.at? k = some (.file bytes) ↔ fs.at? k = some (.file bytes)) ∧
      ∀ bytes, fs.read c.cwd c.path = .ok bytes → fs'.read c.cwd c.path = .ok bytes) ∧
    ∀ fs', c.MaySave token key store usages fs fs' none →
      ∃ made place, fs.MakesParents c.cwd c.path made ∧ made.LeadsTo c.cwd c.path place ∧
        made.at? place ≠ some .dir ∧
        (∀ k, fs'.at? k =
          if k = place then some (.file (Envelope.text store usages key).toUTF8) else made.at? k) ∧
        (c.Holds fs' (Envelope.text store usages key).toUTF8 ↔
          (made.erase place).LeadsTo c.cwd c.path place) ∧
        ((∀ target, made.at? place ≠ some (.link target)) →
          c.Holds fs' (Envelope.text store usages key).toUTF8) := by
  refine ⟨fun fails => ⟨c.maySave_save token key store usages fails fs, ?_⟩, ?_, ?_⟩
  · rintro ⟨step, e, struck⟩
    have among : step ∈ SaveStep.all := by cases step <;> simp [SaveStep.all]
    obtain ⟨f, failed⟩ :=
      (c.saving token store usages key).runSteps_of_fails struck among fs
    exact ⟨c.saveProblem f, congrArg (Option.map c.saveProblem) failed⟩
  · intro fs' problem h
    obtain ⟨parents, e, rfl⟩ := h.makesParents
    refine ⟨rfl, rfl, parents, fun k bytes => parents.grows.file_iff, fun bytes read => ?_⟩
    exact parents.grows.read read
  · intro fs' h
    obtain ⟨made, place, replaces⟩ := h.replaces
    obtain ⟨parents, leads, dir, after⟩ := id replaces
    have holds := holds_of_replaces replaces
    rw [saving_payload] at holds after
    exact ⟨made, place, parents, leads, dir, after, holds,
      fun link => holds.mpr (leadsTo_erase leads dir link)⟩

end Saves

/-! ### A path through the link that it replaces -/

/-- Files with a link to a directory, in which a link leads back. -/
def loopFiles : FileSystem := ⟨[(["L"], .link "sub"), (["sub"], .dir), (["sub", "M"], .link "..")]⟩

/-- A cache at a path that goes through both links and ends at the first. -/
def loopCache : ScanCache := ⟨[], ⟨"", ["L", "M", "L"]⟩⟩

/-- The way through both links leads back to the start. -/
theorem resolveFrom_loop (follow : Bool) {todo : List String} (more : todo ≠ []) :
    loopFiles.resolveFrom follow maxLinks [] ("L" :: "M" :: todo) =
      loopFiles.resolveFrom follow 38 [] todo := by
  have sub : Path.parse "sub" = ⟨"", ["sub"]⟩ := by decide
  have up : Path.parse ".." = ⟨"", [".."]⟩ := by decide
  calc loopFiles.resolveFrom follow maxLinks [] ("L" :: "M" :: todo)
      = loopFiles.resolveFrom follow 39 [] ("sub" :: "M" :: todo) := by
        refine (resolveFrom_link loopFiles follow 40 [] (by decide) (by decide) _ rfl (by simp)).trans ?_
        simp [sub, Path.isAbsolute]
    _ = loopFiles.resolveFrom follow 39 ["sub"] ("M" :: todo) :=
        resolveFrom_dir loopFiles follow 39 [] (by decide) (by decide) _ rfl
    _ = loopFiles.resolveFrom follow 38 ["sub"] (".." :: todo) := by
        refine (resolveFrom_link loopFiles follow 39 ["sub"] (by decide) (by decide) _ rfl
          (by simp [more])).trans ?_
        simp [up, Path.isAbsolute]
    _ = loopFiles.resolveFrom follow 38 [] todo := by
        rw [resolveFrom, if_pos rfl]
        rfl

/-- The save succeeds, but the path leads to no file afterwards: the link it goes through is gone. -/
theorem save_loopCache :
    (loopCache.save (fun _ => none) "t" .empty none "k" loopFiles).2 = none ∧
      ∀ bytes, ¬ loopCache.Holds (loopCache.save (fun _ => none) "t" .empty none "k" loopFiles).1
        bytes := by
  have target : loopFiles.resolve [] false loopCache.path = .ok (["L"], some (.link "sub")) :=
    (resolveFrom_loop false (by simp)).trans
      (resolveFrom_last loopFiles 38 [] (by decide) (by decide))
  have free : loopFiles.resolve [] false (besidePath [] loopCache.path "t") =
      .ok ([".L.t.tmp"], none) :=
    (resolveFrom_loop false (by simp)).trans
      (resolveFrom_last loopFiles 38 [] (by decide) (by decide))
  have parents : loopFiles.mkdirs [] loopCache.path.parent = (loopFiles, none) :=
    (leadsTo_of_resolve target).1.mkdirs_parent (rooted_nil _) rfl (by decide)
  obtain ⟨written, adds, run⟩ := (loopCache.saving "t" .empty none "k").run_succeeds (fun _ => none)
    (fun _ => rfl) parents free target (by simp) (by decide)
  have saved : loopCache.save (fun _ => none) "t" .empty none "k" loopFiles =
      ((written.erase [".L.t.tmp"]).put ["L"]
        (.file (loopCache.saving "t" .empty none "k").payload), none) := by
    rw [save, run]
    rfl
  rw [saved]
  refine ⟨rfl, ?_⟩
  rintro bytes ⟨key, found⟩
  have file := at?_put (written.erase [".L.t.tmp"]) (List.cons_ne_nil "L" [])
    (.file (loopCache.saving "t" .empty none "k").payload) ["L"]
  rw [if_pos rfl] at file
  have blocked := (resolveFrom_file _ false maxLinks [] (by decide) (by decide) ["M", "L"]
    file).symm.trans found
  simp at blocked

/-! ### Deletions -/

/-- The file system after a deletion, whatever it comes to. -/
def afterClear (c : ScanCache) (fs : FileSystem) : FileSystem :=
  match c.clear fs with
  | .ok (_, fs) => fs
  | .error _ => fs

/-- A deletion changes nothing, or takes away what the path leads to, which is no directory. -/
theorem afterClear_cases (c : ScanCache) (fs : FileSystem) :
    c.afterClear fs = fs ∨ ∃ key n, fs.resolve c.cwd false c.path = .ok (key, some n) ∧ n ≠ .dir ∧
      c.afterClear fs = fs.erase key := by
  unfold afterClear clear unlink
  rcases hr : fs.resolve c.cwd false c.path with f | ⟨key, _ | ⟨bytes⟩ | ⟨target⟩ | _⟩
  · cases f <;> exact .inl rfl
  · exact .inl rfl
  · exact .inr ⟨key, _, rfl, by simp, rfl⟩
  · exact .inr ⟨key, _, rfl, by simp, rfl⟩
  · exact .inl rfl

theorem afterClear_of_vacant (h : c.Vacant fs) : c.afterClear fs = fs := by
  have dir := h fs (Grows.refl fs)
  unfold afterClear clear unlink
  cases hr : fs.resolve c.cwd false c.path with
  | error f => cases f <;> rfl
  | ok r =>
    obtain ⟨key, _ | n⟩ := r
    · rfl
    · obtain rfl := dir key n hr
      rfl

/-- A deletion leaves no cache file. -/
theorem vacant_afterClear (h : c.Holds fs bytes) : c.Vacant (c.afterClear fs) := by
  obtain ⟨key, hr⟩ := h
  have hn := at?_of_resolve hr
  have hk : key ≠ [] := ne_root_of_at? (by rw [hn]; simp)
  have cleared : c.afterClear fs = fs.erase key := by
    unfold afterClear clear unlink
    rw [hr]
  rw [cleared]
  intro fs' grows key' n hr'
  have keeps : fs.Keeps fs' := by
    intro k m hm leads
    refine grows.stays k m ?_
    rw [at?_erase fs hk, if_neg, hm]
    rintro rfl
    rw [hn] at hm
    exact (Option.some.inj hm ▸ leads : (FileNode.file bytes).Leads)
  rw [resolve_keeps keeps hr] at hr'
  obtain ⟨rfl, hn'⟩ := Prod.mk.inj (Except.ok.inj hr')
  exact grows.fresh key n (by rw [at?_erase fs hk, if_pos rfl]) hn'

end ScanCache

end DomainAtlas
