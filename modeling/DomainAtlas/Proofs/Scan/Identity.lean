import DomainAtlas.Proofs.FileSystem.Lexical
import DomainAtlas.Proofs.Scan.Gathering
import DomainAtlas.Scan.Cached

/-!
# What the key of a scan identifies

The key of a scan is the digest of a text: the absolute root, the version of the tool and whether
references are collected. The text is told apart from its end, where the last letters say which kind
of scan it is, so it does not matter what is in the root (`cacheKeyText_inj`). Of the root it keeps the
names, so that roots without links have the same text exactly when they have the same normal form.

Results:
* `Job.keyBytes_eq_iff`: when the bytes behind two keys are the same.
* `Job.key_identifies`: the same for the keys, up to collisions of the digest, and for the directories
  that are scanned.
-/
namespace DomainAtlas

/-- Different bytes with the same digest. -/
def Sha256.Collide (a b : ByteArray) : Prop := a ≠ b ∧ hex a.toList = hex b.toList

theorem Sha256.hex_eq_iff {a b : ByteArray} :
    hex a.toList = hex b.toList ↔ a = b ∨ Collide a b := by
  constructor
  · intro same
    by_cases h : a = b
    · exact .inl h
    · exact .inr ⟨h, same⟩
  · rintro (rfl | collide)
    · rfl
    · exact collide.2

/-- Paths at the root are told apart by how they are written. -/
theorem Path.text_root_inj {a b : List String} (ha : ∀ n ∈ a, EntryName n)
    (hb : ∀ n ∈ b, EntryName n) (h : (Path.mk "/" a).text = (Path.mk "/" b).text) : a = b := by
  have written (names : List String) : (Path.mk "/" names).text = "/" ++ pathText names :=
    if_neg fun e => absurd e.1 (by simp)
  rw [written, written] at h
  exact pathText_inj ha hb (String.append_right_inj _ |>.1 h)

namespace Scan

/-! ## The text behind a key -/

/-- The text behind a key tells the root and the kind of a run. -/
theorem cacheKeyText_inj {root root' : Path} {track track' : Bool}
    (h : cacheKeyText root track = cacheKeyText root' track') :
    root.text = root'.text ∧ track = track' := by
  have chars := congrArg String.toList h
  simp only [cacheKeyText, String.toList_append, List.append_assoc] at chars
  -- The last letter but one is an `e` or an `n`.
  have kinds : track = track' := by
    have ends := congrArg (fun cs => cs.reverse.take 2) chars
    cases track <;> cases track' <;> simp [List.reverse_append] at ends ⊢
  subst kinds
  exact ⟨String.toList_inj.1 (List.append_cancel_right chars), rfl⟩

namespace Job

def keyBytes (j : Job) (cwd : List String) (fs : FileSystem) : ByteArray :=
  Text.encode (cacheKeyText (fs.realpath cwd j.root) j.trackUsages)

theorem key_eq (j : Job) (cwd : List String) (fs : FileSystem) :
    j.key cwd fs = Sha256.hex (j.keyBytes cwd fs).toList := rfl

/-- The root of a scan as it is written: an absolute path no component of which is a link. -/
structure StartsAt (j : Job) (s : String) (fs : FileSystem) : Prop where
  written : j.root = Path.parse s
  absolute : j.root.isAbsolute = true
  unlinked : fs.Unlinked j.root

variable {j j' : Job} {s s' : String} {fs fs' : FileSystem}

theorem StartsAt.realpath (h : j.StartsAt s fs) (cwd : List String) :
    fs.realpath cwd j.root = ⟨"/", Path.lexical (Path.parse s).parts⟩ := by
  rw [FileSystem.realpath_of_unlinked h.absolute h.unlinked, h.written]

theorem StartsAt.place (h : j.StartsAt s fs) {cwd place : List String} {n : Option FileNode}
    (found : fs.resolve cwd true j.root = .ok (place, n)) :
    place = Path.lexical (Path.parse s).parts := by
  rw [FileSystem.place_of_unlinked h.absolute h.unlinked cwd found, h.written]

/-- The bytes behind two keys are the same exactly when the kinds of the scans are and the roots have
the same normal form. -/
theorem keyBytes_eq_iff (h : j.StartsAt s fs) (h' : j'.StartsAt s' fs') (cwd cwd' : List String) :
    j.keyBytes cwd fs = j'.keyBytes cwd' fs' ↔
      j.trackUsages = j'.trackUsages ∧ Path.SameNormalForm s s' := by
  rw [Path.sameNormalForm_iff, keyBytes, keyBytes, h.realpath, h'.realpath]
  constructor
  · intro same
    obtain ⟨root, kind⟩ := cacheKeyText_inj (String.toByteArray_inj.1 same)
    exact ⟨kind, Path.text_root_inj (Path.normalForm_lexical s).2 (Path.normalForm_lexical s').2 root⟩
  · rintro ⟨kind, root⟩
    rw [kind, root]

theorem key_eq_iff (j j' : Job) (cwd cwd' : List String) (fs fs' : FileSystem) :
    j.key cwd fs = j'.key cwd' fs' ↔ j.keyBytes cwd fs = j'.keyBytes cwd' fs' ∨
      Sha256.Collide (j.keyBytes cwd fs) (j'.keyBytes cwd' fs') := by
  rw [key_eq, key_eq, Sha256.hex_eq_iff]

/-- **What a key identifies.** Take two scans of absolute roots without links, wherever they are started
and whatever else is in the two file systems. The bytes behind their keys are the same exactly when both
or none collect references and the roots have the same normal form. So unless the digests of these very
bytes collide, the keys are the same exactly then; and if the roots are directories, exactly when it is
the same directory. -/
theorem key_identifies (h : j.StartsAt s fs) (h' : j'.StartsAt s' fs') (cwd cwd' : List String) :
    (j.keyBytes cwd fs = j'.keyBytes cwd' fs' ↔
      j.trackUsages = j'.trackUsages ∧ Path.SameNormalForm s s') ∧
    (j.key cwd fs = j'.key cwd' fs' ↔
      (j.trackUsages = j'.trackUsages ∧ Path.SameNormalForm s s') ∨
        Sha256.Collide (j.keyBytes cwd fs) (j'.keyBytes cwd' fs')) ∧
    (∀ place place', fs.resolve cwd true j.root = .ok (place, some .dir) →
      fs'.resolve cwd' true j'.root = .ok (place', some .dir) →
      (j.key cwd fs = j'.key cwd' fs' ↔
        (j.trackUsages = j'.trackUsages ∧ place = place') ∨
          Sha256.Collide (j.keyBytes cwd fs) (j'.keyBytes cwd' fs'))) := by
  have bytes := keyBytes_eq_iff h h' cwd cwd'
  have keys := key_eq_iff j j' cwd cwd' fs fs'
  rw [bytes] at keys
  refine ⟨bytes, keys, fun place place' found found' => ?_⟩
  rw [keys, Path.sameNormalForm_iff, h.place found, h'.place found']

/-- Directories, and a link that neither root passes. -/
def shelf : FileSystem :=
  ⟨[(["srv"], .dir), (["srv", "app"], .dir), (["srv", "app", "x"], .dir),
    (["srv", "app", "lib"], .dir), (["srv", "lib"], .link "app/lib")]⟩

/-- A scan of a root that goes out of its way. -/
def detourJob : Job := { oneClassJob with root := Path.parse "/srv//app/./x/../lib" }

/-- A scan of a root that asks for more than is above it. -/
def topJob : Job := { oneClassJob with root := Path.parse "//srv/../../srv/app/lib/" }

theorem key_identifies_detour :
    detourJob.StartsAt "/srv//app/./x/../lib" shelf ∧
    topJob.StartsAt "//srv/../../srv/app/lib/" shelf ∧
    shelf.resolve [] true detourJob.root = .ok (["srv", "app", "lib"], some .dir) ∧
    shelf.resolve ["srv"] true topJob.root = .ok (["srv", "app", "lib"], some .dir) ∧
    detourJob.key [] shelf = topJob.key ["srv"] shelf := by
  have detour : detourJob.StartsAt "/srv//app/./x/../lib" shelf :=
    ⟨rfl, by decide +kernel, by decide +kernel⟩
  have top : topJob.StartsAt "//srv/../../srv/app/lib/" shelf :=
    ⟨rfl, by decide +kernel, by decide +kernel⟩
  have short : ∀ n ∈ ["srv", "app", "x", "lib"], ¬ FileSystem.maxName < n.utf8ByteSize := by decide
  simp only [List.forall_mem_cons] at short
  have found : shelf.resolve [] true detourJob.root = .ok (["srv", "app", "lib"], some .dir) := by
    have parts : detourJob.root.parts = ["srv", "app", "x", "..", "lib"] := by decide +kernel
    rw [FileSystem.resolve, if_pos detour.absolute, parts]
    simp [FileSystem.resolveFrom, FileSystem.at?, shelf, List.lookup_cons, short]
  have found' : shelf.resolve ["srv"] true topJob.root = .ok (["srv", "app", "lib"], some .dir) := by
    have parts : topJob.root.parts = ["srv", "..", "..", "srv", "app", "lib"] := by decide +kernel
    rw [FileSystem.resolve, if_pos top.absolute, parts]
    simp [FileSystem.resolveFrom, FileSystem.at?, shelf, List.lookup_cons, short]
  exact ⟨detour, top, found, found', ((key_identifies detour top [] ["srv"]).2.2 _ _ found found').2
    (.inl ⟨rfl, rfl⟩)⟩

end Job

end Scan

end DomainAtlas
