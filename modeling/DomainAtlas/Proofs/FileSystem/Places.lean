import DomainAtlas.Proofs.FileSystem

/-!
# The place a path leads to

`FileSystem.LeadsTo` says to which place a path leads when its last link is not followed, whatever
stands there. Such a place is in a directory, under the last component of the path, and it stays the
same as long as the directories and links stay.

Results:
* `FileSystem.LeadsTo.keeps`: the place stays.
* `FileSystem.LeadsTo.in_dir`: the place is in the directory that the rest of the path leads to.
* `FileSystem.LeadsTo.mkdirs_parent`: a path that leads to a place has its directories already.
* `FileSystem.makesParents_mkdirs`: making the directories of a path adds directories where its parents
  lead, and nothing else.
-/
namespace DomainAtlas

namespace FileSystem

/-- The path leads to this place, its last link not followed. -/
def LeadsTo (fs : FileSystem) (cwd : List String) (p : Path) (key : List String) : Prop :=
  fs.resolve cwd false p = .ok (key, fs.at? key)

variable {fs fs' : FileSystem} {cwd : List String} {p : Path} {key : List String}
  {n : Option FileNode} {c : String}

theorem leadsTo_of_resolve (h : fs.resolve cwd false p = .ok (key, n)) :
    fs.LeadsTo cwd p key ∧ fs.at? key = n := by
  have hn := at?_of_resolve h
  exact ⟨by rw [LeadsTo, hn, h], hn⟩

theorem LeadsTo.keeps (h : fs.LeadsTo cwd p key) (keeps : fs.Keeps fs') : fs'.LeadsTo cwd p key :=
  resolve_keeps keeps h

theorem LeadsTo.unique {key' : List String} (h : fs.LeadsTo cwd p key)
    (h' : fs.LeadsTo cwd p key') : key = key' := by
  rw [LeadsTo] at h h'
  rw [h] at h'
  exact (Prod.mk.inj (Except.ok.inj h')).1

theorem LeadsTo.follow (h : fs.LeadsTo cwd p key) (real : ∀ target, fs.at? key ≠ some (.link target)) :
    fs.resolve cwd true p = .ok (key, fs.at? key) := by
  rw [resolve_follow, h]
  intro k target e
  obtain ⟨rfl, link⟩ := Prod.mk.inj (Except.ok.inj (h.symm.trans e))
  exact real target link

theorem ne_root_of_file {bytes : ByteArray} (file : fs.at? key = some (.file bytes)) :
    key ≠ [] := by
  have noDir : fs.at? key ≠ some .dir := by simp [file]
  exact ne_root_of_at? noDir

theorem LeadsTo.write {bytes : ByteArray} (h : fs.LeadsTo cwd p key)
    (file : fs.at? key = some (.file bytes)) (more : ByteArray) :
    fs.write cwd p more = .ok (fs.put key (.file more)) := by
  rw [FileSystem.write, h.follow (by simp [file]), file]

theorem LeadsTo.unlink {bytes : ByteArray} (h : fs.LeadsTo cwd p key)
    (file : fs.at? key = some (.file bytes)) : fs.unlink cwd p = .ok (fs.erase key) := by
  rw [FileSystem.unlink, h, file]

theorem at?_of_resolveFrom {follow : Bool} (links : Nat) (here todo : List String)
    (h : fs.resolveFrom follow links here todo = .ok (key, n)) : fs.at? key = n := by
  induction links, here, todo using resolveFrom.induct fs follow with
  | case1 links here =>
    rw [resolveFrom] at h
    obtain ⟨rfl, rfl⟩ := Prod.mk.inj (Except.ok.inj h)
    rfl
  | case2 links here rest ih =>
    rw [resolveFrom, if_pos rfl] at h
    exact ih h
  | case3 links here c rest name long =>
    rw [resolveFrom, if_neg name, if_pos long] at h
    cases h
  | case4 links here c name short next none =>
    rw [resolveFrom_none fs follow links here name short [] none, if_pos rfl] at h
    obtain ⟨rfl, rfl⟩ := Prod.mk.inj (Except.ok.inj h)
    exact none
  | case5 links here c rest name short next none more =>
    rw [resolveFrom_none fs follow links here name short rest none, if_neg more] at h
    cases h
  | case6 links here c name short next bytes file =>
    rw [resolveFrom_file fs follow links here name short [] file, if_pos rfl] at h
    obtain ⟨rfl, rfl⟩ := Prod.mk.inj (Except.ok.inj h)
    exact file
  | case7 links here c rest name short next bytes file more =>
    rw [resolveFrom_file fs follow links here name short rest file, if_neg more] at h
    cases h
  | case8 links here c rest name short next dir ih =>
    rw [resolveFrom_dir fs follow links here name short rest dir] at h
    exact ih h
  | case9 links here c rest name short next target link stop =>
    obtain ⟨rfl, rfl⟩ := stop
    rw [resolveFrom_last fs links here name short] at h
    obtain ⟨rfl, rfl⟩ := Prod.mk.inj (Except.ok.inj h)
    rfl
  | case10 here c rest name short next target link on =>
    rw [resolveFrom_link fs follow 0 here name short rest link on] at h
    cases h
  | case11 here c rest name short next on m link =>
    rw [resolveFrom_link fs follow _ here name short rest link on] at h
    simp at h
  | case12 here c rest name short next target link on m t some ih =>
    rw [resolveFrom_link fs follow _ here name short rest link on] at h
    simp only [if_neg some] at h
    exact ih h

/-- What is read is the file at the place that the path leads to, links followed. -/
theorem read_eq_ok_iff {bytes : ByteArray} :
    fs.read cwd p = .ok bytes ↔
      p.hasZero = false ∧ ∃ key, fs.resolve cwd true p = .ok (key, some (.file bytes)) := by
  unfold FileSystem.read
  cases p.hasZero with
  | true => simp
  | false =>
    rcases fs.resolve cwd true p with f | ⟨key, _ | ⟨bytes'⟩ | ⟨target⟩ | _⟩ <;> simp

theorem read_eq_zero_iff : fs.read cwd p = .error .zero ↔ p.hasZero = true := by
  unfold FileSystem.read
  cases p.hasZero with
  | true => simp
  | false =>
    rcases fs.resolve cwd true p with f | ⟨key, _ | ⟨bytes'⟩ | ⟨target⟩ | _⟩ <;> simp

theorem whole_of_read_at {f : OsFault} {text : String} (h : fs.read cwd p = .error (.at f text)) :
    p.hasZero = false := by
  cases zero : p.hasZero with
  | false => rfl
  | true => simp [FileSystem.read, zero] at h

/-- What can be read is still the same when directories were made. -/
theorem Grows.read {bytes : ByteArray} (h : fs.Grows fs') (read : fs.read cwd p = .ok bytes) :
    fs'.read cwd p = .ok bytes := by
  obtain ⟨whole, key, found⟩ := read_eq_ok_iff.mp read
  have file := h.stays key _ (at?_of_resolveFrom _ _ _ found)
  have noLink : ∀ target, fs'.at? key ≠ some (.link target) := by simp [file]
  have after := resolve_true_keeps h.keeps noLink found
  rw [file] at after
  exact read_eq_ok_iff.mpr ⟨whole, key, after⟩

/-- The root is always there. -/
theorem resolve_root (fs : FileSystem) (follow : Bool) :
    fs.resolve [] follow ⟨"/", []⟩ = .ok ([], some .dir) := by
  rw [resolve, resolveFrom]
  rfl

theorem mkdirs_root (fs : FileSystem) : fs.mkdirs [] ⟨"/", []⟩ = (fs, none) := by
  simp [mkdirs, mkdirsFuel, mkdirOne, resolve_root, isDir, lookup]

theorem attempt_eq_ok {r : Except OsError FileSystem} (h : fs.attempt r = (fs', none)) :
    r = .ok fs' := by
  cases r with
  | ok made => rw [(Prod.mk.inj h).1]
  | error e => cases (Prod.mk.inj h).2

theorem attempt_eq_error {r : Except OsError FileSystem} {e : OsError}
    (h : fs.attempt r = (fs', some e)) : fs' = fs := by
  cases r with
  | ok made => cases (Prod.mk.inj h).2
  | error e => exact (Prod.mk.inj h).1.symm

/-! ## The directory of a place -/

/-- A place and all places above it are directories. -/
def Rooted (fs : FileSystem) (key : List String) : Prop :=
  ∀ above, above <+: key → fs.at? above = some .dir

/-- Where the components of a path are seen from. -/
def startOf (cwd : List String) (p : Path) : List String := if p.isAbsolute then [] else cwd

theorem rooted_nil (fs : FileSystem) : fs.Rooted [] := by
  intro above h
  rw [List.prefix_nil.mp h, at?_root]

theorem Rooted.at? (h : fs.Rooted key) : fs.at? key = some .dir := h key (List.prefix_refl key)

theorem Rooted.dropLast (h : fs.Rooted key) : fs.Rooted key.dropLast :=
  fun above hp => h above (hp.trans (List.dropLast_prefix key))

theorem Rooted.concat (h : fs.Rooted key) (dir : fs.at? (key ++ [c]) = some .dir) :
    fs.Rooted (key ++ [c]) := by
  intro above hp
  rcases List.prefix_concat_iff.mp hp with rfl | hp
  · exact dir
  · exact h above hp

theorem Rooted.keeps (h : fs.Rooted key) (keeps : fs.Keeps fs') : fs'.Rooted key :=
  fun above hp => keeps above .dir (h above hp) trivial

/-- What leads to a place through a last component leads to its directory without it. -/
theorem resolveFrom_concat (name : c ≠ "..") (links : Nat) (here init : List String)
    (rooted : fs.Rooted here)
    (h : fs.resolveFrom false links here (init ++ [c]) = .ok (key, n)) :
    ∃ dir, fs.resolveFrom true links here init = .ok (dir, some .dir) ∧ key = dir ++ [c] := by
  -- The last component is the whole path, or it stays the last one behind the first.
  have last : ∀ {links : Nat} {here : List String}, fs.Rooted here →
      ¬ maxName < c.utf8ByteSize → fs.resolveFrom false links here [c] = .ok (key, n) →
      ∃ dir, fs.resolveFrom true links here [] = .ok (dir, some .dir) ∧ key = dir ++ [c] := by
    intro links here rooted short h
    rw [resolveFrom_last fs links here name short] at h
    obtain ⟨rfl, -⟩ := Prod.mk.inj (Except.ok.inj h)
    exact ⟨here, by rw [resolveFrom, rooted.at?], rfl⟩
  generalize hp : init ++ [c] = todo at h
  induction links, here, todo using resolveFrom.induct fs false generalizing init with
  | case1 links here => simp at hp
  | case2 links here rest ih =>
    cases init with
    | nil => exact absurd (List.cons.inj hp).1 name
    | cons d init =>
      obtain ⟨rfl, rfl⟩ := List.cons.inj hp
      rw [resolveFrom, if_pos rfl] at h ⊢
      exact ih init rooted.dropLast rfl h
  | case3 links here d rest up long =>
    rw [resolveFrom, if_neg up, if_pos long] at h
    cases h
  | case4 links here d up short =>
    cases init with
    | nil => obtain ⟨rfl, -⟩ := List.cons.inj hp; exact last rooted short h
    | cons e init => simp at hp
  | case5 links here d rest up short next none more =>
    rw [resolveFrom_none fs false links here up short rest none, if_neg more] at h
    cases h
  | case6 links here d up short =>
    cases init with
    | nil => obtain ⟨rfl, -⟩ := List.cons.inj hp; exact last rooted short h
    | cons e init => simp at hp
  | case7 links here d rest up short next bytes file more =>
    rw [resolveFrom_file fs false links here up short rest file, if_neg more] at h
    cases h
  | case8 links here d rest up short next dir ih =>
    cases init with
    | nil =>
      obtain ⟨rfl, rfl⟩ := List.cons.inj hp
      exact last rooted short h
    | cons e init =>
      obtain ⟨rfl, rfl⟩ := List.cons.inj hp
      rw [resolveFrom_dir fs _ links here up short _ dir] at h ⊢
      exact ih init (rooted.concat dir) rfl h
  | case9 links here d rest up short next target link stop =>
    obtain ⟨rfl, -⟩ := stop
    cases init with
    | nil => obtain ⟨rfl, -⟩ := List.cons.inj hp; exact last rooted short h
    | cons e init => simp at hp
  | case10 here d rest up short next target link on =>
    rw [resolveFrom_link fs false 0 here up short rest link on] at h
    cases h
  | case11 here d rest up short next on m link =>
    rw [resolveFrom_link fs false _ here up short rest link on] at h
    simp at h
  | case12 here d rest up short next target link on m t some ih =>
    cases init with
    | nil =>
      obtain ⟨-, rfl⟩ := List.cons.inj hp
      simp at on
    | cons e init =>
      obtain ⟨rfl, rfl⟩ := List.cons.inj hp
      rw [resolveFrom_link fs _ _ here up short _ link (by simp)] at h ⊢
      simp only [if_neg some] at h ⊢
      refine ih (t.parts ++ init) ?_ (by simp) h
      split
      · exact rooted_nil fs
      · exact rooted

/-- The place a path leads to is in the directory that the rest of the path leads to. -/
theorem LeadsTo.in_dir (h : fs.LeadsTo cwd p key) (rooted : fs.Rooted (startOf cwd p))
    (last : p.parts.getLast? = some c) (name : c ≠ "..") :
    ∃ dir, fs.resolve cwd true p.parent = .ok (dir, some .dir) ∧ key = dir ++ [c] := by
  obtain ⟨init, hp⟩ := List.getLast?_eq_some_iff.mp last
  unfold LeadsTo resolve at h
  rw [hp] at h
  have found := resolveFrom_concat name maxLinks _ init rooted h
  unfold resolve Path.parent
  rw [hp, List.dropLast_concat]
  exact found

/-- The directories of a path that leads to a place are there. -/
theorem LeadsTo.mkdirs_parent (h : fs.LeadsTo cwd p key) (rooted : fs.Rooted (startOf cwd p))
    (last : p.parts.getLast? = some c) (name : c ≠ "..") :
    fs.mkdirs cwd p.parent = (fs, none) := by
  obtain ⟨dir, hd, -⟩ := h.in_dir rooted last name
  have isDir : fs.isDir cwd p.parent = true := by rw [isDir, lookup, hd]
  have there : fs.mkdirOne cwd p.parent = .error .exists := by
    unfold mkdirOne
    rcases hr : fs.resolve cwd false p.parent with f | ⟨key', _ | m⟩
    -- Without something at the end there is no link to follow, so there was no directory either.
    · rw [resolve_follow (by simp [hr]), hr] at hd
      cases hd
    · rw [resolve_follow (by simp [hr]), hr] at hd
      cases hd
    · rfl
  rw [mkdirs, mkdirsFuel, there]
  simp [isDir]

/-! ## Making parents -/

/-- The second has all that the first has, and otherwise directories at places that the parents of a
path lead to. -/
structure MakesParents (fs : FileSystem) (cwd : List String) (p : Path) (fs' : FileSystem) : Prop where
  grows : fs.Grows fs'
  parent : ∀ key, fs.at? key = none → fs'.at? key = some .dir →
    ∃ up, fs'.LeadsTo cwd (Path.parent^[up] p.parent) key

theorem MakesParents.refl (fs : FileSystem) : fs.MakesParents cwd p fs :=
  ⟨Grows.refl fs, fun _ h0 h => by rw [h0] at h; cases h⟩

theorem MakesParents.trans {fs'' : FileSystem} (h : fs.MakesParents cwd p fs')
    (h' : fs'.MakesParents cwd p fs'') : fs.MakesParents cwd p fs'' := by
  refine ⟨h.grows.trans h'.grows, fun key h0 hn => ?_⟩
  rcases hm : fs'.at? key with _ | m
  · exact h'.parent key hm hn
  · obtain rfl := h.grows.fresh key m h0 hm
    obtain ⟨up, leads⟩ := h.parent key h0 hm
    exact ⟨up, leads.keeps h'.grows.keeps⟩

theorem MakesParents.of_at?_eq (same : ∀ k, fs'.at? k = fs.at? k) : fs.MakesParents cwd p fs' :=
  ⟨grows_of_at?_eq same, fun key h0 h => by rw [same, h0] at h; cases h⟩

theorem makesParents_mkdirOne (up : Nat)
    (h : fs.mkdirOne cwd (Path.parent^[up] p.parent) = .ok fs') : fs.MakesParents cwd p fs' := by
  obtain ⟨made, hr, at?_new⟩ := mkdirOne_eq_ok h
  have grows := grows_mkdirOne h
  refine ⟨grows, fun key h0 hn => ?_⟩
  rw [at?_new] at hn
  split at hn
  · next own =>
    subst own
    exact ⟨up, (leadsTo_of_resolve hr).1.keeps grows.keeps⟩
  · rw [h0] at hn
    cases hn

/-- Making the directories of a path, or those above some of them, makes parents of the path. -/
theorem makesParents_mkdirs (fs : FileSystem) (cwd : List String) (p : Path) (up : Nat) :
    fs.MakesParents cwd p (fs.mkdirs cwd (Path.parent^[up] p.parent)).1 := by
  refine mkdirsFuel_induct MakesParents.refl MakesParents.trans (fun more _ _ h => ?_) _ fs
  rw [← Function.iterate_add_apply] at h
  exact makesParents_mkdirOne _ h

/-! ## The same growth elsewhere -/

/-- Directories that are made in one file system can be made in another, where nothing stands in
their place. -/
theorem exists_grows {other : FileSystem} (grows : fs.Grows fs')
    (free : ∀ key, fs.at? key = none → other.at? key = none) :
    ∃ other', other.Grows other' ∧
      ∀ key, other'.at? key = if fs.at? key = none then fs'.at? key else other.at? key := by
  let made := fs'.nodes.filter fun e => (fs.at? e.1).isNone
  have lookup_made : ∀ key, made.lookup key =
      if fs.at? key = none then fs'.nodes.lookup key else none := by
    intro key
    simp only [made]
    generalize fs'.nodes = nodes
    induction nodes with
    | nil => simp
    | cons e nodes ih =>
      obtain ⟨k, m⟩ := e
      by_cases hk : key = k
      · subst hk
        cases hn : fs.at? key with
        | none => simp [hn]
        | some m' =>
          rw [List.filter_cons_of_neg (by simp [hn]), ih, hn]
          simp
      · have ne : (key == k) = false := by simpa using hk
        by_cases hn : (fs.at? k).isNone
        · rw [List.filter_cons_of_pos (by simpa using hn), List.lookup_cons, List.lookup_cons, ne]
          exact ih
        · rw [List.filter_cons_of_neg (by simpa using hn), List.lookup_cons, ne]
          exact ih
  have at?_new : ∀ key, (⟨made ++ other.nodes⟩ : FileSystem).at? key =
      if fs.at? key = none then fs'.at? key else other.at? key := by
    intro key
    by_cases hk : key = []
    · subst hk
      simp
    · have hm := lookup_made key
      have hf := free key
      simp only [FileSystem.at?, if_neg hk, List.lookup_append] at hm hf ⊢
      rw [hm]
      split
      · next h0 =>
        rw [hf h0]
        simp
      · simp
  refine ⟨⟨made ++ other.nodes⟩, ⟨fun key m hm => ?_, fun key m h0 hm => ?_⟩, at?_new⟩
  · rw [at?_new, if_neg, hm]
    intro h0
    rw [free key h0] at hm
    cases hm
  · rw [at?_new] at hm
    split at hm
    · next h => exact grows.fresh key m h hm
    · rw [h0] at hm
      cases hm

end FileSystem

end DomainAtlas
