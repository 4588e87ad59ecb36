import DomainAtlas.FileSystem
import Mathlib.Logic.Function.Iterate

/-!
# Laws of the file system

A path is followed through directories and links only. So where it leads stays the same as long as
these stay (`FileSystem.Keeps`), whatever happens to files, and making directories
(`FileSystem.Grows`) changes what a path leads to only where nothing was.

Results:
* `FileSystem.resolve_keeps`: a path that leads somewhere leads there in every file system that keeps
  the directories and links.
* `FileSystem.resolve_follow`: a path that does not end at a link is the same with its last link
  followed.
* `FileSystem.grows_mkdirs`: making directories, complete or not, only adds directories.
-/
namespace DomainAtlas

/-- A directory or a link: what a path is followed through. -/
def FileNode.Leads : FileNode → Prop
  | .file _ => False
  | _ => True

namespace FileSystem

/-! ## Single places -/

@[simp] theorem at?_root (fs : FileSystem) : fs.at? [] = some .dir := if_pos rfl

theorem lookup_filter_ne (nodes : List (List String × FileNode)) (key k : List String) :
    (nodes.filter fun e => e.1 != key).lookup k = if k = key then none else nodes.lookup k := by
  induction nodes with
  | nil => simp
  | cons e nodes ih =>
    obtain ⟨k', n⟩ := e
    by_cases hk : k' = key
    · rw [List.filter_cons_of_neg (by simpa using hk), ih, List.lookup_cons]
      split
      · rfl
      · next h =>
        have : (k == k') = false := by simpa using fun e => h (e.trans hk)
        rw [this]
    · rw [List.filter_cons_of_pos (by simpa using hk), List.lookup_cons, List.lookup_cons, ih]
      by_cases h : k = k'
      · subst h; simp [hk]
      · have : (k == k') = false := by simpa using h
        simp [this]

theorem at?_put (fs : FileSystem) {key : List String} (h : key ≠ []) (n : FileNode)
    (k : List String) : (fs.put key n).at? k = if k = key then some n else fs.at? k := by
  unfold at? put
  by_cases hk : k = key
  · subst hk; simp [h]
  · have : (k == key) = false := by simpa using hk
    simp only [List.lookup_cons, this, lookup_filter_ne, hk, if_false]

theorem at?_erase (fs : FileSystem) {key : List String} (h : key ≠ []) (k : List String) :
    (fs.erase key).at? k = if k = key then none else fs.at? k := by
  unfold at? erase
  rw [lookup_filter_ne]
  by_cases hk : k = key
  · subst hk; simp [h]
  · simp [hk]

/-! ## Where a path leads -/

section Steps

variable (fs : FileSystem) (follow : Bool) (links : Nat) (here : List String) {c : String}
  (name : c ≠ "..") (short : ¬ maxName < c.utf8ByteSize) (rest : List String)

include name short

theorem resolveFrom_none (h : fs.at? (here ++ [c]) = none) :
    fs.resolveFrom follow links here (c :: rest) =
      if rest = [] then .ok (here ++ [c], none) else .error .notFound := by
  rw [resolveFrom, if_neg name, if_neg short]
  simp only [h]

theorem resolveFrom_file {bytes : ByteArray} (h : fs.at? (here ++ [c]) = some (.file bytes)) :
    fs.resolveFrom follow links here (c :: rest) =
      if rest = [] then .ok (here ++ [c], some (.file bytes)) else .error .notDirectory := by
  rw [resolveFrom, if_neg name, if_neg short]
  simp only [h]

theorem resolveFrom_dir (h : fs.at? (here ++ [c]) = some .dir) :
    fs.resolveFrom follow links here (c :: rest) =
      fs.resolveFrom follow links (here ++ [c]) rest := by
  rw [resolveFrom, if_neg name, if_neg short]
  simp only [h]

theorem resolveFrom_link {target : String} (h : fs.at? (here ++ [c]) = some (.link target))
    (on : ¬ (rest = [] ∧ follow = false)) :
    fs.resolveFrom follow links here (c :: rest) =
      match links with
      | 0 => .error .tooManyLinks
      | n + 1 =>
        if target = "" then .error .notFound
        else fs.resolveFrom follow n (if (Path.parse target).isAbsolute then [] else here)
          ((Path.parse target).parts ++ rest) := by
  rw [resolveFrom, if_neg name, if_neg short]
  simp only [h]
  refine (if_neg on).trans ?_
  cases links <;> rfl

/-- A last component at which no link is to be followed. -/
theorem resolveFrom_end (stays : follow = true → ∀ target, fs.at? (here ++ [c]) ≠ some (.link target)) :
    fs.resolveFrom follow links here [c] = .ok (here ++ [c], fs.at? (here ++ [c])) := by
  rcases h : fs.at? (here ++ [c]) with _ | ⟨⟨bytes⟩ | ⟨target⟩ | _⟩
  · rw [resolveFrom_none fs follow links here name short [] h, if_pos rfl]
  · rw [resolveFrom_file fs follow links here name short [] h, if_pos rfl]
  · have off : follow = false := by simpa using fun on => stays on target h
    rw [resolveFrom, if_neg name, if_neg short]
    simp only [h, off, and_self, if_true]
  · rw [resolveFrom_dir fs follow links here name short [] h, resolveFrom, h]

/-- A last component is not followed. -/
theorem resolveFrom_last :
    fs.resolveFrom false links here [c] = .ok (here ++ [c], fs.at? (here ++ [c])) :=
  resolveFrom_end fs false links here name short (by simp)

end Steps

/-- The directories and links of the first are in the second. -/
def Keeps (fs fs' : FileSystem) : Prop :=
  ∀ key n, fs.at? key = some n → n.Leads → fs'.at? key = some n

theorem Keeps.refl (fs : FileSystem) : fs.Keeps fs := fun _ _ h _ => h

/-- Where a path leads stays the same as long as the directories and links stay. When the last link is
followed too, no new link may stand where the path led. -/
theorem resolveFrom_keeps {fs fs' : FileSystem} (h : fs.Keeps fs') {follow : Bool} (links : Nat)
    (here todo : List String) {key : List String} {n : Option FileNode}
    (stays : follow = true → ∀ target, fs'.at? key ≠ some (.link target))
    (hr : fs.resolveFrom follow links here todo = .ok (key, n)) :
    fs'.resolveFrom follow links here todo = .ok (key, fs'.at? key) := by
  have last : ∀ {links : Nat} {here : List String} {c : String}, c ≠ ".." →
      ¬ maxName < c.utf8ByteSize →
      (follow = true → ∀ target, fs.at? (here ++ [c]) ≠ some (.link target)) →
      fs.resolveFrom follow links here [c] = .ok (key, n) →
      fs'.resolveFrom follow links here [c] = .ok (key, fs'.at? key) := by
    intro links here c name short ends hr
    rw [resolveFrom_end fs follow links here name short ends] at hr
    obtain ⟨rfl, -⟩ := Prod.mk.inj (Except.ok.inj hr)
    exact resolveFrom_end fs' follow links here name short stays
  induction links, here, todo using resolveFrom.induct fs follow with
  | case1 links here =>
    rw [resolveFrom] at hr ⊢
    obtain ⟨rfl, -⟩ := Prod.mk.inj (Except.ok.inj hr)
    rfl
  | case2 links here rest ih =>
    rw [resolveFrom, if_pos rfl] at hr ⊢
    exact ih hr
  | case3 links here c rest name long =>
    rw [resolveFrom, if_neg name, if_pos long] at hr
    cases hr
  | case4 links here c name short next none =>
    exact last name short (fun _ _ e => by rw [none] at e; cases e) hr
  | case5 links here c rest name short next none more =>
    rw [resolveFrom_none fs follow links here name short rest none, if_neg more] at hr
    cases hr
  | case6 links here c name short next bytes file =>
    exact last name short (fun _ _ e => by rw [file] at e; cases e) hr
  | case7 links here c rest name short next bytes file more =>
    rw [resolveFrom_file fs follow links here name short rest file, if_neg more] at hr
    cases hr
  | case8 links here c rest name short next dir ih =>
    rw [resolveFrom_dir fs follow links here name short rest dir] at hr
    rw [resolveFrom_dir fs' follow links here name short rest (h _ _ dir trivial)]
    exact ih hr
  | case9 links here c rest name short next target link stop =>
    obtain ⟨rfl, off⟩ := stop
    exact last name short (fun on => by simp [off] at on) hr
  | case10 here c rest name short next target link on =>
    rw [resolveFrom_link fs follow 0 here name short rest link on] at hr
    cases hr
  | case11 here c rest name short next on n link =>
    rw [resolveFrom_link fs follow _ here name short rest link on] at hr
    simp at hr
  | case12 here c rest name short next target link on n t some ih =>
    rw [resolveFrom_link fs follow _ here name short rest link on] at hr
    rw [resolveFrom_link fs' follow _ here name short rest (h _ _ link trivial) on]
    simp only [if_neg some] at hr ⊢
    exact ih hr

theorem resolveFrom_follow {fs : FileSystem} (links : Nat) (here todo : List String)
    (h : ∀ key target, fs.resolveFrom false links here todo ≠ .ok (key, some (.link target))) :
    fs.resolveFrom true links here todo = fs.resolveFrom false links here todo := by
  induction links, here, todo using resolveFrom.induct fs false with
  | case1 links here => rw [resolveFrom, resolveFrom]
  | case2 links here rest ih =>
    rw [resolveFrom, if_pos rfl] at h ⊢
    rw [resolveFrom.eq_def fs false, ih h]
    rfl
  | case3 links here c rest name long =>
    rw [resolveFrom, if_neg name, if_pos long, resolveFrom, if_neg name, if_pos long]
  | case4 links here c name short next none =>
    rw [resolveFrom_none fs _ links here name short _ none,
      resolveFrom_none fs _ links here name short _ none]
  | case5 links here c rest name short next none more =>
    rw [resolveFrom_none fs _ links here name short _ none,
      resolveFrom_none fs _ links here name short _ none]
  | case6 links here c name short next bytes file =>
    rw [resolveFrom_file fs _ links here name short _ file,
      resolveFrom_file fs _ links here name short _ file]
  | case7 links here c rest name short next bytes file more =>
    rw [resolveFrom_file fs _ links here name short _ file,
      resolveFrom_file fs _ links here name short _ file]
  | case8 links here c rest name short next dir ih =>
    rw [resolveFrom_dir fs _ links here name short _ dir] at h ⊢
    rw [resolveFrom_dir fs false links here name short _ dir, ih h]
  | case9 links here c rest name short next target link stop =>
    obtain ⟨rfl, -⟩ := stop
    rw [resolveFrom_last fs links here name short, link] at h
    exact absurd rfl (h _ _)
  | case10 here c rest name short next target link on =>
    rw [resolveFrom_link fs true _ here name short _ link (by simp),
      resolveFrom_link fs false _ here name short _ link on]
  | case11 here c rest name short next on n link =>
    rw [resolveFrom_link fs true _ here name short _ link (by simp),
      resolveFrom_link fs false _ here name short _ link on]
    simp
  | case12 here c rest name short next target link on n t some ih =>
    rw [resolveFrom_link fs false _ here name short _ link on] at h ⊢
    rw [resolveFrom_link fs true _ here name short _ link (by simp)]
    simp only [if_neg some] at h ⊢
    exact ih h

section Paths

variable {fs fs' : FileSystem} {cwd : List String} {p : Path} {key : List String}
  {n : Option FileNode}

/-- A path that leads somewhere leads there as long as the directories and links stay. -/
theorem resolve_keeps (h : fs.Keeps fs') (hr : fs.resolve cwd false p = .ok (key, n)) :
    fs'.resolve cwd false p = .ok (key, fs'.at? key) :=
  resolveFrom_keeps h maxLinks _ p.parts (by simp) hr

/-- The same with the last link followed, as long as no new link stands at the end. -/
theorem resolve_true_keeps (h : fs.Keeps fs')
    (stays : ∀ target, fs'.at? key ≠ some (.link target))
    (hr : fs.resolve cwd true p = .ok (key, n)) :
    fs'.resolve cwd true p = .ok (key, fs'.at? key) :=
  resolveFrom_keeps h maxLinks _ p.parts (fun _ => stays) hr

theorem at?_of_resolve (hr : fs.resolve cwd false p = .ok (key, n)) : fs.at? key = n := by
  have := resolve_keeps (Keeps.refl fs) hr
  rw [hr] at this
  exact (Prod.mk.inj (Except.ok.inj this)).2.symm

theorem resolve_follow (h : ∀ key target, fs.resolve cwd false p ≠ .ok (key, some (.link target))) :
    fs.resolve cwd true p = fs.resolve cwd false p :=
  resolveFrom_follow maxLinks _ p.parts h

end Paths

/-! ## Making directories -/

/-- The second has all that the first has, and otherwise only directories. -/
structure Grows (fs fs' : FileSystem) : Prop where
  stays : ∀ key n, fs.at? key = some n → fs'.at? key = some n
  fresh : ∀ key n, fs.at? key = none → fs'.at? key = some n → n = .dir

theorem Grows.refl (fs : FileSystem) : fs.Grows fs :=
  ⟨fun _ _ h => h, fun _ _ h h' => by rw [h] at h'; cases h'⟩

theorem Grows.trans {fs fs' fs'' : FileSystem} (h : fs.Grows fs') (h' : fs'.Grows fs'') :
    fs.Grows fs'' := by
  refine ⟨fun key n hn => h'.stays key n (h.stays key n hn), fun key n h0 hn => ?_⟩
  cases hm : fs'.at? key with
  | none => exact h'.fresh key n hm hn
  | some m =>
    obtain rfl := h.fresh key m h0 hm
    rw [h'.stays key _ hm] at hn
    exact (Option.some.inj hn).symm

theorem Grows.keeps {fs fs' : FileSystem} (h : fs.Grows fs') : fs.Keeps fs' :=
  fun key n hn _ => h.stays key n hn

/-- The files are the same ones. -/
theorem Grows.file_iff {fs fs' : FileSystem} (h : fs.Grows fs') {key : List String}
    {bytes : ByteArray} : fs'.at? key = some (.file bytes) ↔ fs.at? key = some (.file bytes) := by
  refine ⟨fun after => ?_, h.stays key _⟩
  rcases before : fs.at? key with _ | n
  · cases h.fresh key _ before after
  · rw [← h.stays key n before, after]

theorem grows_of_at?_eq {fs fs' : FileSystem} (h : ∀ key, fs'.at? key = fs.at? key) :
    fs.Grows fs' :=
  ⟨fun key _ hn => (h key).trans hn, fun key _ h0 hn => by rw [h key, h0] at hn; cases hn⟩

theorem ne_root_of_at? {fs : FileSystem} {key : List String} (h : fs.at? key ≠ some .dir) :
    key ≠ [] := by
  rintro rfl
  exact h (at?_root fs)

theorem mkdirOne_eq_ok {fs fs' : FileSystem} {cwd : List String} {p : Path}
    (h : fs.mkdirOne cwd p = .ok fs') :
    ∃ key, fs.resolve cwd false p = .ok (key, none) ∧
      ∀ k, fs'.at? k = if k = key then some .dir else fs.at? k := by
  unfold mkdirOne at h
  split at h
  · cases h
  · cases h
  · next key hr =>
    obtain rfl := Except.ok.inj h
    have empty := at?_of_resolve hr
    have hk : key ≠ [] := ne_root_of_at? (by rw [empty]; simp)
    exact ⟨key, hr, at?_put fs hk .dir⟩

theorem grows_mkdirOne {fs fs' : FileSystem} {cwd : List String} {p : Path}
    (h : fs.mkdirOne cwd p = .ok fs') : fs.Grows fs' := by
  obtain ⟨key, hr, at?_new⟩ := mkdirOne_eq_ok h
  have empty := at?_of_resolve hr
  refine ⟨fun k n hn => ?_, fun k n h0 hn => ?_⟩
  · rw [at?_new, if_neg, hn]
    rintro rfl
    rw [hn] at empty
    cases empty
  · rw [at?_new] at hn
    split at hn
    · exact (Option.some.inj hn).symm
    · rw [h0] at hn
      cases hn

/-- What every directory made on the way keeps, making directories keeps. Made are a path and those above
it. -/
theorem mkdirsFuel_induct {R : FileSystem → FileSystem → Prop} (refl : ∀ fs, R fs fs)
    (trans : ∀ {fs fs' fs''}, R fs fs' → R fs' fs'' → R fs fs'') {cwd : List String} {p : Path}
    (one : ∀ up {fs fs'}, mkdirOne fs cwd (Path.parent^[up] p) = .ok fs' → R fs fs') (fuel : Nat)
    (fs : FileSystem) : R fs (mkdirsFuel cwd fuel fs p).1 := by
  induction fuel generalizing fs p with
  | zero =>
    unfold mkdirsFuel
    simp only
    split
    · next h => exact one 0 h
    · exact refl fs
    · exact refl fs
  | succ fuel ih =>
    unfold mkdirsFuel
    simp only
    split
    · next h => exact one 0 h
    · split
      · exact refl fs
      · have parents := ih (fun up => one (up + 1)) fs
        split
        · next h => rw [h] at parents; exact parents
        · next fs1 h =>
          rw [h] at parents
          split
          · next h1 => exact trans parents (one 0 h1)
          · exact parents
    · exact refl fs

theorem grows_mkdirs (fs : FileSystem) (cwd : List String) (p : Path) :
    fs.Grows (fs.mkdirs cwd p).1 :=
  mkdirsFuel_induct Grows.refl Grows.trans (fun _ _ _ h => grows_mkdirOne h) _ fs

/-! ## Replacing -/

theorem replace_eq_ok {fs fs' : FileSystem} {cwd : List String} {source target : Path}
    {from' : List String} {node : FileNode}
    (found : fs.resolve cwd false source = .ok (from', some node))
    (h : fs.replace cwd source target = .ok fs') :
    ∃ key n, fs.resolve cwd false target = .ok (key, n) ∧ n ≠ some .dir ∧
      fs' = (fs.erase from').put key node := by
  unfold replace at h
  rw [found] at h
  simp only at h
  split at h
  · cases h
  · split at h
    · cases h
    · cases h
    · next key n dir hr =>
      exact ⟨key, n, hr, dir, (Except.ok.inj h).symm⟩

/-! ## One more file -/

/-- The second is the first with a file where nothing was. -/
structure AddsFile (fs : FileSystem) (key : List String) (bytes : ByteArray) (fs' : FileSystem) :
    Prop where
  new : fs.at? key = none
  at?_eq : ∀ k, fs'.at? k = if k = key then some (.file bytes) else fs.at? k

section AddsFile

variable {fs fs' : FileSystem} {key : List String} {bytes : ByteArray} {cwd : List String} {p : Path}

theorem AddsFile.ne_root (h : fs.AddsFile key bytes fs') : key ≠ [] :=
  ne_root_of_at? (by rw [h.new]; simp)

theorem AddsFile.keeps (h : fs.AddsFile key bytes fs') : fs.Keeps fs' := by
  intro k n hn _
  rw [h.at?_eq, if_neg, hn]
  rintro rfl
  rw [h.new] at hn
  cases hn

theorem AddsFile.keeps_back (h : fs.AddsFile key bytes fs') : fs'.Keeps fs := by
  intro k n hn leads
  rw [h.at?_eq] at hn
  split at hn
  · obtain rfl := Option.some.inj hn
    exact leads.elim
  · exact hn

theorem addsFile_put (h : fs.at? key = none) (bytes : ByteArray) :
    fs.AddsFile key bytes (fs.put key (.file bytes)) :=
  ⟨h, at?_put fs (ne_root_of_at? (by rw [h]; simp)) (.file bytes)⟩

theorem createNew_eq_ok (h : fs.createNew cwd p = .ok fs') :
    ∃ key, fs.resolve cwd false p = .ok (key, none) ∧ fs.AddsFile key ByteArray.empty fs' := by
  unfold createNew at h
  split at h
  · cases h
  · cases h
  · next key hr =>
    obtain rfl := Except.ok.inj h
    exact ⟨key, hr, addsFile_put (at?_of_resolve hr) _⟩

/-- A path to the new file. -/
theorem AddsFile.resolve (h : fs.AddsFile key bytes fs')
    (hr : fs.resolve cwd false p = .ok (key, none)) :
    fs'.resolve cwd false p = .ok (key, some (.file bytes)) := by
  rw [resolve_keeps h.keeps hr, h.at?_eq, if_pos rfl]

theorem AddsFile.write (h : fs.AddsFile key bytes fs')
    (hr : fs.resolve cwd false p = .ok (key, none)) (more : ByteArray) :
    ∃ fs'', fs'.write cwd p more = .ok fs'' ∧ fs.AddsFile key more fs'' := by
  have found := h.resolve hr
  have follow : fs'.resolve cwd true p = .ok (key, some (.file bytes)) := by
    rw [resolve_follow fun k t e => ?_, found]
    rw [found] at e
    cases (Prod.mk.inj (Except.ok.inj e)).2
  refine ⟨fs'.put key (.file more), by rw [FileSystem.write, follow], h.new, fun k => ?_⟩
  rw [at?_put fs' h.ne_root, h.at?_eq]
  split <;> rfl

/-- Taking the new file away leaves what was there before. -/
theorem AddsFile.unlink (h : fs.AddsFile key bytes fs')
    (hr : fs.resolve cwd false p = .ok (key, none)) :
    ∃ fs'', fs'.unlink cwd p = .ok fs'' ∧ ∀ k, fs''.at? k = fs.at? k := by
  refine ⟨fs'.erase key, by rw [FileSystem.unlink, h.resolve hr], fun k => ?_⟩
  rw [at?_erase fs' h.ne_root, h.at?_eq]
  split
  · next e => rw [e, h.new]
  · rfl

end AddsFile

end FileSystem

end DomainAtlas
