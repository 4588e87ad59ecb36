import DomainAtlas.Log.Routing
import DomainAtlas.Proofs.FileSystem.Places

/-!
# Files that something is added to

Logging makes files, and makes them longer, at the places its outputs lead to. `FileSystem.Prolonged`
says that nothing else has happened to a file system. Paths still lead where they led, so that a file
can be read as before unless it stands at one of these places.

Results:
* `FileSystem.Prolonged.read_iff`: what is read of other files.
* `Log.Routing.prolonged_write`: writing a record only adds to the files of its outputs.
-/
namespace DomainAtlas

namespace FileSystem

/-! ## Links are followed to their end -/

/-- Seen from a place that is there, no path that is followed to its end leads to a link. -/
theorem resolveFrom_ne_link {fs : FileSystem} {key : List String} (links : Nat)
    (here todo : List String) (rooted : fs.Rooted here) (target : String) :
    fs.resolveFrom true links here todo ≠ .ok (key, some (.link target)) := by
  intro h
  induction links, here, todo using resolveFrom.induct fs true with
  | case1 links here =>
    rw [resolveFrom, rooted.at?] at h
    cases (Prod.mk.inj (Except.ok.inj h)).2
  | case2 links here rest ih =>
    rw [resolveFrom, if_pos rfl] at h
    exact ih rooted.dropLast h
  | case3 links here c rest name long =>
    rw [resolveFrom, if_neg name, if_pos long] at h
    cases h
  | case4 links here c name short next none =>
    rw [resolveFrom_none fs true links here name short [] none, if_pos rfl] at h
    cases (Prod.mk.inj (Except.ok.inj h)).2
  | case5 links here c rest name short next none more =>
    rw [resolveFrom_none fs true links here name short rest none, if_neg more] at h
    cases h
  | case6 links here c name short next bytes file =>
    rw [resolveFrom_file fs true links here name short [] file, if_pos rfl] at h
    cases (Prod.mk.inj (Except.ok.inj h)).2
  | case7 links here c rest name short next bytes file more =>
    rw [resolveFrom_file fs true links here name short rest file, if_neg more] at h
    cases h
  | case8 links here c rest name short next dir ih =>
    rw [resolveFrom_dir fs true links here name short rest dir] at h
    exact ih (rooted.concat dir) h
  | case9 links here c rest name short next target link stop => cases stop.2
  | case10 here c rest name short next target link on =>
    rw [resolveFrom_link fs true 0 here name short rest link on] at h
    cases h
  | case11 here c rest name short next on n link =>
    rw [resolveFrom_link fs true _ here name short rest link on] at h
    simp at h
  | case12 here c rest name short next target link on n t some ih =>
    rw [resolveFrom_link fs true _ here name short rest link on] at h
    simp only [if_neg some] at h
    refine ih ?_ h
    split
    · exact rooted_nil fs
    · exact rooted

/-! ## Additions -/

/-- The second is the first with files made or made longer, at the given places only. -/
structure Prolonged (places : List String → Prop) (fs fs' : FileSystem) : Prop where
  keeps : fs.Keeps fs'
  back : fs'.Keeps fs
  elsewhere : ∀ key, ¬ places key → fs'.at? key = fs.at? key
  files : ∀ key bytes, fs.at? key = some (.file bytes) →
    ∃ more, fs'.at? key = some (.file (bytes ++ more))

variable {places : List String → Prop} {fs fs' : FileSystem} {cwd : List String} {p : Path}
  {key : List String} {n : Option FileNode}

theorem Prolonged.refl (places : List String → Prop) (fs : FileSystem) : Prolonged places fs fs :=
  ⟨.refl fs, .refl fs, fun _ _ => rfl, fun _ bytes h => ⟨.empty, by simpa using h⟩⟩

theorem Prolonged.link_iff (h : Prolonged places fs fs') {target : String} :
    fs'.at? key = some (.link target) ↔ fs.at? key = some (.link target) :=
  ⟨fun link => h.back key _ link trivial, fun link => h.keeps key _ link trivial⟩

/-- Paths lead where they led. -/
theorem Prolonged.resolve_iff (h : Prolonged places fs fs')
    (real : ∀ target, fs.at? key ≠ some (.link target)) :
    fs'.resolve cwd true p = .ok (key, fs'.at? key) ↔
      fs.resolve cwd true p = .ok (key, fs.at? key) :=
  ⟨fun hr => resolve_true_keeps h.back real hr,
    fun hr => resolve_true_keeps h.keeps (fun target link => real target (h.link_iff.mp link)) hr⟩

/-- A file is read as before, unless its path leads to one of the places. -/
theorem Prolonged.read_iff (h : Prolonged places fs fs') {bytes : ByteArray}
    (spared : ∀ key n, fs.resolve cwd true p = .ok (key, n) → ¬ places key) :
    fs'.read cwd p = .ok bytes ↔ fs.read cwd p = .ok bytes := by
  rw [read_eq_ok_iff, read_eq_ok_iff]
  refine and_congr_right fun _ => exists_congr fun key => ⟨fun hr => ?_, fun hr => ?_⟩
  · have file := at?_of_resolveFrom _ _ _ hr
    have real (target : String) : fs.at? key ≠ some (.link target) := fun link => by
      rw [h.link_iff.mpr link] at file
      cases file
    have before := (h.resolve_iff real).mp (by rw [file, hr])
    rw [before, ← h.elsewhere key (spared key _ before), file]
  · have file := at?_of_resolveFrom _ _ _ hr
    have real (target : String) : fs.at? key ≠ some (.link target) := by simp [file]
    have after := (h.resolve_iff real).mpr (by rw [file, hr])
    rw [after, h.elsewhere key (spared key _ hr), file]

/-- A file is made, or made longer, at one of the places. -/
theorem Prolonged.put_file (h : Prolonged places fs fs') (place : places key) (new : ByteArray)
    (free : ∀ n, fs'.at? key = some n → ∃ bytes more, n = .file bytes ∧ new = bytes ++ more) :
    Prolonged places fs (fs'.put key (.file new)) := by
  have noLead (n : FileNode) (leads : n.Leads) : fs'.at? key ≠ some n := fun hn => by
    obtain ⟨bytes, more, rfl, -⟩ := free n hn
    exact leads
  have at?_new := at?_put fs' (ne_root_of_at? (noLead .dir trivial)) (.file new)
  refine ⟨fun k n hn leads => ?_, fun k n hn leads => ?_, fun k hk => ?_, fun k bytes hb => ?_⟩
  · have kept := h.keeps k n hn leads
    rw [at?_new, if_neg, kept]
    rintro rfl
    exact noLead n leads kept
  · rw [at?_new] at hn
    split at hn
    · obtain rfl := Option.some.inj hn
      exact leads.elim
    · exact h.back k n hn leads
  · have other : k ≠ key := fun e => hk (e ▸ place)
    rw [at?_new, if_neg other, h.elsewhere k hk]
  · obtain ⟨more, longer⟩ := h.files k bytes hb
    rw [at?_new]
    split
    · next e =>
      subst e
      obtain ⟨old, rest, hold, rfl⟩ := free _ longer
      obtain rfl := FileNode.file.inj hold
      exact ⟨more ++ rest, by rw [ByteArray.append_assoc]⟩
    · exact ⟨more, longer⟩

end FileSystem

/-! ## Records -/

namespace Log

open FileSystem

/-- The places that the files of some outputs are at. -/
def Routing.Places (r : Routing) (cwd : List String) (fs : FileSystem) (key : List String) : Prop :=
  ∃ route ∈ r.routes, ∃ p n, route.sink = .file p ∧
    fs.resolve cwd true (p.absolute cwd) = .ok (key, n)

variable {r : Routing} {cwd : List String} {fs : FileSystem}

/-- What is put in the file of an output has to go on with what stands there. -/
theorem prolonged_put {w : Written} (rooted : fs.Rooted cwd)
    (h : Prolonged (r.Places cwd fs) fs w.fs) {route : Route} (hroute : route ∈ r.routes) {p : Path}
    (sink : route.sink = .file p) {bytes : ByteArray}
    (longer : ∀ key old, w.fs.resolve cwd true (p.absolute cwd) = .ok (key, some (.file old)) →
      ∃ more, bytes = old ++ more) :
    Prolonged (r.Places cwd fs) fs (w.put cwd (p.absolute cwd) bytes).fs := by
  have start : w.fs.Rooted (if (p.absolute cwd).isAbsolute then [] else cwd) := by
    split
    · exact rooted_nil w.fs
    · exact rooted.keeps h.keeps
  have place {key : List String} {n : Option FileNode}
      (hw : w.fs.resolve cwd true (p.absolute cwd) = .ok (key, n)) : r.Places cwd fs key := by
    have real (target : String) : fs.at? key ≠ some (.link target) := fun link => by
      rw [← at?_of_resolveFrom _ _ _ hw, h.link_iff.mpr link] at hw
      exact resolveFrom_ne_link _ _ _ start target hw
    have now := at?_of_resolveFrom _ _ _ hw
    exact ⟨route, hroute, p, _, sink, (h.resolve_iff real).mp (by rw [now, hw])⟩
  unfold Written.put
  rcases hw : w.fs.resolve cwd true (p.absolute cwd) with f | ⟨key, _ | ⟨old⟩ | ⟨target⟩ | _⟩
  · simp only [FileSystem.write, hw]
    exact h
  · have free := at?_of_resolveFrom _ _ _ hw
    simp only [FileSystem.write, hw]
    exact h.put_file (place hw) _ fun n hn => by rw [free] at hn; cases hn
  · have file := at?_of_resolveFrom _ _ _ hw
    obtain ⟨more, rfl⟩ := longer key old hw
    simp only [FileSystem.write, hw]
    refine h.put_file (place hw) _ fun n hn => ?_
    rw [file] at hn
    exact ⟨old, more, (Option.some.inj hn).symm, rfl⟩
  · exact absurd hw (resolveFrom_ne_link _ _ _ start target)
  · simp only [FileSystem.write, hw]
    exact h

theorem prolonged_append {w : Written} (rooted : fs.Rooted cwd)
    (h : Prolonged (r.Places cwd fs) fs w.fs) {route : Route} (hroute : route ∈ r.routes) {p : Path}
    (sink : route.sink = .file p) (line : String) :
    Prolonged (r.Places cwd fs) fs (w.append cwd p line).fs := by
  unfold Written.append
  dsimp only
  split
  · next old read =>
    obtain ⟨-, key, found⟩ := read_eq_ok_iff.mp read
    refine prolonged_put rooted h hroute sink fun key' old' hw => ?_
    cases found.symm.trans hw
    exact ⟨_, rfl⟩
  · next missing =>
    refine prolonged_put rooted h hroute sink fun key old hw => ?_
    simp [FileSystem.read, whole_of_read_at missing, hw] at missing
  · exact h

/-- Writing a record only adds to the files of the outputs. -/
theorem Routing.prolonged_write {w : Written} (rooted : fs.Rooted cwd)
    (h : Prolonged (r.Places cwd fs) fs w.fs) (time : String) (e : Emission) :
    Prolonged (r.Places cwd fs) fs (r.write cwd time w e).fs := by
  have one (w : Written) (h : Prolonged (r.Places cwd fs) fs w.fs) {route : Route}
      (hroute : route ∈ r.routes) :
      Prolonged (r.Places cwd fs) fs (writeTo cwd time e.record w route).fs := by
    unfold writeTo
    split
    · exact h
    · exact h
    · next p sink => exact prolonged_append rooted h hroute sink _
  have all (routes : List Route) (sub : ∀ route ∈ routes, route ∈ r.routes) (w : Written)
      (h : Prolonged (r.Places cwd fs) fs w.fs) :
      Prolonged (r.Places cwd fs) fs (routes.foldl (writeTo cwd time e.record) w).fs := by
    induction routes generalizing w with
    | nil => exact h
    | cons route routes ih =>
      rw [List.forall_mem_cons] at sub
      exact ih sub.2 _ (one w h sub.1)
  unfold Routing.write
  split
  · split <;> exact h
  · exact all _ (fun route hroute => (List.mem_filter.mp hroute).1) w h

end Log

end DomainAtlas
