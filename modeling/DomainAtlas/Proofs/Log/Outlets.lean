import DomainAtlas.Log.Session
import DomainAtlas.Proofs.FileSystem.Places

/-!
# What stands where log lines go

Lines end up on one of the two streams or in a file. A file that has been got ready for an output stays
where it is, whatever is logged or configured later (`FileSystem.Retains`), so that every line for it is
put at its end.

Results:
* `opened_openRoutes`: which outputs are got ready, and that nothing is written for that.
* `contents_foldl_writeTo`: what one record adds to each outlet.
-/
namespace DomainAtlas

namespace FileSystem

/-- What a file holds; nothing where there is none. -/
def contentAt (fs : FileSystem) (key : List String) : ByteArray :=
  match fs.at? key with
  | some (.file bytes) => bytes
  | _ => .empty

def place? (fs : FileSystem) (cwd : List String) (p : Path) : Option (List String) :=
  match fs.resolve cwd true p with
  | .ok (key, _) => some key
  | .error _ => none

/-- A path leads to a file that stands here. -/
def Opens (fs : FileSystem) (cwd : List String) (p : Path) (key : List String) : Prop :=
  p.hasZero = false ∧ ∃ bytes, fs.resolve cwd true p = .ok (key, some (.file bytes))

/-- Directories and links are the same in the second, and files still are files. -/
structure Retains (fs fs' : FileSystem) : Prop where
  keeps : fs.Keeps fs'
  files : ∀ key bytes, fs.at? key = some (.file bytes) → ∃ bytes', fs'.at? key = some (.file bytes')

variable {fs fs' fs'' : FileSystem} {cwd : List String} {p : Path} {key : List String}

theorem Retains.refl (fs : FileSystem) : fs.Retains fs := ⟨.refl fs, fun _ bytes h => ⟨bytes, h⟩⟩

theorem Retains.trans (h : fs.Retains fs') (h' : fs'.Retains fs'') : fs.Retains fs'' := by
  refine ⟨fun key n hn leads => h'.keeps key n (h.keeps key n hn leads) leads, fun key bytes hb => ?_⟩
  obtain ⟨bytes', hb'⟩ := h.files key bytes hb
  exact h'.files key bytes' hb'

theorem Grows.retains (h : fs.Grows fs') : fs.Retains fs' :=
  ⟨h.keeps, fun key bytes hb => ⟨bytes, h.stays key _ hb⟩⟩

theorem Grows.contentAt (h : fs.Grows fs') (key : List String) : fs'.contentAt key = fs.contentAt key := by
  unfold FileSystem.contentAt
  cases before : fs.at? key with
  | some n => rw [h.stays key n before]
  | none =>
    cases after : fs'.at? key with
    | none => rfl
    | some n => rw [h.fresh key n before after]

theorem Opens.place? (h : fs.Opens cwd p key) : fs.place? cwd p = some key := by
  obtain ⟨-, bytes, resolved⟩ := h
  rw [FileSystem.place?, resolved]

theorem Opens.at? (h : fs.Opens cwd p key) : fs.at? key = some (.file (fs.contentAt key)) := by
  obtain ⟨-, bytes, resolved⟩ := h
  have file := at?_of_resolveFrom _ _ _ resolved
  rw [contentAt, file]

theorem Opens.retains (h : fs.Opens cwd p key) (r : fs.Retains fs') : fs'.Opens cwd p key := by
  obtain ⟨whole, bytes, resolved⟩ := h
  obtain ⟨bytes', file⟩ := r.files key bytes (at?_of_resolveFrom _ _ _ resolved)
  refine ⟨whole, bytes', ?_⟩
  rw [resolve_true_keeps r.keeps (by simp [file]) resolved, file]

/-- A file in place of a file, or of nothing. -/
theorem retains_put (free : ∀ n, fs.at? key = some n → ∃ bytes, n = .file bytes) (new : ByteArray) :
    fs.Retains (fs.put key (.file new)) ∧
      ∀ k, (fs.put key (.file new)).contentAt k = if k = key then new else fs.contentAt k := by
  have noDir : fs.at? key ≠ some .dir := fun dir => by
    obtain ⟨_, file⟩ := free _ dir
    cases file
  have at?_new := at?_put fs (ne_root_of_at? noDir) (.file new)
  refine ⟨⟨fun k n hn leads => ?_, fun k bytes hb => ?_⟩, fun k => ?_⟩
  · rw [at?_new, if_neg, hn]
    intro e
    obtain ⟨_, rfl⟩ := free n (e ▸ hn)
    exact leads
  · rw [at?_new]
    split
    · exact ⟨new, rfl⟩
    · exact ⟨bytes, hb⟩
  · unfold contentAt
    rw [at?_new]
    by_cases e : k = key
    · simp only [if_pos e]
    · simp only [if_neg e]

end FileSystem

namespace Log

open FileSystem

/-! ## Getting outputs ready -/

/-- The file of an output, if it has one, is there. -/
def Route.Ready (fs : FileSystem) (cwd : List String) (route : Route) : Prop :=
  ∀ p, route.sink = .file p → ∃ key, fs.Opens cwd (p.absolute cwd) key

section Opening

variable {fs fs' : FileSystem} {cwd : List String} {p : Path}

theorem Route.Ready.retains {route : Route} (h : route.Ready fs cwd) (r : fs.Retains fs') :
    route.Ready fs' cwd := by
  intro p sink
  obtain ⟨key, opens⟩ := h p sink
  exact ⟨key, opens.retains r⟩

/-- A file that was not there is made, without content, or nothing is done. -/
theorem attempt_write_missing {text : String} {failure : Option OsError}
    (missing : fs.read cwd p = .error (.at .notFound text))
    (h : fs.attempt (fs.write cwd p .empty) = (fs', failure)) :
    fs.Retains fs' ∧ (∀ key, fs'.contentAt key = fs.contentAt key) ∧
      (failure = none → ∃ key, fs'.Opens cwd p key) := by
  have whole := whole_of_read_at missing
  cases resolved : fs.resolve cwd true p with
  | error f =>
    simp only [FileSystem.write, resolved, attempt] at h
    cases h
    exact ⟨.refl fs, fun _ => rfl, by simp⟩
  | ok found =>
    obtain ⟨key, _ | ⟨bytes⟩ | ⟨target⟩ | _⟩ := found
    -- only where nothing stands is nothing found
    all_goals simp [FileSystem.read, whole, resolved] at missing
    simp only [FileSystem.write, resolved, attempt] at h
    cases h
    have empty := at?_of_resolveFrom _ _ _ resolved
    have free : ∀ n, fs.at? key = some n → ∃ bytes, n = .file bytes := by simp [empty]
    obtain ⟨retains, contents⟩ := retains_put free .empty
    have noDir : fs.at? key ≠ some .dir := by simp [empty]
    have file : (fs.put key (.file .empty)).at? key = some (.file .empty) := by
      rw [at?_put fs (ne_root_of_at? noDir), if_pos rfl]
    refine ⟨retains, fun k => ?_, fun _ => ⟨key, whole, .empty, ?_⟩⟩
    · rw [contents]
      split
      · next e => rw [e, contentAt, empty]
      · rfl
    · rw [resolve_true_keeps retains.keeps (by simp [file]) resolved, file]

/-- Nothing is written to get a file ready, and unless that fails the file is there afterwards. -/
theorem retains_openFile {failure : Option OsError} (h : Routing.openFile cwd fs p = (fs', failure)) :
    fs.Retains fs' ∧ (∀ key, fs'.contentAt key = fs.contentAt key) ∧
      (failure = none → ∃ key, fs'.Opens cwd (p.absolute cwd) key) := by
  unfold Routing.openFile at h
  have grows := grows_mkdirs fs cwd p.parent
  split at h
  · cases h
    exact ⟨.refl fs, fun _ => rfl, by simp⟩
  split at h
  · next made e dirs =>
    rw [dirs] at grows
    cases h
    exact ⟨grows.retains, grows.contentAt, by simp⟩
  next made dirs =>
  rw [dirs] at grows
  split at h
  · cases h
    exact ⟨grows.retains, grows.contentAt, by simp⟩
  split at h
  · next bytes found =>
    cases h
    obtain ⟨whole, key, resolved⟩ := read_eq_ok_iff.1 found
    exact ⟨grows.retains, grows.contentAt, fun _ => ⟨key, whole, bytes, resolved⟩⟩
  · next missing =>
    obtain ⟨retains, contents, opens⟩ := attempt_write_missing missing h
    exact ⟨grows.retains.trans retains, fun key => by rw [contents, grows.contentAt], opens⟩
  · cases h
    exact ⟨grows.retains, grows.contentAt, by simp⟩

/-- Outputs have been got ready one after the other, until none was left or the file of one could not be
opened. Nothing has been written for that. -/
structure Opened (cwd : List String) (fs : FileSystem) (routes ready : List Route) (fs' : FileSystem)
    (failure : Option OsError) : Prop where
  retains : fs.Retains fs'
  contents : ∀ key, fs'.contentAt key = fs.contentAt key
  available : ∀ route ∈ ready, route.Ready fs' cwd
  whole : failure = none → ready = routes
  stopped : failure ≠ none → ∃ route rest, routes = ready ++ route :: rest ∧ route.sink.isConsole = false

/-- One more output in front. -/
theorem Opened.cons {routes ready : List Route} {made : FileSystem} {failure : Option OsError}
    {route : Route} (h : Opened cwd made routes ready fs' failure) (retains : fs.Retains made)
    (contents : ∀ key, made.contentAt key = fs.contentAt key) (first : route.Ready made cwd) :
    Opened cwd fs (route :: routes) (route :: ready) fs' failure where
  retains := retains.trans h.retains
  contents key := by rw [h.contents, contents]
  available := List.forall_mem_cons.2 ⟨first.retains h.retains, h.available⟩
  whole none := by rw [h.whole none]
  stopped failed := by
    obtain ⟨stop, rest, e, file⟩ := h.stopped failed
    exact ⟨stop, rest, by rw [e, List.cons_append], file⟩

theorem opened_openRoutes (cwd : List String) (fs : FileSystem) (routes : List Route) :
    Opened cwd fs routes (Routing.openRoutes cwd fs routes).1 (Routing.openRoutes cwd fs routes).2.1
      (Routing.openRoutes cwd fs routes).2.2 := by
  induction routes generalizing fs with
  | nil =>
    unfold Routing.openRoutes
    exact ⟨.refl fs, fun _ => rfl, by simp, fun _ => rfl, by simp⟩
  | cons route routes ih =>
    have console (h : route.sink.isConsole = true) : route.Ready fs cwd := by
      intro p sink
      rw [sink] at h
      cases h
    unfold Routing.openRoutes
    split
    · next p sink =>
      have file : route.sink.isConsole = false := by rw [sink]; rfl
      split
      · next made e opened =>
        obtain ⟨retains, contents, -⟩ := retains_openFile opened
        exact ⟨retains, contents, by simp, by simp, fun _ => ⟨route, routes, rfl, file⟩⟩
      · next made opened =>
        obtain ⟨retains, contents, opens⟩ := retains_openFile opened
        obtain ⟨key, opens⟩ := opens rfl
        refine (ih made).cons retains contents fun q e => ?_
        rw [sink] at e
        cases e
        exact ⟨key, opens⟩
    · next other =>
      refine (ih fs).cons (.refl fs) (fun _ => rfl) (console ?_)
      cases sink : route.sink with
      | file p => exact absurd sink (other p)
      | _ => rfl

end Opening

/-! ## Writing -/

/-- Where lines end up. -/
inductive Outlet where
  | error
  | output
  | file (key : List String)
  deriving DecidableEq, Repr

namespace Outlet

/-- Where the lines for a sink end up. -/
def ofSink (fs : FileSystem) (cwd : List String) : Sink → Option Outlet
  | .errorStream => some .error
  | .outputStream => some .output
  | .file p => (fs.place? cwd (p.absolute cwd)).map .file

end Outlet

/-- What stands in an outlet. -/
def Written.contents (w : Written) : Outlet → ByteArray
  | .error => w.error.toUTF8
  | .output => w.output.toUTF8
  | .file key => w.fs.contentAt key

section Writing

variable {cwd : List String} {w : Written} {route : Route}

/-- A file that was got ready does not move. -/
theorem ofSink_retains {fs fs' : FileSystem} (ready : route.Ready fs cwd) (r : fs.Retains fs') :
    Outlet.ofSink fs' cwd route.sink = Outlet.ofSink fs cwd route.sink := by
  cases sink : route.sink with
  | file p =>
    obtain ⟨key, opens⟩ := ready p sink
    simp only [Outlet.ofSink, opens.place?, (opens.retains r).place?]
  | _ => rfl

theorem append_opens {p : Path} {key : List String} (opens : w.fs.Opens cwd (p.absolute cwd) key)
    (line : String) :
    w.append cwd p line = { w with fs := w.fs.put key (.file (w.fs.contentAt key ++ line.toUTF8)) } := by
  obtain ⟨whole, bytes, resolved⟩ := opens
  have file := at?_of_resolveFrom _ _ _ resolved
  have read : w.fs.read cwd (p.absolute cwd) = .ok bytes :=
    read_eq_ok_iff.2 ⟨whole, key, resolved⟩
  simp only [Written.append, read, Written.put, FileSystem.write, resolved, contentAt, file]

/-- The line of a record is put at the end of what stands where the output leads. -/
theorem contents_writeTo (ready : route.Ready w.fs cwd) (time : String) (record : Record) :
    w.fs.Retains (Routing.writeTo cwd time record w route).fs ∧
      ∀ outlet, (Routing.writeTo cwd time record w route).contents outlet = w.contents outlet ++
        if Outlet.ofSink w.fs cwd route.sink = some outlet then
          (Routing.lineFor route time record).toUTF8 else .empty := by
  unfold Routing.writeTo
  cases sink : route.sink with
  | errorStream =>
    refine ⟨.refl _, fun outlet => ?_⟩
    cases outlet <;> simp [Outlet.ofSink, Written.contents, Written.printError]
  | outputStream =>
    refine ⟨.refl _, fun outlet => ?_⟩
    cases outlet <;> simp [Outlet.ofSink, Written.contents, Written.print]
  | file p =>
    obtain ⟨key, opens⟩ := ready p sink
    have free : ∀ n, w.fs.at? key = some n → ∃ bytes, n = .file bytes := by
      intro n hn
      rw [opens.at?] at hn
      exact ⟨_, (Option.some.inj hn).symm⟩
    obtain ⟨retains, contents⟩ := retains_put free (w.fs.contentAt key ++
      (Routing.lineFor route time record).toUTF8)
    simp only [append_opens opens, Outlet.ofSink, opens.place?]
    refine ⟨retains, fun outlet => ?_⟩
    cases outlet with
    | error => simp [Written.contents]
    | output => simp [Written.contents]
    | file k =>
      simp only [Written.contents, contents, Option.map_some, Option.some.injEq, Outlet.file.injEq]
      split
      · next e => rw [if_pos e.symm, e]
      · next ne => rw [if_neg (Ne.symm ne), ByteArray.append_empty]

/-- What one record adds to an outlet: a line for each output that leads there, in their order. -/
theorem contents_foldl_writeTo (time : String) (record : Record) (routes : List Route) (w : Written)
    (ready : ∀ route ∈ routes, route.Ready w.fs cwd) :
    w.fs.Retains (routes.foldl (Routing.writeTo cwd time record) w).fs ∧
      ∀ outlet, (routes.foldl (Routing.writeTo cwd time record) w).contents outlet = w.contents outlet ++
        (String.join ((routes.filter fun route =>
          Outlet.ofSink w.fs cwd route.sink = some outlet).map
            (Routing.lineFor · time record))).toUTF8 := by
  induction routes generalizing w with
  | nil => exact ⟨.refl _, fun outlet => by simp⟩
  | cons route routes ih =>
    rw [List.forall_mem_cons] at ready
    obtain ⟨retains, one⟩ := contents_writeTo ready.1 time record
    obtain ⟨all, more⟩ := ih (Routing.writeTo cwd time record w route)
      fun other mem => (ready.2 other mem).retains retains
    refine ⟨retains.trans all, fun outlet => ?_⟩
    have places : routes.filter (fun other => decide (Outlet.ofSink
        (Routing.writeTo cwd time record w route).fs cwd other.sink = some outlet)) =
        routes.filter fun other => decide (Outlet.ofSink w.fs cwd other.sink = some outlet) := by
      apply List.filter_congr
      intro other mem
      rw [ofSink_retains (ready.2 other mem) retains]
    rw [List.foldl_cons, more, one, places, ByteArray.append_assoc, List.filter_cons]
    by_cases here : Outlet.ofSink w.fs cwd route.sink = some outlet
    · simp [here]
    · simp [here]

end Writing

end Log

end DomainAtlas
