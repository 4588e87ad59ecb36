import DomainAtlas.Proofs.Log.Outlets

/-!
# What reaches the outputs of a log

However often logging is configured, and whatever is logged inside and outside of blocks that hold the
consoles back: what stands in a stream or a file at the end is what stood there before, followed by one
line for each record and each output of the configuration that was the latest one then, if the output
leads there and the record reaches it. Two things are not so plain. A configuration that cannot open the
file of an output leaves the outputs in front of it in force. And where no output is in force, warnings
and errors go to the error stream.

Results:
* `Accounted`, `accounted_call`: what one call leaves behind, with the latest configuration as the
  invariant.
* `accounted_run`: the same for a whole run, by induction on its steps.
* `contents_run`: what stands in each outlet at the end.
-/
namespace DomainAtlas.Log

open FileSystem

/-! ## What is to be written -/

/-- The calls of a step, each with whether a block is open around it. -/
def Step.calls : Step → List (Call × Bool)
  | .call c => [(c, false)]
  | .block cs _ => cs.map fun c => (c, true)

/-- A call as it was made: whether a block was open around it, and what came of it. -/
abbrev Entry := (Call × Bool) × Answer

/-- A configuration with the outputs that are in force. -/
structure Setup where
  config : LoggingConfig
  outputs : List LogOutput

namespace Setup

/-- All outputs are in force, unless configuring failed. -/
def ofAnswer (config : LoggingConfig) (a : Answer) : Setup :=
  ⟨config, if a.failure.isNone then config.outputs else config.outputs.take a.outputs⟩

def rank (s : Setup) : Int := rankOf (some s.config.level) Level.info.rank

def firstFile (s : Setup) : Option Path :=
  s.config.outputs.findSome? fun out => (Sink.ofDestination out.destination).path?

/-- The latest configuration behind a call. -/
def next (latest : Setup) (e : Entry) : Setup :=
  match e.1.1 with
  | .configure config => ofAnswer config e.2
  | .log _ _ => latest

end Setup

/-- A record with the latest configuration, and whether a block was open. -/
structure Occasion where
  latest : Setup
  time : String
  record : Record
  suppressed : Bool

def occasions : Setup → List Entry → List Occasion
  | _, [] => []
  | latest, e :: rest =>
    match e.1.1 with
    | .configure _ => occasions (latest.next e) rest
    | .log time record => ⟨latest, time, record, e.1.2⟩ :: occasions (latest.next e) rest

namespace Occasion

/-- A record reaches an output when it matters enough for the root and for the output, which counts as
the root where it has no level, and when no block is open if the output is a console. -/
def Reaches (o : Occasion) (out : LogOutput) : Prop :=
  o.latest.rank ≤ o.record.rank ∧ rankOf out.level o.latest.rank ≤ o.record.rank ∧
    ((Sink.ofDestination out.destination).isConsole = true → o.suppressed = false)

instance (o : Occasion) (out : LogOutput) : Decidable (o.Reaches out) :=
  inferInstanceAs (Decidable (_ ∧ _ ∧ _))

def line (o : Occasion) (out : LogOutput) : String :=
  (if out.format = "json" then o.record.jsonLine o.time else o.record.consoleLine o.time) ++ "\n"

/-- The lines for an outlet: one for each output that leads there and that the record reaches. -/
def lines (fs : FileSystem) (cwd : List String) (outlet : Outlet) (o : Occasion) : List String :=
  if o.latest.outputs = [] then
    if outlet = .error ∧ o.latest.rank ≤ o.record.rank ∧ (Level.warning.rank : Int) ≤ o.record.rank then
      [o.record.bareLine o.time ++ "\n"]
    else []
  else
    (o.latest.outputs.filter fun out =>
      Outlet.ofSink fs cwd (Sink.ofDestination out.destination) = some outlet ∧ o.Reaches out).map o.line

end Occasion

/-- Where configuring fails, an output that was asked for has a file that could not be opened. -/
def Answered (e : Entry) : Prop :=
  ∀ config, e.1.1 = .configure config → e.2.failure ≠ none →
    ∃ out, config.outputs[e.2.outputs]? = some out ∧
      (Sink.ofDestination out.destination).isConsole = false

/-! ## One call -/

/-- The route of an output. -/
def Setup.route (latest : Setup) (out : LogOutput) : Route :=
  ⟨Sink.ofDestination out.destination, out.format == "json", rankOf out.level latest.rank⟩

/-- A configuration is in force: records are routed to its outputs, and the files of these are there. -/
structure InForce (cwd : List String) (s : Session) (latest : Setup) : Prop where
  rank : s.routing.rank = latest.rank
  routes : s.routing.routes = latest.outputs.map latest.route
  logFile : s.routing.logFile = latest.firstFile
  available : ∀ out ∈ latest.outputs, (latest.route out).Ready s.written.fs cwd

/-- A session has come from another one by some calls: the latest configuration is in force, and what
was logged has been written, each line to where its output leads now and later. -/
structure Accounted (cwd : List String) (latest : Setup) (s : Session) (calls : List Entry)
    (s' : Session) : Prop where
  inForce : InForce cwd s' (calls.foldl Setup.next latest)
  retains : s.written.fs.Retains s'.written.fs
  contents : ∀ fs, s'.written.fs.Retains fs → ∀ outlet, s'.written.contents outlet =
    s.written.contents outlet ++
      (String.join ((occasions latest calls).flatMap (Occasion.lines fs cwd outlet))).toUTF8
  leads : ∀ fs, s'.written.fs.Retains fs → ∀ o ∈ occasions latest calls, ∀ out ∈ o.latest.outputs,
    ∃ outlet, Outlet.ofSink fs cwd (Sink.ofDestination out.destination) = some outlet
  answered : ∀ e ∈ calls, Answered e

variable {cwd : List String} {latest : Setup} {s s' s'' : Session}

theorem occasions_append (calls more : List Entry) : occasions latest (calls ++ more) =
    occasions latest calls ++ occasions (calls.foldl Setup.next latest) more := by
  induction calls generalizing latest with
  | nil => rfl
  | cons e calls ih =>
    rw [List.cons_append, occasions, occasions, List.foldl_cons]
    split
    · exact ih
    · rw [ih, List.cons_append]

theorem Accounted.refl (h : InForce cwd s latest) : Accounted cwd latest s [] s :=
  ⟨h, .refl _, by simp [occasions], by simp [occasions], by simp⟩

theorem Accounted.trans {calls more : List Entry} (h : Accounted cwd latest s calls s')
    (h' : Accounted cwd (calls.foldl Setup.next latest) s' more s'') :
    Accounted cwd latest s (calls ++ more) s'' where
  inForce := by
    rw [List.foldl_append]
    exact h'.inForce
  retains := h.retains.trans h'.retains
  contents fs later outlet := by
    rw [h'.contents fs later, h.contents fs (h'.retains.trans later), occasions_append,
      List.flatMap_append, String.join_append, ByteArray.append_assoc]
    simp
  leads fs later := by
    rw [occasions_append, List.forall_mem_append]
    exact ⟨h.leads fs (h'.retains.trans later), h'.leads fs later⟩
  answered := List.forall_mem_append.2 ⟨h.answered, h'.answered⟩

/-- The routes that were got ready are those of the outputs in force. -/
theorem Opened.inForce {fs fs' : FileSystem} {config : LoggingConfig} {ready : List Route}
    {failure : Option OsError}
    (opened : Opened cwd fs (Routing.ofConfig config).routes ready fs' failure) :
    ready = (Setup.ofAnswer config ⟨ready.length, failure⟩).outputs.map
      (Setup.ofAnswer config ⟨ready.length, failure⟩).route ∧
      (failure ≠ none → ∃ out, config.outputs[ready.length]? = some out ∧
        (Sink.ofDestination out.destination).isConsole = false) := by
  cases failure with
  | none => exact ⟨opened.whole rfl, by simp⟩
  | some e =>
    obtain ⟨route, rest, split, file⟩ := opened.stopped (by simp)
    obtain ⟨front, back, whole, rfl, tail⟩ := List.map_eq_append_iff.1 split
    obtain ⟨out, others, rfl, rfl, -⟩ := List.map_eq_cons_iff.1 tail
    refine ⟨?_, fun _ => ⟨out, ?_, file⟩⟩
    · simp only [Setup.ofAnswer, Option.isNone_some, Bool.false_eq_true, if_false, whole,
        List.length_map, List.take_left']
      rfl
    · rw [whole, List.length_map, List.getElem?_append_right (Nat.le_refl _), Nat.sub_self]
      rfl

theorem call_configure (cwd : List String) (s : Session) (config : LoggingConfig) {ready : List Route}
    {fs : FileSystem} {failure : Option OsError}
    (h : Routing.openRoutes cwd s.written.fs (Routing.ofConfig config).routes = (ready, fs, failure)) :
    s.call cwd (.configure config) =
      (⟨{ Routing.ofConfig config with routes := ready }, s.live, { s.written with fs := fs }⟩,
        ⟨ready.length, failure⟩) := by
  unfold Session.call Routing.configure
  simp only [h]

theorem ofConfig_logFile (config : LoggingConfig) (outputs : List LogOutput) :
    (Routing.ofConfig config).logFile = (Setup.mk config outputs).firstFile := by
  simp only [Routing.ofConfig, Setup.firstFile, List.findSome?_map]
  rfl

/-- Configuring writes nothing and puts a configuration in force. -/
theorem accounted_configure (cwd : List String) (latest : Setup) (s : Session) (config : LoggingConfig)
    (open' : Bool) : Accounted cwd latest s
      [((.configure config, open'), (s.call cwd (.configure config)).2)]
      (s.call cwd (.configure config)).1 := by
  have opened := opened_openRoutes cwd s.written.fs (Routing.ofConfig config).routes
  cases result : Routing.openRoutes cwd s.written.fs (Routing.ofConfig config).routes with | mk ready rest
  obtain ⟨fs, failure⟩ := rest
  rw [result] at opened
  rw [call_configure cwd s config result]
  obtain ⟨routes, stopped⟩ := opened.inForce
  refine ⟨⟨rfl, routes, ofConfig_logFile config _, ?available⟩, opened.retains, ?contents,
    by simp [occasions], ?answered⟩
  case available =>
    intro out mem
    apply opened.available
    rw [routes]
    exact List.mem_map_of_mem mem
  case contents =>
    intro _ _ outlet
    cases outlet with
    | file key => simpa [occasions, Written.contents] using opened.contents key
    | _ => simp [occasions, Written.contents]
  case answered =>
    intro e mem
    rw [List.mem_singleton] at mem
    subst mem
    intro asked same failed
    cases same
    exact stopped failed

/-- An emission reaches a route when the record reaches the output. -/
theorem admits_iff (h : InForce cwd s latest) (time : String) (record : Record) (out : LogOutput) :
    s.routing.admits (latest.route out) ⟨record, s.live⟩ = true ↔
      Occasion.Reaches ⟨latest, time, record, s.live⟩ out := by
  unfold Routing.admits Occasion.Reaches Setup.route
  cases console : (Sink.ofDestination out.destination).isConsole <;> simp [h.rank, and_assoc]

/-- The lines of an occasion, said in terms of the routes in force. -/
theorem lines_eq (h : InForce cwd s latest) (time : String) (record : Record) (outlet : Outlet)
    (any : latest.outputs ≠ []) :
    ((s.routing.routes.filter fun route => s.routing.admits route ⟨record, s.live⟩).filter fun route =>
        Outlet.ofSink s.written.fs cwd route.sink = some outlet).map (Routing.lineFor · time record) =
      Occasion.lines s.written.fs cwd outlet ⟨latest, time, record, s.live⟩ := by
  have same : (fun out => decide (Outlet.ofSink s.written.fs cwd (latest.route out).sink = some outlet) &&
      s.routing.admits (latest.route out) ⟨record, s.live⟩) = fun out =>
        decide (Outlet.ofSink s.written.fs cwd (Sink.ofDestination out.destination) = some outlet ∧
          Occasion.Reaches ⟨latest, time, record, s.live⟩ out) := by
    funext out
    rw [Bool.eq_iff_iff, Bool.and_eq_true, admits_iff h time, decide_eq_true_iff, decide_eq_true_iff]
    rfl
  rw [Occasion.lines, if_neg any, h.routes, List.filter_filter, List.filter_map, List.map_map,
    ← same]
  apply List.map_congr_left
  intro out _
  simp [Routing.lineFor, Setup.route, Occasion.line]

/-- The files of the outputs in force do not move, so that lines go where they went. -/
theorem lines_retains {fs : FileSystem} (h : InForce cwd s latest) (r : s.written.fs.Retains fs)
    (time : String) (record : Record) (outlet : Outlet) :
    Occasion.lines fs cwd outlet ⟨latest, time, record, s.live⟩ =
      Occasion.lines s.written.fs cwd outlet ⟨latest, time, record, s.live⟩ := by
  have places : ∀ out ∈ latest.outputs, Outlet.ofSink fs cwd (Sink.ofDestination out.destination) =
      Outlet.ofSink s.written.fs cwd (Sink.ofDestination out.destination) :=
    fun out mem => ofSink_retains (h.available out mem) r
  unfold Occasion.lines
  congr 2
  apply List.filter_congr
  intro out mem
  rw [places out mem]

theorem contents_write (h : InForce cwd s latest) (time : String) (record : Record) :
    s.written.fs.Retains (s.routing.write cwd time s.written ⟨record, s.live⟩).fs ∧
      ∀ outlet, (s.routing.write cwd time s.written ⟨record, s.live⟩).contents outlet =
        s.written.contents outlet ++ (String.join
          (Occasion.lines s.written.fs cwd outlet ⟨latest, time, record, s.live⟩)).toUTF8 := by
  unfold Routing.write
  by_cases none : latest.outputs = []
  · have routes : s.routing.routes.isEmpty = true := by rw [h.routes, none]; rfl
    rw [if_pos routes]
    constructor
    · split <;> exact .refl _
    · intro outlet
      rw [Occasion.lines, if_pos none, h.rank]
      by_cases heard : latest.rank ≤ record.rank ∧ (Level.warning.rank : Int) ≤ record.rank
      · rw [if_pos heard]
        cases outlet <;> simp [Written.contents, Written.printError, heard]
      · rw [if_neg heard, if_neg fun all => heard all.2]
        simp
  · have routes : ¬ s.routing.routes.isEmpty = true := by simp [h.routes, none]
    have ready : ∀ route ∈ s.routing.routes.filter fun route => s.routing.admits route ⟨record, s.live⟩,
        route.Ready s.written.fs cwd := by
      intro route mem
      have mem := (List.mem_filter.1 mem).1
      rw [h.routes] at mem
      obtain ⟨out, here, rfl⟩ := List.mem_map.1 mem
      exact h.available out here
    obtain ⟨retains, contents⟩ := contents_foldl_writeTo time record _ s.written ready
    rw [if_neg routes]
    refine ⟨retains, fun outlet => ?_⟩
    rw [← lines_eq h time record outlet none]
    exact contents outlet

/-- Logging writes the lines of one occasion. -/
theorem accounted_log (h : InForce cwd s latest) (time : String) (record : Record) :
    Accounted cwd latest s [((.log time record, s.live), (s.call cwd (.log time record)).2)]
      (s.call cwd (.log time record)).1 := by
  obtain ⟨retains, contents⟩ := contents_write h time record
  have available : ∀ fs, (s.routing.write cwd time s.written ⟨record, s.live⟩).fs.Retains fs →
      ∀ out ∈ latest.outputs, (latest.route out).Ready fs cwd :=
    fun fs later out mem => (h.available out mem).retains (retains.trans later)
  refine ⟨⟨h.rank, h.routes, h.logFile, available _ (.refl _)⟩, retains, ?contents, ?leads, ?answered⟩
  case contents =>
    intro fs later outlet
    simp only [occasions, List.flatMap_singleton]
    rw [lines_retains h (retains.trans later)]
    exact contents outlet
  case leads =>
    intro fs later o mem out asked
    rw [occasions, occasions, List.mem_singleton] at mem
    subst mem
    have ready := available fs later out asked
    cases sink : Sink.ofDestination out.destination with
    | file p =>
      obtain ⟨key, opens⟩ := ready p sink
      exact ⟨.file key, by rw [Outlet.ofSink, opens.place?]; rfl⟩
    | errorStream => exact ⟨.error, rfl⟩
    | outputStream => exact ⟨.output, rfl⟩
  case answered =>
    intro e mem
    rw [List.mem_singleton] at mem
    subst mem
    intro asked same
    cases same

/-! ## Runs -/

theorem accounted_call (h : InForce cwd s latest) (c : Call) :
    Accounted cwd latest s [((c, s.live), (s.call cwd c).2)] (s.call cwd c).1 := by
  cases c with
  | configure config => exact accounted_configure cwd latest s config s.live
  | log time record => exact accounted_log h time record

/-- Only blocks change whether one is open. -/
theorem live_call (cwd : List String) (s : Session) (c : Call) : (s.call cwd c).1.live = s.live := by
  cases c <;> rfl

theorem accounted_calls (h : InForce cwd s latest) (cs : List Call) :
    (s.calls cwd cs).2.length = cs.length ∧ (s.calls cwd cs).1.live = s.live ∧
      Accounted cwd latest s ((cs.map fun c => (c, s.live)).zip (s.calls cwd cs).2)
        (s.calls cwd cs).1 := by
  induction cs generalizing s latest with
  | nil => exact ⟨rfl, rfl, .refl h⟩
  | cons c cs ih =>
    have first := accounted_call h c
    obtain ⟨count, live, rest⟩ := ih first.inForce
    rw [live_call] at live rest
    rw [Session.calls]
    exact ⟨congrArg Nat.succ count, live, first.trans rest⟩

/-- A step is accounted for by its calls, and no block is open behind it. -/
theorem accounted_step (h : InForce cwd s latest) (closed : s.live = false) (step : Step) :
    (s.step cwd step).2.1.length = step.calls.length ∧ (s.step cwd step).1.live = false ∧
      Accounted cwd latest s (step.calls.zip (s.step cwd step).2.1) (s.step cwd step).1 := by
  cases step with
  | call c =>
    have one := accounted_call h c
    rw [closed] at one
    exact ⟨rfl, (live_call cwd s c).trans closed, one⟩
  | block cs failure =>
    obtain ⟨h₁, h₂, h₃, h₄⟩ := h
    obtain ⟨count, -, all⟩ := accounted_calls
      (InForce.mk h₁ h₂ h₃ h₄ : InForce cwd { s with live := true } latest) cs
    obtain ⟨⟨a₁, a₂, a₃, a₄⟩, retains, contents, leads, answered⟩ := all
    have length : (s.step cwd (.block cs failure)).2.1.length = cs.length := count
    refine ⟨?_, rfl, ⟨a₁, a₂, a₃, a₄⟩, retains, contents, leads, answered⟩
    rw [length, Step.calls, List.length_map]

theorem accounted_run (h : InForce cwd s latest) (closed : s.live = false) (steps : List Step) :
    (s.run cwd steps).2.length = (steps.flatMap Step.calls).length ∧ (s.run cwd steps).1.live = false ∧
      Accounted cwd latest s ((steps.flatMap Step.calls).zip (s.run cwd steps).2)
        (s.run cwd steps).1 := by
  induction steps generalizing s latest with
  | nil => exact ⟨rfl, closed, .refl h⟩
  | cons step steps ih =>
    obtain ⟨count, behind, first⟩ := accounted_step h closed step
    obtain ⟨more, ended, rest⟩ := ih first.inForce behind
    rw [Session.run, List.flatMap_cons]
    refine ⟨?_, ended, ?_⟩
    · rw [List.length_append, List.length_append, count, more]
    · rw [List.zip_append count.symm]
      exact first.trans rest

/-- Logging is configured first, then anything may be done. What stands in each outlet at the end is what
stood there before and the lines of all occasions, in order. The outputs in force are all of the latest
configuration, unless configuring failed, and then those in front of one whose file could not be opened.
The file that is named after a failure is that of the first output of the latest configuration that has
one. -/
theorem contents_run (cwd : List String) (w : Written) (first : LoggingConfig) (steps : List Step) :
    let opened := (Session.start w).call cwd (.configure first)
    let ended := opened.1.run cwd steps
    let latest := Setup.ofAnswer first opened.2
    let entries := (steps.flatMap Step.calls).zip ended.2
    ended.2.length = (steps.flatMap Step.calls).length ∧
    (∀ outlet, ended.1.written.contents outlet = w.contents outlet ++
      (String.join ((occasions latest entries).flatMap
        (Occasion.lines ended.1.written.fs cwd outlet))).toUTF8) ∧
    (∀ o ∈ occasions latest entries, ∀ out ∈ o.latest.outputs,
      ∃ outlet, Outlet.ofSink ended.1.written.fs cwd (Sink.ofDestination out.destination) = some outlet) ∧
    (∀ e ∈ ((.configure first, false), opened.2) :: entries, Answered e) ∧
    ended.1.logFile = (entries.foldl Setup.next latest).firstFile := by
  intro opened ended latest entries
  have configured := accounted_configure cwd latest (Session.start w) first false
  obtain ⟨count, -, ran⟩ := accounted_run configured.inForce rfl steps
  have whole := configured.trans ran
  refine ⟨count, whole.contents _ (.refl _), whole.leads _ (.refl _), whole.answered,
    whole.inForce.logFile⟩

/-- Empty streams, and no files. -/
def nothingWritten : Written := ⟨"", "", .empty⟩

def lateEvent (level : Level) : Call := .log "t" (.event (.plain level "late" []))

/-- The root is a directory, so that no output behind it is got ready. -/
theorem configure_root (level : String) (others : List LogOutput) :
    Routing.configure [] ⟨level, ⟨"console", "/", none⟩ :: others⟩ .empty =
      ({ Routing.ofConfig ⟨level, ⟨"console", "/", none⟩ :: others⟩ with routes := [] }, .empty,
        some (.at .isDirectory "/")) := by
  have sink : Sink.ofDestination "/" = .file (Path.parse "/") := by decide +kernel
  have root : Path.parse "/" = ⟨"/", []⟩ := by decide +kernel
  have absolute : (Path.mk "/" []).absolute [] = ⟨"/", []⟩ := by decide
  have directory : FileSystem.empty.read [] ⟨"/", []⟩ = .error (.at .isDirectory "/") := by
    rw [FileSystem.read, FileSystem.resolve_root]
    rfl
  have stopped : Routing.openFile [] .empty (Path.parse "/") = (.empty, some (.at .isDirectory "/")) := by
    have parent : (Path.mk "/" []).parent = ⟨"/", []⟩ := rfl
    rw [root, Routing.openFile, parent, FileSystem.mkdirs_root]
    simp only [absolute, directory]
    rfl
  simp only [Routing.configure, Routing.ofConfig, List.map_cons, Routing.openRoutes, sink, stopped]

/-- The error stream gets a warning although only the earlier configuration had it, and not even a block
holds the warning back. A stream that the latest configuration has gets nothing, when configuring stopped
at the file in front of it. -/
theorem outputs_not_decisive :
    (((Session.start nothingWritten).call [] (.configure .default)).1.run []
      [.call (.configure ⟨"INFO", []⟩), .block [lateEvent .warning] none]).1.written.error =
        "\x7b'event': 'late', 'level': 'warning', 'timestamp': 't'\x7d\n" ∧
    (((Session.start nothingWritten).call [] (.configure ⟨"INFO", [⟨"console", "/", none⟩, .default]⟩)).1.run
      [] [.call (lateEvent .info)]).1.written.error = "" := by
  constructor
  · decide +kernel
  · rw [Session.call, Session.start, nothingWritten, configure_root]
    decide +kernel

end DomainAtlas.Log
