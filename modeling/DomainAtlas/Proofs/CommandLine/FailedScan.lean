import DomainAtlas.Proofs.CommandLine.Actions
import DomainAtlas.Proofs.Discovery.Enumeration
import DomainAtlas.Proofs.Scan.Failing
import DomainAtlas.Proofs.Scan.History

/-!
# Scan commands whose scan fails

A scan command reads its words, tells the user what is going to happen, obtains a result, and writes
the report. Everything before the result only logs (`logsOnly_surveyOf`, `Survey.logsOnly_announce`),
and so does all that is done when the scan fails (`Survey.obtain_of_error`, `Survey.logsOnly_giveUp`). So
the cache and the report are as they were, unless the log itself is written to one of them.

Results:
* `runScan_after_broken`: a command whose scan fails ends as a failure and only logs.
* `failed_scan_keeps_outputs`: what a tree with a broken file comes to in the scan, in a run with a cache
  and in the command.
-/
namespace DomainAtlas.CommandLine

open DomainAtlas.CommandLine.Action

/-! ## What comes before the result -/

theorem logsOnly_misuse {α : Type} (c : Command) (path : String) (f : UsageFault) :
    LogsOnly (misuse c path f : Action α) := logsOnly_throw _

theorem logsOnly_answer {α : Type} (text : String) : LogsOnly (answer text : Action α) :=
  (logsOnly_write (f := fun w => w.print text) fun _ => rfl).bind fun _ => logsOnly_throw _

theorem logsOnly_wordsOf (c : Command) (path : String) (args : List String) :
    LogsOnly (wordsOf c path args) := by
  unfold wordsOf
  split
  · exact logsOnly_misuse c path _
  · split
    · exact logsOnly_read.bind fun _ => logsOnly_answer _
    · exact logsOnly_answer _
    · exact logsOnly_pure _

theorem logsOnly_directoryOf (c : Command) (path parameter : String) (required : Bool)
    (written : String) : LogsOnly (directoryOf c path parameter required written) := by
  refine logsOnly_files.bind fun fs => logsOnly_read.bind fun s => ?_
  split
  · exact logsOnly_misuse c path _
  · exact logsOnly_pure _
  · split
    · exact logsOnly_misuse c path _
    · exact logsOnly_pure _

theorem logsOnly_outputDirectory (c : Command) (path : String) (w : Words) :
    LogsOnly (outputDirectory c path w) := by
  unfold outputDirectory
  split
  · exact logsOnly_pure _
  · exact (logsOnly_directoryOf c path _ _ _).bind fun _ => logsOnly_pure _

theorem logsOnly_refuseRest (c : Command) (path : String) (rest : List String) :
    LogsOnly (refuseRest c path rest) := by
  unfold refuseRest
  split
  · exact logsOnly_pure _
  · exact logsOnly_misuse c path _

theorem logsOnly_surveyOf (config : Config) (path : String) (args : List String) :
    LogsOnly (surveyOf config path args) := by
  refine (logsOnly_wordsOf scanCommand path args).bind fun w =>
    (logsOnly_outputDirectory scanCommand path w).bind fun directory => ?_
  split
  · exact logsOnly_misuse scanCommand path _
  · exact (logsOnly_directoryOf scanCommand path _ _ _).bind fun root =>
      (logsOnly_refuseRest scanCommand path _).bind fun _ => logsOnly_pure _

theorem Survey.logsOnly_announce (v : Survey) : LogsOnly v.announce := by
  unfold announce
  split
  · refine (logsOnly_say _).bind fun _ => logsOnly_files.bind fun fs => logsOnly_read.bind fun s => ?_
    split
    · exact logsOnly_say _
    · exact logsOnly_pure _
  · exact logsOnly_pure _

/-! ## What comes of a failure -/

theorem Survey.logsOnly_giveUp (f : Scan.Fault) : LogsOnly (giveUp f) := by
  unfold giveUp
  split
  · exact logsOnly_crash _
  · exact logsOnly_crash _
  · exact logsOnly_crash _
  · refine (logsOnly_say _).bind fun _ => logsOnly_get.bind fun d => ?_
    split
    · exact (logsOnly_say _).bind fun _ => logsOnly_throw _
    · exact logsOnly_throw _

theorem Survey.fatal_giveUp (f : Scan.Fault) : Fatal (giveUp f) := by
  unfold giveUp
  split
  · exact fatal_crash _
  · exact fatal_crash _
  · exact fatal_crash _
  · refine .bind (sound_say _) fun _ => .bind sound_get fun d => ?_
    split
    · exact .bind (sound_say _) fun _ => fatal_refused _
    · exact fatal_refused _

/-- A run without a result gives up, with what it noted logged. -/
theorem Survey.obtain_of_error {v : Survey} {s : Surroundings} {d : Desk} {f : Scan.Fault}
    (failed : ((v.job s d.written.fs).obtain (v.cacheUse s) d.written.fs).outcome = .error f)
    (same : ((v.job s d.written.fs).obtain (v.cacheUse s) d.written.fs).fs = d.written.fs) :
    v.obtain.after s d =
      ((((v.job s d.written.fs).obtain (v.cacheUse s) d.written.fs).emissions.forM emit >>=
        fun _ => giveUp f) : Action Scan.Result).after s d := by
  have put : (setFiles d.written.fs).after s d = (.ok (), d) := rfl
  unfold obtain
  simp only [after_bind, after_read, after_files, same, put, failed]

/-! ## The command -/

/-- No output of the log leads to the file at a path. -/
def Desk.Spares (d : Desk) (s : Surroundings) (p : Path) : Prop :=
  ∀ key n, d.written.fs.resolve s.cwd true p = .ok (key, n) →
    ¬ d.routing.Places s.cwd d.written.fs key

theorem Action.Logged.refl (s : Surroundings) (d : Desk) : Logged s d d :=
  ⟨rfl, .refl _ _⟩

/-- A command whose scan fails ends as a failure, and touches no file but by logging. -/
theorem runScan_after_broken {s : Surroundings} {config : Config} {path : String}
    {args : List String} {v : Survey} {d d₀ d₁ : Desk} {f : Scan.Fault}
    (rooted : d.written.fs.Rooted s.cwd)
    (words : (surveyOf config path args).after s d = (.ok v, d₀))
    (announced : v.announce.after s d₀ = (.ok (), d₁))
    (failed : ((v.job s d₁.written.fs).obtain (v.cacheUse s) d₁.written.fs).outcome = .error f)
    (same : ((v.job s d₁.written.fs).obtain (v.cacheUse s) d₁.written.fs).fs = d₁.written.fs) :
    ∃ e, (runScan config path args).after s d = (.error e, (v.obtain.after s d₁).2) ∧ e.Fails ∧
      Logged s d (v.obtain.after s d₁).2 := by
  have h₀ : Logged s d d₀ := by
    have h := logsOnly_surveyOf config path args s d d rooted (.refl s d)
    rwa [words] at h
  have h₁ : Logged s d d₁ := by
    have h := v.logsOnly_announce s d d₀ rooted h₀
    rwa [announced] at h
  have ending := Survey.obtain_of_error failed same
  have h₂ : Logged s d (v.obtain.after s d₁).2 := by
    rw [ending]
    exact ((logsOnly_forM logsOnly_emit _).bind fun _ => Survey.logsOnly_giveUp f) s d d₁ rooted h₁
  obtain ⟨e, he, fails⟩ : ∃ e, (v.obtain.after s d₁).1 = .error e ∧ e.Fails := by
    rw [ending]
    exact Fatal.bind (sound_forM sound_emit _) (fun _ => Survey.fatal_giveUp f) s d₁
  refine ⟨e, ?_, fails, h₂⟩
  have obtained : v.obtain.after s d₁ = (.error e, (v.obtain.after s d₁).2) := by rw [← he]
  unfold runScan Survey.run
  simp only [after_bind, words, announced]
  rw [obtained]

/-- A tree with a broken file gives no result: the scan fails with the first broken file in the order in
which reads are completed. A run with a cache that makes this scan fails in the same way and changes no
file. A command that makes it has exit code one, and leaves every file as it was, the cache and the
report among them, to which no output of the log leads. -/
theorem failed_scan_keeps_outputs :
    (∀ (j : Scan.Job) (tree : Tree), j.Broken tree →
      ∃ f, j.FirstFailure tree f ∧ (j.run tree).2 = .error (.problem f.problem)) ∧
    (∀ (j : Scan.Job) (u : Scan.CacheUse) (fs : FileSystem),
      j.Broken (fs.tree u.cache.cwd j.root) → (j.find u fs).2 = .ok none →
      ∃ f, j.FirstFailure (fs.tree u.cache.cwd j.root) f ∧
        (j.obtain u fs).outcome = .error (.problem f.problem) ∧ (j.obtain u fs).fs = fs) ∧
    (∀ (s : Surroundings) (config : Config) (path : String) (args : List String) (v : Survey)
      (d d₀ d₁ : Desk), d.written.fs.Rooted s.cwd →
      (surveyOf config path args).after s d = (.ok v, d₀) →
      v.announce.after s d₀ = (.ok (), d₁) →
      (v.job s d₁.written.fs).Broken (d₁.written.fs.tree s.cwd v.root) →
      ((v.job s d₁.written.fs).find (v.cacheUse s) d₁.written.fs).2 = .ok none →
      ((runScan config path args).run s d).exitCode = 1 ∧
      ∀ p, d.Spares s p → ∀ bytes,
        ((runScan config path args).run s d).desk.written.fs.read s.cwd p = .ok bytes ↔
          d.written.fs.read s.cwd p = .ok bytes) := by
  have cached (j : Scan.Job) (u : Scan.CacheUse) (fs : FileSystem)
      (broken : j.Broken (fs.tree u.cache.cwd j.root))
      (missed : (j.find u fs).2 = .ok none) :
      ∃ f, j.FirstFailure (fs.tree u.cache.cwd j.root) f ∧
        (j.obtain u fs).outcome = .error (.problem f.problem) ∧ (j.obtain u fs).fs = fs := by
    obtain ⟨f, first, failed⟩ := j.exists_firstFailure broken
    exact ⟨f, first, j.obtain_of_run_error u fs missed failed⟩
  refine ⟨fun j tree => j.exists_firstFailure, cached, ?_⟩
  intro s config path args v d d₀ d₁ rooted words announced broken missed
  obtain ⟨f, -, failed, same⟩ := cached _ (v.cacheUse s) _ broken missed
  obtain ⟨e, ran, fails, logged⟩ := runScan_after_broken rooted words announced failed same
  obtain ⟨code, files⟩ := Action.run_of_fails ran fails
  refine ⟨code, fun p spared bytes => ?_⟩
  rw [files]
  exact logged.files.read_iff spared

/-! ## A tree with one broken file -/

/-- A source file and a cache at the root. -/
def rootFiles : FileSystem := ⟨[(["a.php"], .file .empty), (["c"], .file "old".toUTF8)]⟩

def rootTree : Tree := .dir [("a.php", .file (some .empty)), ("c", .file (some "old".toUTF8))]

/-- Settings that put the cache and the report at the root. -/
def rootConfig : Config where
  logging := .default
  output := ⟨"/", "c", "r"⟩
  scan := ⟨["**/*.php"], [], false, 1, true⟩
  markers := .default

/-- Surroundings in which no file can be parsed. -/
def brokenSurroundings : Surroundings where
  cwd := []
  homes := ⟨"/root", []⟩
  environment := []
  userSettings := ⟨"/", ["settings.yaml"]⟩
  columns := 80
  terminal := false
  moment := ⟨⟨2000, 1, 1⟩, 0, 0, 0, 0, some 0⟩
  elapsed := .ofInt 0
  token := "t"
  room := .least
  read := fun fs p => fs.read [] p
  parser := fun _ _ _ => .raised "broken"
  saveFails := fun _ => none
  clearFails := none
  consents := false

/-- The desk when the log is written to a file of this name at the root. -/
def rootDesk (log : String) : Desk :=
  { Desk.ofFiles rootFiles with
    routing := .ofConfig ⟨"INFO", [⟨"console", "/" ++ log, none⟩]⟩ }

/-- The words of a command that scans the root, and its survey. -/
def rootWords : List String := ["--json", "--no-cache", "/"]

@[inherit_doc rootWords]
def rootSurvey : Survey := ⟨⟨"/", []⟩, rootConfig, true, false, true⟩

def rootJob : Scan.Job := rootSurvey.job brokenSurroundings rootFiles

/-- How the cache takes part. -/
def rootCacheUse : Scan.CacheUse := rootSurvey.cacheUse brokenSurroundings

theorem find_rootFiles : rootJob.find rootCacheUse rootFiles = ([], .ok none) :=
  rootJob.find_of_root (Scan.pathFault?_root rootFiles)

theorem surveyOf_rootWords (log : String) :
    (surveyOf rootConfig "cli scan" rootWords).after brokenSurroundings (rootDesk log) =
      (.ok rootSurvey, rootDesk log) := by
  let given : Words := ⟨[.switch .json true, .switch .noCache true], ["/"]⟩
  have parsed : scanCommand.parse rootWords = .ok given := by decide +kernel
  have root : Path.parse "/" = ⟨"/", []⟩ := by decide +kernel
  have words : (wordsOf scanCommand "cli scan" rootWords).after brokenSurroundings (rootDesk log) =
      (.ok given, rootDesk log) := by
    rw [wordsOf, parsed]
    rfl
  have output : (outputDirectory scanCommand "cli scan" given).after brokenSurroundings
      (rootDesk log) = (.ok none, rootDesk log) := rfl
  have directory : (directoryOf scanCommand "cli scan" "'ROOT'" true "/").after brokenSurroundings
      (rootDesk log) = (.ok ⟨"/", []⟩, rootDesk log) := by
    have there : standingAt (rootDesk log).written.fs brokenSurroundings.cwd "/" = some .dir := by
      change standingAt rootFiles [] "/" = some .dir
      simp only [standingAt, FileSystem.lookup, root, FileSystem.resolve_root]
      rfl
    simp only [directoryOf, after_bind, after_files, after_read, there, root, after_pure]
  simp only [surveyOf, after_bind, words, output, given, directory]
  rfl

theorem announce_rootSurvey (d : Desk) :
    rootSurvey.announce.after brokenSurroundings d = (.ok (), d) := rfl

theorem tree_rootFiles : rootFiles.tree [] ⟨"/", []⟩ = rootTree := by
  simp only [FileSystem.tree, FileSystem.resolve_root]
  rfl

theorem resolve_top (fs : FileSystem) {name : String} (up : name ≠ "..")
    (short : ¬ FileSystem.maxName < name.utf8ByteSize)
    (real : ∀ target, fs.at? [name] ≠ some (.link target)) :
    fs.resolve [] true ⟨"/", [name]⟩ = .ok ([name], fs.at? [name]) :=
  FileSystem.resolveFrom_end fs true FileSystem.maxLinks [] up short fun _ => real

theorem read_top {fs : FileSystem} {name : String} {bytes : ByteArray} (up : name ≠ "..")
    (short : ¬ FileSystem.maxName < name.utf8ByteSize) (whole : (Path.mk "/" [name]).hasZero = false)
    (file : fs.at? [name] = some (.file bytes)) : fs.read [] ⟨"/", [name]⟩ = .ok bytes :=
  FileSystem.read_eq_ok_iff.mpr ⟨whole, [name], by rw [resolve_top fs up short (by simp [file]), file]⟩

theorem enumerate_rootTree : (rootJob.enumerate rootTree).2 = .ok ["a.php"] := by
  let enumerator : Enumerator := ⟨⟨[
    ⟨true, .atoms [.leadingDirs, .many, .char '.', .char 'p', .char 'h', .char 'p', .close]⟩]⟩,
    ⟨[]⟩, ⟨⟨[], [], []⟩, ⟨[]⟩⟩⟩
  have lines : loadTree (ignoreNames false) "" rootTree = ⟨[], [], []⟩ := by
    rw [rootTree, loadTree, loadEntries_eq, List.mergeSort_of_pairwise (by decide +kernel)]
    decide +kernel
  have made : Enumerator.make rootTree ["**/*.php"] [] false = .ok enumerator := by
    unfold Enumerator.make IgnoreChecker.load
    rw [lines]
    rfl
  have paths : enumerator.paths rootTree = ["a.php"] := by
    unfold Enumerator.paths Enumerator.visited rootTree
    rw [walk, Text.sort, List.mergeSort_of_pairwise (by decide +kernel), walkEntries_eq,
      List.mergeSort_of_pairwise (by decide +kernel)]
    decide +kernel
  have settings : rootJob.settings = ⟨["**/*.php"], [], false, 1, true⟩ := rfl
  rw [Scan.Job.enumerate, settings]
  simp only [made, paths]

theorem broken_rootTree : rootJob.Broken rootTree := by
  refine ⟨_, enumerate_rootTree, "a.php", List.mem_singleton.mpr rfl, fun parses => ?_⟩
  have joined : rootJob.root / Path.parse "a.php" = ⟨"/", ["a.php"]⟩ := by decide +kernel
  have content : (rootJob.readOf "a.php").content = .ok .empty := by
    change rootFiles.read [] (rootJob.root / Path.parse "a.php") = _
    rw [joined]
    exact read_top (by decide) (by decide) (by decide) rfl
  have known : Dialect.ofPath? (rootJob.readOf "a.php").path = some .php := by decide +kernel
  obtain ⟨c, examined⟩ := parses _ content
  rw [Scan.Method.examine, known] at examined
  cases examined

theorem spares_rootCache : (rootDesk "log").Spares brokenSurroundings ⟨"/", ["c"]⟩ := by
  rintro key n hr ⟨route, hroute, p, m, sink, hp⟩
  have only : (rootDesk "log").routing.routes = [⟨.file ⟨"/", ["log"]⟩, false, 20⟩] := by
    decide +kernel
  rw [only] at hroute
  obtain rfl := List.mem_singleton.mp hroute
  obtain rfl := Log.Sink.file.inj sink
  have cache : rootFiles.resolve [] true ⟨"/", ["c"]⟩ = .ok (["c"], _) :=
    resolve_top rootFiles (by decide) (by decide) (fun _ h => nomatch h)
  have log : rootFiles.resolve [] true ⟨"/", ["log"]⟩ = .ok (["log"], _) :=
    resolve_top rootFiles (by decide) (by decide) (fun _ h => nomatch h)
  obtain ⟨rfl, -⟩ := Prod.mk.inj (Except.ok.inj (cache.symm.trans hr))
  obtain ⟨clash, -⟩ := Prod.mk.inj (Except.ok.inj (log.symm.trans hp))
  simp at clash

/-- With its log elsewhere, the command fails and the cache stays. -/
theorem failed_scan_keeps_rootCache :
    (∃ f, rootJob.FirstFailure rootTree f ∧ (rootJob.run rootTree).2 = .error (.problem f.problem)) ∧
    (rootJob.obtain rootCacheUse rootFiles).fs = rootFiles ∧
    ((runScan rootConfig "cli scan" rootWords).run brokenSurroundings (rootDesk "log")).exitCode = 1 ∧
    ((runScan rootConfig "cli scan" rootWords).run brokenSurroundings
      (rootDesk "log")).desk.written.fs.read [] ⟨"/", ["c"]⟩ = .ok "old".toUTF8 := by
  have broken : rootJob.Broken (rootFiles.tree [] ⟨"/", []⟩) := tree_rootFiles ▸ broken_rootTree
  obtain ⟨f, -, -, same⟩ := failed_scan_keeps_outputs.2.1 rootJob rootCacheUse rootFiles broken
    (congrArg Prod.snd find_rootFiles)
  obtain ⟨code, kept⟩ := failed_scan_keeps_outputs.2.2 brokenSurroundings rootConfig "cli scan"
    rootWords rootSurvey (rootDesk "log") _ _ (FileSystem.rooted_nil _) (surveyOf_rootWords "log")
    (announce_rootSurvey _) broken (congrArg Prod.snd find_rootFiles)
  refine ⟨failed_scan_keeps_outputs.1 rootJob rootTree broken_rootTree, same, code, ?_⟩
  exact (kept ⟨"/", ["c"]⟩ spares_rootCache "old".toUTF8).mpr
    (read_top (by decide) (by decide) (by decide) rfl)

/-! ## A log that is written to the cache -/

theorem run_start (j : Scan.Job) (tree : Tree) :
    ∃ rest, (j.run tree).1 = .ofEvent j.startEvent :: rest := by
  unfold Scan.Job.run
  rcases j.enumerate tree with ⟨found, f | paths⟩
  · exact ⟨_, rfl⟩
  · exact ⟨_, rfl⟩

/-- The first event of a run that does not look into the cache. -/
theorem obtain_start {j : Scan.Job} {u : Scan.CacheUse} {fs : FileSystem}
    (h : j.find u fs = ([], .ok none)) :
    ∃ rest, (j.obtain u fs).emissions = .ofEvent j.startEvent :: rest := by
  obtain ⟨rest, start⟩ := run_start j (fs.tree u.cache.cwd j.root)
  unfold Scan.Job.obtain Scan.Job.refresh
  rcases hr : j.run (fs.tree u.cache.cwd j.root) with ⟨emissions, f | r⟩ <;> rw [hr] at start <;>
    simp only at start <;> subst start
  · exact ⟨rest, by simp [h]⟩
  · rcases hs : u.save fs (j.key u.cache.cwd fs) r with ⟨fs', f | event⟩
    · exact ⟨rest, by simp [h, hs]⟩
    · exact ⟨rest ++ [.ofEvent event], by simp [h, hs]⟩

/-- This event makes the cache longer, if the log is written to it. -/
theorem emit_start : ∃ line : ByteArray, line.size ≠ 0 ∧
    ((emit (.ofEvent rootJob.startEvent)).after brokenSurroundings (rootDesk "c")).2.written.fs.at?
      ["c"] = some (.file ("old".toUTF8 ++ line)) := by
  let route : Log.Route := ⟨.file ⟨"/", ["c"]⟩, false, 20⟩
  have routing : (rootDesk "c").routing = ⟨20, [route], some ⟨"/", ["c"]⟩⟩ := by decide +kernel
  have admitted : Log.Routing.admits ⟨20, [route], some ⟨"/", ["c"]⟩⟩ route
      (.ofEvent rootJob.startEvent) = true := rfl
  have found : (rootDesk "c").written.fs.resolve [] true ⟨"/", ["c"]⟩ =
      .ok (["c"], some (.file "old".toUTF8)) :=
    resolve_top rootFiles (by decide) (by decide) (fun _ h => nomatch h)
  have old := FileSystem.read_eq_ok_iff.mpr ⟨by decide, _, found⟩
  have absolute : (Path.mk "/" ["c"]).absolute [] = ⟨"/", ["c"]⟩ := by decide
  let line := Log.Routing.lineFor route brokenSurroundings.moment.clockText
    (.event rootJob.startEvent)
  refine ⟨line.toUTF8, by simp [line, Log.Routing.lineFor], ?_⟩
  change ((rootDesk "c").routing.write [] _ (rootDesk "c").written _).fs.at? ["c"] = _
  rw [routing, Log.Routing.write]
  simp only [List.isEmpty_cons, List.filter_cons, admitted, if_true, List.filter_nil,
    List.foldl_cons, List.foldl_nil, Log.Routing.writeTo, route, Log.Written.append, absolute, old,
    Log.Written.put, FileSystem.write, found]
  simp [FileSystem.at?_put]
  rfl

/-- So does the whole command, since nothing is taken away afterwards. -/
theorem runScan_logs : ∃ e line more, line.size ≠ 0 ∧ e.Fails ∧
    ((runScan rootConfig "cli scan" rootWords).after brokenSurroundings (rootDesk "c")).1 =
      .error e ∧
    ((runScan rootConfig "cli scan" rootWords).after brokenSurroundings
      (rootDesk "c")).2.written.fs.at? ["c"] = some (.file ("old".toUTF8 ++ line ++ more)) := by
  obtain ⟨f, -, ran⟩ := rootJob.exists_firstFailure broken_rootTree
  rw [← tree_rootFiles] at ran
  obtain ⟨failed, same⟩ := rootJob.obtain_of_run_error rootCacheUse rootFiles
    (congrArg Prod.snd find_rootFiles) ran
  obtain ⟨e, ends, fails, -⟩ := runScan_after_broken (FileSystem.rooted_nil _)
    (surveyOf_rootWords "c") (announce_rootSurvey _) failed same
  obtain ⟨rest, start⟩ := obtain_start find_rootFiles
  obtain ⟨line, nonempty, longer⟩ := emit_start
  have ending : rootSurvey.obtain.after brokenSurroundings (rootDesk "c") =
      (((rootJob.obtain rootCacheUse rootFiles).emissions.forM emit >>= fun _ => Survey.giveUp _) :
        Action Scan.Result).after brokenSurroundings (rootDesk "c") :=
    Survey.obtain_of_error (v := rootSurvey) failed same
  have first : (Log.Emission.ofEvent rootJob.startEvent :: rest).forM emit =
      emit (.ofEvent rootJob.startEvent) >>= fun _ => rest.forM emit := rfl
  have tail : LogsOnly (rest.forM emit >>= fun _ => Survey.giveUp (.problem f.problem)) :=
    (logsOnly_forM logsOnly_emit rest).bind fun _ => Survey.logsOnly_giveUp _
  obtain ⟨more, final⟩ :=
    (tail brokenSurroundings _ _ (FileSystem.rooted_nil _) (.refl _ _)).files.files _ _ longer
  refine ⟨e, line, more, nonempty, fails, by rw [ends], ?_⟩
  rw [ends, ending, start, first, bind_assoc, after_bind]
  exact final

/-- A failing command changes the cache if the log is written to it. -/
theorem failed_scan_logs_to_cache :
    (surveyOf rootConfig "cli scan" rootWords).after brokenSurroundings (rootDesk "c") =
      (.ok rootSurvey, rootDesk "c") ∧
    rootSurvey.announce.after brokenSurroundings (rootDesk "c") = (.ok (), rootDesk "c") ∧
    rootJob.Broken (rootFiles.tree [] ⟨"/", []⟩) ∧
    (rootJob.find rootCacheUse rootFiles).2 = .ok none ∧
    rootSurvey.config.output.cachePath = ⟨"/", ["c"]⟩ ∧
    (rootDesk "c").written.fs.read [] ⟨"/", ["c"]⟩ = .ok "old".toUTF8 ∧
    ((runScan rootConfig "cli scan" rootWords).run brokenSurroundings
      (rootDesk "c")).desk.written.fs.read [] ⟨"/", ["c"]⟩ ≠ .ok "old".toUTF8 := by
  have broken : rootJob.Broken (rootFiles.tree [] ⟨"/", []⟩) := tree_rootFiles ▸ broken_rootTree
  have before : (rootDesk "c").written.fs.read [] ⟨"/", ["c"]⟩ = .ok "old".toUTF8 :=
    read_top (by decide) (by decide) (by decide) rfl
  refine ⟨surveyOf_rootWords "c", rfl, broken, congrArg Prod.snd find_rootFiles, by decide +kernel, before, fun after => ?_⟩
  obtain ⟨e, line, more, nonempty, fails, ends, final⟩ := runScan_logs
  rw [(Action.run_of_fails (Prod.ext ends rfl) fails).2] at after
  have now := read_top (by decide) (by decide) (by decide) final
  have sizes := congrArg ByteArray.size (Except.ok.inj (after.symm.trans now))
  simp only [ByteArray.size_append] at sizes
  omega

end DomainAtlas.CommandLine
