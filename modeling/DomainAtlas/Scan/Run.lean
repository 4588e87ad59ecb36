import DomainAtlas.Console.Progress
import DomainAtlas.Discovery.Enumeration
import DomainAtlas.Index.Cache
import DomainAtlas.Log.Routing
import DomainAtlas.Number.Double
import DomainAtlas.Scan.Gathering

/-!
# Scans

A scan enumerates the source files of a tree, reads them and gathers what they contribute. Reads may
be completed in any order (`Completion`), and `Job.finish` takes them in the order they have been
completed in.

A scan either gives everything or nothing: the first file that cannot be parsed ends it. A file that
cannot be read is left out, counted and reported at the end.
-/
namespace DomainAtlas.Scan

structure Stats where
  filesEnumerated : Nat
  phpFiles : Nat
  scriptFiles : Nat
  records : Nat
  readFailedPaths : List String
  /-- How long it took, in seconds. -/
  elapsed : Double
  deriving DecidableEq, Repr

namespace Stats

/-- The number of files that could not be read. -/
def readFailures (s : Stats) : Nat := s.readFailedPaths.length

/-- The number of files that were read. -/
def filesScanned (s : Stats) : Nat := s.phpFiles + s.scriptFiles

end Stats

structure Result where
  definitions : Store
  usages : Option UsageIndex
  /-- The counters of a fresh scan. -/
  stats : Option Stats
  fromCache : Bool

inductive Fault where
  | pattern (f : Glob.PatternFault)
  | problem (p : Problem)
  /-- The root has no absolute form, or there can be no cache at the path it should have. -/
  | path (f : PathFault)
  /-- The cache is there and cannot be loaded. -/
  | cache (f : LoadFault)

/-- The order in which reads are completed. -/
structure Completion where
  order : List Read → List Read
  perm : ∀ reads, (order reads).Perm reads

/-- Reads that are completed in the order of the enumeration. -/
def Completion.enumeration : Completion := ⟨id, fun _ => .refl _⟩

/-- A scan that is to be made. -/
structure Job where
  root : Path
  settings : ScanConfig
  markers : MarkersConfig
  trackUsages : Bool
  parser : Extraction.SourceParser
  /-- Reads a file. -/
  read : Path → Except OsError ByteArray
  /-- Whether the console is a terminal. -/
  terminal : Bool
  elapsed : Double
  completion : Completion := .enumeration

namespace Job

/-- How the files are taken apart. -/
def method (j : Job) : Method := ⟨.ofMarkers j.markers.packageAttribute j.markers, j.parser⟩

def startEvent (j : Job) : Log.Event :=
  .plain .info "scan_started" [("root", .str j.root.text), ("track_usages", .bool j.trackUsages)]

/-- The work on the files as it is shown. -/
def progress (files : Nat) : Console.Progress := ⟨some "Parsing", some files, false⟩

def stats (j : Job) (enumerated : Nat) (g : Gathered) : Stats :=
  ⟨enumerated, g.phpFiles, g.scriptFiles, g.store.size, g.unread.map Prod.fst, j.elapsed⟩

/-- The events about files that could not be read. -/
def unreadEvents (g : Gathered) : List Log.Event :=
  g.unread.map fun (path, e) =>
    .ofProblem .error "file_read_failed" (.readFailed path e.message)

def endEvent (s : Stats) : Log.Event :=
  .plain .info "scan_completed" [("files", .int s.filesScanned), ("php_files", .int s.phpFiles),
    ("script_files", .int s.scriptFiles), ("read_failures", .int s.readFailures),
    ("records", .int s.records), ("elapsed_sec", .float (s.elapsed.roundTo 3))]

/-- Takes the reads in the order in which they have been completed. -/
def finish (j : Job) (enumerated : Nat) (reads : List Read) :
    List Log.Emission × Except Fault Result :=
  let work := progress enumerated
  let bar := work.showsBar j.terminal
  let (events, gathered) := j.method.gather (.start j.trackUsages) reads
  let during := (work.startEvents j.terminal).map Log.Emission.ofEvent ++
    events.map fun e => ⟨.event e, bar⟩
  match gathered with
  | .error p => (during, .error (.problem p))
  | .ok g =>
    let s := j.stats enumerated g
    let after := work.doneEvents j.terminal ++ unreadEvents g ++ [endEvent s]
    (during ++ after.map Log.Emission.ofEvent, .ok ⟨g.store, g.usages, some s, false⟩)

/-- The source files of a tree, or the pattern that cannot be used; with the events. -/
def enumerate (j : Job) (tree : Tree) : List Log.Event × Except Fault (List String) :=
  match Enumerator.make tree j.settings.includeGlobs j.settings.excludeGlobs
      j.settings.respectGit with
  | .error f => ([], .error (.pattern f))
  | .ok e => (e.loadEvents ++ e.walkEvents tree, .ok (e.paths tree))

/-- Reads a file of the tree. -/
def readOf (j : Job) (path : String) : Read := ⟨path, j.read (j.root / Path.parse path)⟩

/-- The whole scan of a tree. -/
def run (j : Job) (tree : Tree) : List Log.Emission × Except Fault Result :=
  let (found, paths) := j.enumerate tree
  let before := (j.startEvent :: found).map Log.Emission.ofEvent
  match paths with
  | .error f => (before, .error f)
  | .ok ps =>
    let (rest, result) := j.finish ps.length (j.completion.order (ps.map j.readOf))
    (before ++ rest, result)

end Job

end DomainAtlas.Scan
