import DomainAtlas.Index.Cache
import DomainAtlas.Index.CacheKey
import DomainAtlas.Scan.Run

/-!
# Scans with a cache

A result is taken from the cache when the cache belongs to the same scan, and then no source file is
read. Otherwise the scan is made, and the cache is written anew; a cache that cannot be written does
not fail the run.
-/
namespace DomainAtlas.Scan

/-- How the cache takes part in a run. -/
structure CacheUse where
  cache : ScanCache
  /-- Whether the cache may be read. -/
  reads : Bool
  /-- The room there is to read it. -/
  room : Json.Room
  /-- The name of the file beside. -/
  token : String
  /-- The steps of a save that fail. -/
  fails : SaveStep → Option OsError

namespace CacheUse

/-- What loading gives: the events, and the scan if it is the one asked for. -/
def load (u : CacheUse) (fs : FileSystem) (key : String) :
    List Log.Event × Except Fault (Option CachedScan) :=
  if !u.reads then ([], .ok none)
  else
    match u.cache.load u.room fs (some key) with
    | .error f => ([], .error (.cache f))
    | .ok outcome => ([outcome.event u.cache.path.text], .ok outcome.scan?)

/-- Writes the cache: the file system after it, and the event. Nothing can be written at a path with a
zero character, but the directories above may be made before that is noticed. -/
def save (u : CacheUse) (fs : FileSystem) (key : String) (r : Result) :
    FileSystem × Except Fault Log.Event :=
  let saving := u.cache.saving u.token r.definitions r.usages key
  let zero := u.cache.path.hasZero
  if u.cache.path.parent.hasZero then (fs, .error (.path .zero))
  else
    match saving.runSteps u.fails (if zero then [.parents] else SaveStep.all) fs with
    | (fs, some e) => (fs, .ok (.ofProblem .error "cache_save_failed" (u.cache.saveProblem e)))
    | (fs, none) => (fs, if zero then .error (.path .zero) else .ok (u.cache.savedEvent r.definitions))

end CacheUse

/-- What a run with a cache leads to. -/
structure Obtained where
  emissions : List Log.Emission
  outcome : Except Fault Result
  fs : FileSystem

namespace Job

def key (j : Job) (cwd : List String) (fs : FileSystem) : String :=
  cacheKey (fs.realpath cwd j.root) j.trackUsages

/-- The scan, and the cache written with its result. -/
def refresh (j : Job) (u : CacheUse) (fs : FileSystem) (key : String) : Obtained :=
  let (emissions, outcome) := j.run (fs.tree u.cache.cwd j.root)
  match outcome with
  | .error f => ⟨emissions, .error f, fs⟩
  | .ok r =>
    match u.save fs key r with
    | (fs, .error f) => ⟨emissions, .error f, fs⟩
    | (fs, .ok event) => ⟨emissions ++ [.ofEvent event], .ok r, fs⟩

/-- What a run finds in the cache: the events, and the scan if it is there. -/
def find (j : Job) (u : CacheUse) (fs : FileSystem) :
    List Log.Event × Except Fault (Option CachedScan) :=
  match fs.pathFault? u.cache.cwd j.root with
  | some f => ([], .error (.path f))
  | none => u.load fs (j.key u.cache.cwd fs)

/-- The result of a scan, from the cache when it is there. -/
def obtain (j : Job) (u : CacheUse) (fs : FileSystem) : Obtained :=
  let (events, found) := j.find u fs
  let emissions := events.map Log.Emission.ofEvent
  match found with
  | .error f => ⟨emissions, .error f, fs⟩
  | .ok (some s) => ⟨emissions, .ok ⟨s.definitions, s.usages, none, true⟩, fs⟩
  | .ok none =>
    let o := j.refresh u fs (j.key u.cache.cwd fs)
    ⟨emissions ++ o.emissions, o.outcome, o.fs⟩

end Job

end DomainAtlas.Scan
