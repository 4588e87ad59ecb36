import DomainAtlas.FileSystem
import DomainAtlas.Index.Envelope
import DomainAtlas.Json.Reader
import DomainAtlas.Log.Event
import DomainAtlas.Problem
import DomainAtlas.Text.Utf8

/-!
# The cache file

A scan is kept in one file. Loading gives the scan back, or nothing with a note why not. Saving goes
through a file of its own beside the cache, which takes the place of the cache in one step
(`SaveStep`); when a step fails the file beside is removed and the cache is as it was.
-/
namespace DomainAtlas

/-! ## Loading -/

/-- What loading leads to. -/
inductive LoadOutcome where
  | missing
  | corrupt (reason : String)
  /-- The cache belongs to another scan. -/
  | stale (expected : String) (found : Json)
  | loaded (scan : CachedScan)

/-- Why loading leads to nothing at all. -/
inductive LoadFault where
  /-- There is a zero character in the path. -/
  | zero
  /-- The file is no text. -/
  | encoding (f : Text.DecodeFault)
  /-- Arrays or objects stand too deep in one another. -/
  | nested (message : String)
  | unheld (what : Unheld)

def LoadFault.message : LoadFault → String
  | .zero => Path.zeroFault
  | .encoding f => f.message
  | .nested m => m
  | .unheld what => what.message

namespace LoadOutcome

def scan? : LoadOutcome → Option CachedScan
  | .loaded s => some s
  | _ => none

def event (path : String) : LoadOutcome → Log.Event
  | .missing => .plain .debug "cache_missing" [("path", .str path)]
  | .corrupt reason => .ofProblem .warning "cache_corrupt" (.cacheCorrupt path reason)
  | .stale expected found => .ofProblem .info "cache_stale" (.cacheStale path expected found)
  | .loaded s => .plain .info "cache_loaded" [("path", .str path),
      ("definitions", .int s.definitions.size),
      ("usages", match s.usages with
        | some u => .int u.size
        | none => .null)]

/-- What a value gives, for an expected key; none accepts any. -/
def ofValue (expected : Option String) (v : Json) : LoadOutcome :=
  match Envelope.decode v with
  | .error f => .corrupt f.message
  | .ok scan =>
    match expected with
    | none => .loaded scan
    | some key => if Envelope.isText scan.cacheKey key then .loaded scan else .stale key scan.cacheKey

/-- What a text gives. A text that is wrong is a cache that is wrong; a text that is too deep is a
failure of its own. -/
def ofText (room : Json.Room) (expected : Option String) (text : String) :
    Except LoadFault LoadOutcome :=
  match Json.parse room.depth (Text.unifyBreaks text) with
  | .error (.wrong m) => .ok (.corrupt m)
  | .error (.nested m) => .error (.nested m)
  | .error (.unheld what) => .error (.unheld what)
  | .ok v => .ok (ofValue expected v)

/-- What reading a file gives; a path that is none and bytes that are no text are failures of their
own. -/
def ofRead (room : Json.Room) (expected : Option String) :
    Except OsError ByteArray → Except LoadFault LoadOutcome
  | .error .zero => .error .zero
  | .error (.at .notFound _) => .ok .missing
  | .error e => .ok (.corrupt e.message)
  | .ok bytes =>
    match Text.decode bytes with
    | .error f => .error (.encoding f)
    | .ok text => ofText room expected text

end LoadOutcome

/-! ## Saving -/

/-- A save that is to be made: where, through which file beside, and what. -/
structure Saving where
  /-- The directory paths are seen from. -/
  cwd : List String
  path : Path
  beside : Path
  payload : ByteArray

/-- The file beside a cache file, named by a token. -/
def besidePath (cwd : List String) (path : Path) (token : String) : Path :=
  let dir := path.parent.absolute cwd
  ⟨dir.root, dir.parts ++ [s!".{path.name}.{token}.tmp"]⟩

inductive SaveStep where
  | parents
  | create
  | write
  | replace
  deriving DecidableEq, Repr

namespace SaveStep

def all : List SaveStep := [.parents, .create, .write, .replace]

/-- One step: the files after it, and why it failed. The file beside has to be a new one. -/
def run (s : Saving) (fs : FileSystem) : SaveStep → FileSystem × Option OsError
  | .parents => fs.mkdirs s.cwd s.path.parent
  | .create => fs.attempt (fs.createNew s.cwd s.beside)
  | .write => fs.attempt (fs.write s.cwd s.beside s.payload)
  | .replace => fs.attempt (fs.replace s.cwd s.beside s.path)

/-- Whether the file beside is there when a step fails. -/
def leavesFile : SaveStep → Bool
  | .parents => false
  | .create => false
  | .write => true
  | .replace => true

end SaveStep

namespace Saving

/-- Removes the file beside, if it can be removed. -/
def cleanUp (s : Saving) (fs : FileSystem) : FileSystem :=
  match fs.unlink s.cwd s.beside with
  | .ok fs => fs
  | .error _ => fs

/-- Makes some steps. `fails` says which steps fail from outside, and how. After a failure the file
beside is removed. -/
def runSteps (s : Saving) (fails : SaveStep → Option OsError) :
    List SaveStep → FileSystem → FileSystem × Option OsError
  | [], fs => (fs, none)
  | step :: rest, fs =>
    let result := match fails step with
      | some e => (fs, some e)
      | none => step.run s fs
    match result with
    | (fs, none) => runSteps s fails rest fs
    | (fs, some e) => (if step.leavesFile then s.cleanUp fs else fs, some e)

/-- The whole save. -/
def run (s : Saving) (fails : SaveStep → Option OsError) (fs : FileSystem) :
    FileSystem × Option OsError :=
  runSteps s fails SaveStep.all fs

end Saving

/-! ## The cache -/

/-- A cache file at a path, seen from a directory. -/
structure ScanCache where
  cwd : List String
  path : Path

namespace ScanCache

def exists? (c : ScanCache) (fs : FileSystem) : Bool := fs.isFile c.cwd c.path

/-- Loads the cache. -/
def load (c : ScanCache) (room : Json.Room) (fs : FileSystem) (expected : Option String) :
    Except LoadFault LoadOutcome :=
  LoadOutcome.ofRead room expected (fs.read c.cwd c.path)

/-- The save of a scan through a file named by a token. -/
def saving (c : ScanCache) (token : String) (store : Store) (usages : Option UsageIndex)
    (key : String) : Saving where
  cwd := c.cwd
  path := c.path
  beside := besidePath c.cwd c.path token
  payload := (Envelope.text store usages key).toUTF8

/-- The note about a save. -/
def savedEvent (c : ScanCache) (store : Store) : Log.Event :=
  .plain .info "cache_saved" [("path", .str c.path.text), ("definitions", .int store.size)]

def saveProblem (c : ScanCache) (e : OsError) : Problem := .cacheWriteFailed c.path.text e.message

/-- Saves a scan: the file system after it, and the problem if it failed. -/
def save (c : ScanCache) (fails : SaveStep → Option OsError) (token : String) (store : Store)
    (usages : Option UsageIndex) (key : String) (fs : FileSystem) : FileSystem × Option Problem :=
  let (fs, e) := (c.saving token store usages key).run fails fs
  (fs, e.map c.saveProblem)

/-- Deletes the cache: whether there was something to delete. -/
def clear (c : ScanCache) (fs : FileSystem) : Except OsError (Bool × FileSystem) :=
  match fs.unlink c.cwd c.path with
  | .ok fs => .ok (true, fs)
  | .error (.at .notFound _) => .ok (false, fs)
  | .error e => .error e

/-- The note about a deletion. -/
def clearedEvent (c : ScanCache) : Log.Event :=
  .plain .info "cache_cleared" [("path", .str c.path.text)]

end ScanCache

end DomainAtlas
