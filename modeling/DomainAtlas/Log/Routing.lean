import DomainAtlas.Config.Models
import DomainAtlas.FileSystem
import DomainAtlas.Log.Line

/-!
# Where records are written

Logging is configured with a list of outputs. A record reaches an output when its rank is at least
the rank of the configuration and that of the output, and, on a console, when no live display owns
it (`Routing.admits`). Configuring again replaces all outputs.
-/
namespace DomainAtlas.Log

/-- What records are written to. -/
inductive Sink where
  | errorStream
  | outputStream
  | file (path : Path)
  deriving DecidableEq, Repr

namespace Sink

def ofDestination (s : String) : Sink :=
  if s = "stderr" then .errorStream
  else if s = "stdout" then .outputStream
  else .file (Path.parse s)

def isConsole : Sink → Bool
  | .errorStream => true
  | .outputStream => true
  | .file _ => false

def path? : Sink → Option Path
  | .file p => some p
  | _ => none

end Sink

/-- An output with the least rank that reaches it. -/
structure Route where
  sink : Sink
  asJson : Bool
  rank : Int
  deriving DecidableEq, Repr

/-- The outputs of a configuration, with the least rank that reaches any. -/
structure Routing where
  rank : Int
  routes : List Route
  logFile : Option Path
  deriving DecidableEq, Repr

/-- A record, with whether a live display owned the console when it was logged. -/
structure Emission where
  record : Record
  live : Bool
  deriving Repr

/-- An event outside a live display. -/
def Emission.ofEvent (e : Event) : Emission := ⟨.event e, false⟩

/-- What has been written to the two streams, and the files. -/
structure Written where
  output : String
  error : String
  fs : FileSystem

namespace Written

def print (w : Written) (s : String) : Written := { w with output := w.output ++ s }

def printError (w : Written) (s : String) : Written := { w with error := w.error ++ s }

/-- Puts bytes in place of a file, unless that fails. -/
def put (w : Written) (cwd : List String) (p : Path) (bytes : ByteArray) : Written :=
  match w.fs.write cwd p bytes with
  | .ok fs => { w with fs := fs }
  | .error _ => w

/-- Adds to the file of an output, which stands at its absolute path. It is taken to stand there as long
as it is open: what is written after another file was put in its place is not described. -/
def append (w : Written) (cwd : List String) (p : Path) (s : String) : Written :=
  let p := p.absolute cwd
  match w.fs.read cwd p with
  | .ok old => w.put cwd p (old ++ s.toUTF8)
  | .error (.at .notFound _) => w.put cwd p s.toUTF8
  | .error _ => w

end Written

def Routing.ofConfig (c : LoggingConfig) : Routing :=
  let rank := rankOf (some c.level) Level.info.rank
  let routes := c.outputs.map fun o =>
    ⟨Sink.ofDestination o.destination, o.format == "json", rankOf o.level rank⟩
  ⟨rank, routes, routes.findSome? fun r => r.sink.path?⟩

namespace Routing

/-- Before anything is configured there are no outputs. -/
def unconfigured : Routing := ⟨Level.debug.rank, [], none⟩

/-- Gets the file of an output ready: the directory it is written to be in, and the file itself, which
is opened by its absolute path, if it is new. What was made stays when the file cannot be opened. -/
def openFile (cwd : List String) (fs : FileSystem) (p : Path) : FileSystem × Option OsError :=
  if p.parent.hasZero then (fs, some .zero)
  else
    match fs.mkdirs cwd p.parent with
    | (fs, some e) => (fs, some e)
    | (fs, none) =>
      if p.hasZero then (fs, some .zero)
      else
        match fs.read cwd (p.absolute cwd) with
        | .ok _ => (fs, none)
        | .error (.at .notFound _) => fs.attempt (fs.write cwd (p.absolute cwd) ByteArray.empty)
        | .error e => (fs, some e)

/-- Gets outputs ready, one after the other: the outputs that are, the files, and why it stopped. -/
def openRoutes (cwd : List String) : FileSystem → List Route →
    List Route × FileSystem × Option OsError
  | fs, [] => ([], fs, none)
  | fs, r :: rest =>
    match r.sink with
    | .file p =>
      match openFile cwd fs p with
      | (fs, some e) => ([], fs, some e)
      | (fs, none) =>
        let (rs, fs, e) := openRoutes cwd fs rest
        (r :: rs, fs, e)
    | _ =>
      let (rs, fs, e) := openRoutes cwd fs rest
      (r :: rs, fs, e)

/-- Configures logging: the routing that is in force, the files, and what went wrong. -/
def configure (cwd : List String) (c : LoggingConfig) (fs : FileSystem) :
    Routing × FileSystem × Option OsError :=
  let routing := ofConfig c
  let (routes, fs, e) := openRoutes cwd fs routing.routes
  ({ routing with routes := routes }, fs, e)

/-- Whether an emission reaches an output. -/
def admits (r : Routing) (route : Route) (e : Emission) : Bool :=
  decide (r.rank ≤ e.record.rank) && decide (route.rank ≤ e.record.rank) &&
    !(route.sink.isConsole && e.live)

/-- The line of a record for an output. -/
def lineFor (route : Route) (time : String) (record : Record) : String :=
  (if route.asJson then record.jsonLine time else record.consoleLine time) ++ "\n"

/-- Writes a record to one output. -/
def writeTo (cwd : List String) (time : String) (record : Record) (w : Written) (route : Route) :
    Written :=
  let line := lineFor route time record
  match route.sink with
  | .errorStream => w.printError line
  | .outputStream => w.print line
  | .file p => w.append cwd p line

/-- Writes an emission to the outputs it reaches. Where there are none at all, warnings and errors
go to the error stream. -/
def write (r : Routing) (cwd : List String) (time : String) (w : Written) (e : Emission) :
    Written :=
  if r.routes.isEmpty then
    if r.rank ≤ e.record.rank ∧ (Level.warning.rank : Int) ≤ e.record.rank then
      w.printError (e.record.bareLine time ++ "\n")
    else w
  else (r.routes.filter fun route => r.admits route e).foldl (writeTo cwd time e.record) w

end Routing

end DomainAtlas.Log
