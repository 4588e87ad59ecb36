import DomainAtlas.Config.Load
import DomainAtlas.Console.Status
import DomainAtlas.Index.Cache
import DomainAtlas.Log.Routing
import DomainAtlas.Report.Stamp
import DomainAtlas.Scan.Run

/-!
# What a command works with

A command runs in surroundings that it cannot change: the working directory, the console, the clock,
the answers of the user, and how files are read and parsed. It changes a desk: the files, what is
printed, where events go. An `Action` does both, and may end the command early (`Ending`); what it
did to the desk until then remains.
-/
namespace DomainAtlas.CommandLine

/-- What a command cannot change. -/
structure Surroundings where
  cwd : List String
  homes : Homes
  environment : List (String × String)
  /-- The file with the settings of the user. -/
  userSettings : Path
  /-- The width of the console. -/
  columns : Nat
  /-- Whether the console is a terminal. -/
  terminal : Bool
  moment : Moment
  /-- How long a scan takes, in seconds. -/
  elapsed : Double
  /-- What the names of files beside the cache are made of. -/
  token : String
  /-- The room there is to read a cache. -/
  room : Json.Room
  read : FileSystem → Path → Except OsError ByteArray
  /-- The order in which reads are completed. -/
  completion : Scan.Completion := .enumeration
  parser : Extraction.SourceParser
  saveFails : SaveStep → Option OsError
  /-- The failure of each removal of the cache, if they fail. -/
  clearFails : Option OsError
  /-- What the user says when asked. -/
  consents : Bool

/-- What a command changes. -/
structure Desk where
  written : Log.Written
  routing : Log.Routing
  /-- All events, wherever they go. -/
  events : List Log.Event
  /-- The questions the user was asked. -/
  asked : List String

/-- A desk with some files, before anything is configured. -/
def Desk.ofFiles (fs : FileSystem) : Desk := ⟨⟨"", "", fs⟩, .unconfigured, [], []⟩

/-- Failures a command does not handle. -/
inductive Crash where
  | markup (f : Console.Markup.Fault)
  | os (e : OsError)
  | config (f : ConfigFault)
  | pattern (f : Glob.PatternFault)
  | path (f : PathFault)
  | cache (f : LoadFault)

def Crash.message : Crash → String
  | .markup f => f.message
  | .os e => e.message
  | .config f => f.message
  | .pattern f => f.message
  | .path f => f.message
  | .cache f => f.message

/-- How a command ends before its last step. -/
inductive Ending where
  /-- All that was asked for has been done. -/
  | done
  /-- It cannot do what it should. -/
  | refused (message : String)
  /-- The words make no sense; what is printed about it. -/
  | misused (text : String)
  | crashed (c : Crash)

abbrev Action := ReaderT Surroundings (ExceptT Ending (StateM Desk))

namespace Action

def change (f : Desk → Desk) : Action Unit := modify f

def write (f : Log.Written → Log.Written) : Action Unit :=
  change fun d => { d with written := f d.written }

def files : Action FileSystem := do return (← get).written.fs

def setFiles (fs : FileSystem) : Action Unit := write fun w => { w with fs := fs }

/-- Passes an event on to the outputs it reaches. -/
def emit (e : Log.Emission) : Action Unit := do
  let s ← read
  change fun d => { d with
    written := d.routing.write s.cwd s.moment.clockText d.written e
    events := d.events ++ (match e.record with
      | .event e => [e]
      | .message .. => []) }

def note (e : Log.Event) : Action Unit := emit (.ofEvent e)

def crash {α : Type} (c : Crash) : Action α := throw (.crashed c)

/-- Prints a marked-up message. -/
def tell (message : String) : Action Unit := do
  match Console.printed (← read).columns message with
  | .ok text => write fun w => w.printError text
  | .error f => crash (.markup f)

/-- Prints a status message, and notes it. -/
def say (status : Console.Status) : Action Unit := do
  match status.text (← read).columns with
  | .ok text => write fun w => w.printError text
  | .error f => crash (.markup f)
  note status.event

def ask (question : String) : Action Bool := do
  change fun d => { d with asked := d.asked ++ [question] }
  return (← read).consents

end Action

/-- How a command has ended. -/
structure Outcome where
  exitCode : Nat
  crash : Option Crash
  desk : Desk

def Action.run (a : Action Unit) (s : Surroundings) (d : Desk) : Outcome :=
  let (ending, d) := (ReaderT.run a s).run d
  let complain (text : String) : Desk := { d with written := d.written.printError text }
  match ending with
  | .ok () => ⟨0, none, d⟩
  | .error .done => ⟨0, none, d⟩
  | .error (.refused message) => ⟨1, none, complain s!"Error: {message}\n"⟩
  | .error (.misused text) => ⟨2, none, complain text⟩
  | .error (.crashed c) => ⟨1, some c, d⟩

end DomainAtlas.CommandLine
