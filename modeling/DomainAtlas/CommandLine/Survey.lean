import DomainAtlas.CommandLine.Desk
import DomainAtlas.Console.DomainTable
import DomainAtlas.Console.Wording
import DomainAtlas.Json.Writer
import DomainAtlas.Report.File
import DomainAtlas.Report.Page
import DomainAtlas.Scan.Cached

/-!
# Surveying a tree

A survey obtains the result of a scan, writes the report and tells the user about both, in words or
as JSON. When the scan fails, nothing is written.
-/
namespace DomainAtlas.CommandLine

open DomainAtlas.CommandLine.Action

/-- A survey that is to be made. -/
structure Survey where
  root : Path
  config : Config
  trackUsages : Bool
  /-- Whether the cache may be read. -/
  readsCache : Bool
  asJson : Bool

namespace Survey

def job (v : Survey) (s : Surroundings) (fs : FileSystem) : Scan.Job where
  root := v.root
  settings := v.config.scan
  markers := v.config.markers
  trackUsages := v.trackUsages
  parser := s.parser
  read := s.read fs
  terminal := s.terminal
  elapsed := s.elapsed
  completion := s.completion

/-- How the cache takes part. -/
def cacheUse (v : Survey) (s : Surroundings) : Scan.CacheUse where
  cache := ⟨s.cwd, v.config.output.cachePath⟩
  reads := v.readsCache
  room := s.room
  token := s.token
  fails := s.saveFails

def page (v : Survey) (s : Surroundings) (r : Scan.Result) : String :=
  Report.render ⟨Report.defaultTitle, v.root.text, s.moment.stamp⟩ r.definitions r.usages

def bucketJson (b : Bucket) : Json := .obj [("domain", .str b.domain), ("count", .int b.count),
  ("percentage", .float b.percentage)]

def summaryJson (v : Survey) (r : Scan.Result) : Json := .obj [("root", .str v.root.text),
  ("fromCache", .bool r.fromCache), ("definitions", .int r.definitions.size),
  ("report", .str v.config.output.reportPath.text),
  ("domains", .arr ((domainBuckets r.definitions).map bucketJson))]

/-- The messages about the files of a fresh scan. -/
def fileMessages (st : Scan.Stats) : List Console.Status :=
  let unread := st.readFailedPaths
  let scanned := counted st.filesScanned "file"
  let missing := counted unread.length "file"
  let counters : List Console.Status :=
    [.info s!"Scanned {scanned} in {st.elapsed.fixed 1}s",
      ⟨s!"PHP files: {st.phpFiles}", "info", 2⟩, ⟨s!"JS/TS files: {st.scriptFiles}", "info", 2⟩]
  if unread.isEmpty then counters
  else counters ++ ⟨s!"{missing} could not be read", "warning", 0⟩ ::
    unread.map fun path => ⟨path, "info", 4⟩

def printSummary (r : Scan.Result) : Action Unit := do
  match r.stats with
  | some st => (fileMessages st).forM say
  | none => pure ()
  say (.info ("Found " ++ counted r.definitions.size "definition"))
  match Console.domainTable (← read).columns Console.defaultBarWidth
      (domainBuckets r.definitions) with
  | .ok text => write fun w => w.printError text
  | .error f => crash (.markup f)

/-- Ends the command because there is no result. -/
def giveUp : Scan.Fault → Action Scan.Result
  | .pattern f => crash (.pattern f)
  | .path f => crash (.path f)
  | .cache f => crash (.cache f)
  | .problem p => do
    say ⟨p.summary, "error", 0⟩
    match (← get).routing.logFile with
    | some path => say ⟨s!"Details: {path.text}", "info", 2⟩
    | none => pure ()
    throw (.refused p.message)

/-- Obtains the result of the scan. A failed scan ends the command. -/
def obtain (v : Survey) : Action Scan.Result := do
  let s ← read
  let fs ← files
  let o := (v.job s fs).obtain (v.cacheUse s) fs
  setFiles o.fs
  o.emissions.forM emit
  match o.outcome with
  | .ok r => return r
  | .error f => giveUp f

def writeReport (v : Survey) (html : String) : Action Unit := do
  let path := v.config.output.reportPath
  let (fs, failed) := Report.save (← files) (← read).cwd path html
  setFiles fs
  match failed with
  | some e => crash (.os e)
  | none => note (Report.savedEvent path html)

/-- Tells the user what is going to happen. -/
def announce (v : Survey) : Action Unit := do
  if !v.asJson then
    say (.info s!"Scanning {v.root.text}")
    if !v.readsCache || !(← files).exists? (← read).cwd v.config.output.cachePath then
      say (.info "Scanning files, this might take a few seconds...")

/-- Tells the user about a result. -/
def present (v : Survey) (r : Scan.Result) : Action Unit := do
  if r.fromCache && !v.asJson then
    say ⟨"Found cached scan results. Remove this file if you want to rescan " ++
      s!"source files: {v.config.output.cachePath.text}", "warning", 0⟩
  v.writeReport (v.page (← read) r)
  if v.asJson then
    write fun w => w.print ((v.summaryJson r).renderIndented ++ "\n")
  else
    printSummary r
    say ⟨s!"HTML report written to {v.config.output.reportPath.text}", "success", 0⟩

/-- The whole survey. -/
def run (v : Survey) : Action Unit := do
  v.announce
  v.present (← v.obtain)

end Survey

end DomainAtlas.CommandLine
