import DomainAtlas.Extraction.SourceFile
import DomainAtlas.FileSystem
import DomainAtlas.Index.Store
import DomainAtlas.Log.Event

/-!
# Gathering what files contribute

Files are read in some order, each with content or an error (`Read`). What a file contributes does
not depend on the others (`examine`); the contributions are gathered one after the other into the
store, the usage index and the counters (`gather`). The first file that cannot be parsed ends it.
-/
namespace DomainAtlas.Scan

open Extraction

/-- A file that was to be read, and what came of it. -/
structure Read where
  path : String
  content : Except OsError ByteArray

/-- How files are taken apart. -/
structure Method where
  extractor : Extractor
  parser : SourceParser

structure Contribution where
  dialect : Dialect
  /-- The number of faults in its syntax. -/
  faults : Nat
  definition : Option Definition
  usages : List String
  deriving Repr

/-- Why a file contributes nothing, with the events up to there. -/
structure Failure where
  problem : Problem
  events : List Log.Event

/-- The event about faults in the syntax of a file. -/
def faultEvents (path : String) (faults : Nat) : List Log.Event :=
  if faults = 0 then []
  else [.plain .debug "syntax_errors" [("path", .str path), ("error_nodes", .int faults)]]

/-- What a file contributes, by its content. -/
def Method.examine (m : Method) (path : String) (bytes : ByteArray) :
    Except Failure Contribution :=
  match Dialect.ofPath? path with
  | none => .error ⟨.unsupported path, []⟩
  | some d =>
    match treeOf d path (m.parser d path bytes) with
    | .error p =>
      .error ⟨p, if p.family = .parse then [.ofProblem .error "parse_failed" p] else []⟩
    | .ok root =>
      let faults := root.faultCount
      match m.extractor.definition d path root with
      | .error p => .error ⟨p, faultEvents path faults⟩
      | .ok definition => .ok ⟨d, faults, definition, Extractor.usagesOf d root⟩

/-- What has been gathered so far. -/
structure Gathered where
  store : Store
  /-- The usage index, where references are tracked. -/
  usages : Option UsageIndex
  phpFiles : Nat
  scriptFiles : Nat
  /-- The files that could not be read, in order. -/
  unread : List (String × OsError)

namespace Gathered

/-- Nothing so far. -/
def start (trackUsages : Bool) : Gathered :=
  ⟨.empty, if trackUsages then some .empty else none, 0, 0, []⟩

/-- Notes a file that could not be read. -/
def miss (g : Gathered) (path : String) (e : OsError) : Gathered :=
  { g with unread := g.unread ++ [(path, e)] }

def add (g : Gathered) (path : String) (c : Contribution) : Gathered where
  store := match c.definition with
    | some d => g.store.insert d
    | none => g.store
  usages := g.usages.map fun u => u.extend c.usages path
  phpFiles := if c.dialect = .php then g.phpFiles + 1 else g.phpFiles
  scriptFiles := if c.dialect = .php then g.scriptFiles else g.scriptFiles + 1
  unread := g.unread

/-- The event about a definition that takes the place of an earlier one. -/
def replacementEvents (g : Gathered) (path : String) (c : Contribution) : List Log.Event :=
  match c.definition with
  | none => []
  | some d =>
    match g.store.get? d.qualifiedKey with
    | none => []
    | some earlier => [.plain .debug "definition_replaced" [("key", .str d.qualifiedKey),
        ("previous_file", .str earlier.fileName), ("file", .str path)]]

/-- The events about adding what a file contributes. -/
def events (g : Gathered) (path : String) (c : Contribution) : List Log.Event :=
  faultEvents path c.faults ++ g.replacementEvents path c

end Gathered

/-- Gathers what files contribute, in the order in which they were read. -/
def Method.gather (m : Method) (g : Gathered) :
    List Read → List Log.Event × Except Problem Gathered
  | [] => ([], .ok g)
  | r :: rest =>
    match r.content with
    | .error e => m.gather (g.miss r.path e) rest
    | .ok bytes =>
      match m.examine r.path bytes with
      | .error f => (f.events, .error f.problem)
      | .ok c =>
        let (events, result) := m.gather (g.add r.path c) rest
        (g.events r.path c ++ events, result)

end DomainAtlas.Scan
