import DomainAtlas.Log.Routing

/-!
# Logging over time

Logging is configured, records are logged, and blocks hold the consoles back for a while because a live
display owns them. What is done in a block may fail: the consoles are given back however it ends
(`Session.holdingBack`). A record is logged by a logger that is fetched for it, so that it goes where the
latest configuration sends it.
-/
namespace DomainAtlas.Log

/-- What logging is at a moment. -/
structure Session where
  routing : Routing
  /-- Whether a live display owns the consoles. -/
  live : Bool
  written : Written

/-- What logging is asked to do. -/
inductive Call where
  | configure (config : LoggingConfig)
  | log (time : String) (record : Record)

/-- What comes of a call: how many outputs are in force behind it, and why it failed. -/
structure Answer where
  outputs : Nat
  failure : Option OsError

/-- A call, or a block of calls that holds the consoles back and may end in a failure of its own. -/
inductive Step where
  | call (c : Call)
  | block (calls : List Call) (failure : Option String)

namespace Session

def start (w : Written) : Session := ⟨.unconfigured, false, w⟩

/-- Does what is asked for. -/
def call (cwd : List String) (s : Session) : Call → Session × Answer
  | .configure config =>
    let (routing, fs, e) := Routing.configure cwd config s.written.fs
    ({ s with routing := routing, written := { s.written with fs := fs } }, ⟨routing.routes.length, e⟩)
  | .log time record =>
    ({ s with written := s.routing.write cwd time s.written ⟨record, s.live⟩ },
      ⟨s.routing.routes.length, none⟩)

def calls (cwd : List String) (s : Session) : List Call → Session × List Answer
  | [] => (s, [])
  | c :: cs =>
    let (s, answer) := s.call cwd c
    let (s, answers) := calls cwd s cs
    (s, answer :: answers)

/-- Holds the consoles back while something is done, whether it ends well or fails. -/
def holdingBack {α : Type} (body : Session → Session × α) (s : Session) : Session × α :=
  let (s, result) := body { s with live := true }
  ({ s with live := false }, result)

/-- Does what a step asks for. The failure that ends a block is for others to deal with. -/
def step (cwd : List String) (s : Session) : Step → Session × List Answer × Option String
  | .call c =>
    let (s, answer) := s.call cwd c
    (s, [answer], none)
  | .block cs failure =>
    s.holdingBack fun s =>
      let (s, answers) := s.calls cwd cs
      (s, answers, failure)

/-- Does one step after the other, and gives all answers. -/
def run (cwd : List String) (s : Session) : List Step → Session × List Answer
  | [] => (s, [])
  | step :: steps =>
    let (s, answers, _) := s.step cwd step
    let (s, more) := run cwd s steps
    (s, answers ++ more)

/-- The file that is named after a failure. -/
def logFile (s : Session) : Option Path := s.routing.logFile

end Session

end DomainAtlas.Log
