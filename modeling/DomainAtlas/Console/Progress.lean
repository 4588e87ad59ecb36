import DomainAtlas.Console.Status

/-!
# Progress

Work on many items shows a bar on a terminal, and while it is there the console is kept free of
events. Where no bar is shown, the start and the end of the work are events.
-/
namespace DomainAtlas.Console

/-- Some work on items. -/
structure Progress where
  /-- What is done. -/
  name : Option String
  /-- The number of items, if it is known. -/
  total : Option Int
  /-- Whether a bar is wanted for few items, too. -/
  always : Bool
  deriving DecidableEq, Repr

namespace Progress

/-- More items than this have a bar. -/
def threshold : Int := 100

def showsBar (p : Progress) (terminal : Bool) : Bool :=
  match p.total with
  | none => false
  | some n => terminal && (p.always || decide (threshold < n))

/-- The events about the work: what they say, or nothing if there is no name or nothing to do. -/
def noted (p : Progress) : List (String × Json) :=
  match p.name, p.total with
  | some name, some n =>
    if name = "" ∨ n = 0 then [] else [("desc", .str name), ("total", .int n)]
  | _, _ => []

/-- An event about the work. -/
def note (p : Progress) (terminal : Bool) (name : String) : List Log.Event :=
  if p.showsBar terminal then []
  else
    match p.noted with
    | [] => []
    | fields => [⟨.debug, some progressLogger, name, fields⟩]

def startEvents (p : Progress) (terminal : Bool) : List Log.Event :=
  p.note terminal "progress_start"

def doneEvents (p : Progress) (terminal : Bool) : List Log.Event :=
  p.note terminal "progress_done"

end Progress

end DomainAtlas.Console
