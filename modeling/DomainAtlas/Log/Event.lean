import DomainAtlas.Problem
import DomainAtlas.Text.Casing

/-!
# Log events

What the program has to say while it works is a list of events. Where they are written, and how,
is decided elsewhere.
-/
namespace DomainAtlas.Log

/-- How much an event matters. -/
inductive Level where
  | debug
  | info
  | warning
  | error
  | critical
  deriving DecidableEq, Repr

namespace Level

def all : List Level := [.debug, .info, .warning, .error, .critical]

def name : Level → String
  | .debug => "debug"
  | .info => "info"
  | .warning => "warning"
  | .error => "error"
  | .critical => "critical"

def rank : Level → Nat
  | .debug => 10
  | .info => 20
  | .warning => 30
  | .error => 40
  | .critical => 50

/-- The ranks that can be named in settings. -/
def ranks : List (String × Int) :=
  [("CRITICAL", 50), ("FATAL", 50), ("ERROR", 40), ("WARN", 30), ("WARNING", 30), ("INFO", 20),
    ("DEBUG", 10), ("NOTSET", 0)]

end Level

/-- The rank of a name in any case, or the fallback where there is no name or it is not known. -/
def rankOf (name : Option String) (fallback : Int) : Int :=
  match name with
  | none => fallback
  | some n => (Level.ranks.lookup (Text.upperPlain n)).getD fallback

structure Event where
  level : Level
  /-- The name of the logger, if it has one. -/
  logger : Option String
  name : String
  /-- The values that go with it, in order. -/
  fields : List (String × Json)
  deriving Repr

def Event.plain (level : Level) (name : String) (fields : List (String × Json)) : Event :=
  ⟨level, none, name, fields⟩

def Event.ofProblem (level : Level) (name : String) (p : Problem) : Event :=
  ⟨level, none, name, p.members⟩

def Event.ofFailure (level : Level) (name message kind : String) : Event :=
  ⟨level, none, name, [("error", .str message), ("error_type", .str kind)]⟩

/-- The event of a logger, with more values. -/
def Event.within (e : Event) (logger : Option String) (more : List (String × Json)) : Event :=
  { e with logger := logger, fields := e.fields ++ more }

end DomainAtlas.Log
