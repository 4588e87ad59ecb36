import DomainAtlas.Datum
import DomainAtlas.Json.Writer
import DomainAtlas.Log.Event

/-!
# Lines of a log

What is logged is written on one line, in one of two forms: for people, the time, the level in
brackets, the event and the rest as `key=value` in order of the keys; for programs, a JSON object in
which the members keep their order.
-/
namespace DomainAtlas.Log

/-- What is logged: an event, or a message that comes from elsewhere with a rank of its own. -/
inductive Record where
  | event (e : Event)
  | message (rank : Int) (text : String)
  deriving Repr

namespace Record

/-- How much a record matters. -/
def rank : Record → Int
  | .event e => e.level.rank
  | .message r _ => r

def rankName (rank : Int) : String :=
  match Level.all.find? fun l => (l.rank : Int) = rank with
  | some l => l.name
  | none => if rank = 0 then "notset" else s!"level {rank}"

/-- The members of a record logged at some time, in order. -/
def members (time : String) : Record → List (String × Json)
  | .event e =>
    let named := match e.logger with
      | some n => [("logger", .str n)]
      | none => []
    let own := e.fields.foldl (fun ms f => Json.setMember f.1 f.2 ms) named
    let whole := Json.setMember "event" (.str e.name) own
    Json.setMember "timestamp" (.str time) (Json.setMember "level" (.str e.level.name) whole)
  | .message r text =>
    [("event", .str text), ("level", .str (rankName r)), ("timestamp", .str time)]

def jsonLine (time : String) (r : Record) : String := (Json.obj (r.members time)).render

/-- A value after a key: a text is quoted when white space, quotes or an equals sign in it could
mislead. -/
def valueText : Json → String
  | .str s =>
    if s.toList.any fun c => [' ', '\t', '=', '\r', '\n', '"', '\''].contains c then
      Text.literal s
    else s
  | v => (Datum.ofJson v).literal

/-- The members that come first on a line for people, each with what stands around its value. -/
def leading : List (String × String × String) :=
  [("timestamp", "", ""), ("level", "[", "]"), ("event", "", ""), ("logger", "[", "]"),
    ("logger_name", "[", "]")]

def consoleLine (time : String) (r : Record) : String :=
  let ms := r.members time
  let front := leading.filterMap fun (key, start, stop) =>
    (ms.lookup key).map fun v => start ++ (Datum.ofJson v).display ++ stop
  let rest := (ms.filter fun m => (leading.lookup m.1).isNone).mergeSort fun a b => Text.le a.1 b.1
  let parts := front ++ rest.map fun m => m.1 ++ "=" ++ valueText m.2
  let line := Text.join " " (parts.filter (· != ""))
  String.ofList (Text.trimEndBy (· == ' ') line.toList)

/-- The line that is written when no output is configured. -/
def bareLine (time : String) : Record → String
  | .message _ text => text
  | .event e => (Datum.ofJson (.obj ((Record.event e).members time))).literal

end Record

end DomainAtlas.Log
