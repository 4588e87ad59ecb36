import DomainAtlas.Console.Markup
import DomainAtlas.Console.Wrap
import DomainAtlas.Log.Event

/-!
# What a user is told

A message is printed on the error side of the console, broken into lines of its width; each status
message is also an event. A message may be marked up; one whose tags do not match is not printed
at all.
-/
namespace DomainAtlas.Console

/-- A marked-up message as it is printed on a console of some width. -/
def printed (columns : Nat) (message : String) : Except Markup.Fault String :=
  (Markup.plain message.toList).map fun cs => unlines (wrap columns .fold .natural cs)

/-- What stands before a message of some kind. -/
def statusMark : String → String
  | "success" => "[green]✓[/green] "
  | "error" => "[red]✗[/red] "
  | "warning" => "[yellow]![/yellow] "
  | "info" => "  "
  | _ => ""

/-- The name of the logger that is told what users are told. -/
def progressLogger : String := "progress"

structure Status where
  message : String
  style : String
  indent : Nat
  deriving DecidableEq, Repr

namespace Status

/-- A plain piece of information. -/
def info (message : String) : Status := ⟨message, "info", 0⟩

/-- The marked-up text of a status message. -/
def markup (s : Status) : String :=
  String.ofList (spaces s.indent) ++ statusMark s.style ++ s.message

def text (s : Status) (columns : Nat) : Except Markup.Fault String := printed columns s.markup

def event (s : Status) : Log.Event :=
  ⟨.debug, some progressLogger, "status", [("message", .str s.message), ("style", .str s.style)]⟩

end Status

end DomainAtlas.Console
