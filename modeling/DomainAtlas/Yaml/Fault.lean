import DomainAtlas.Text.Numeral
import DomainAtlas.Unheld
import DomainAtlas.Yaml.Cursor

/-!
# What can be wrong with a YAML document

Most faults have a problem at a place, often with what was being read and where that started. Some
values look like numbers or dates and turn out to be none; those faults have no place.
-/
namespace DomainAtlas.Yaml

/-- A value that is not what its kind asks for. -/
inductive ValueFault where
  /-- Not a number in this base. -/
  | digits (base : Nat) (text : String)
  | float (text : String)
  | tooManyDigits (count : Nat)
  /-- A number without a character. -/
  | emptyNumber
  /-- Too many parts in base sixty. -/
  | largeBase
  | truthWord (text : String)
  | calendar (why : String)
  /-- Not a date at all. -/
  | dateForm
  /-- A mapping in place of a date. -/
  | dateNode
  /-- A code beyond the last character. -/
  | codePoint (code : Nat)
  deriving DecidableEq, Repr

def ValueFault.message : ValueFault → String
  | .digits base text =>
    s!"invalid literal for int() with base {base}: " ++
      String.ofList ((Text.literal text).toList.take 200)
  | .float text => "could not convert string to float: " ++ Text.literal text
  | .tooManyDigits count => Text.tooManyDigits count
  | .emptyNumber => "string index out of range"
  | .largeBase => "int too large to convert to float"
  | .truthWord text => Text.literal text
  | .calendar why => why
  | .dateForm => "'NoneType' object has no attribute 'groupdict'"
  | .dateNode => "expected string or bytes-like object, got 'list'"
  | .codePoint code =>
    if code < 0x80000000 then "chr() arg not in range(0x110000)"
    else "Python int too large to convert to C int"

inductive Fault where
  /-- A problem at a place; before it, what was being read, and where that started. -/
  | marked (context : Option String) (start : Option Mark) (problem : String) (place : Mark)
  /-- A character that may not be in a document. -/
  | character (code index : Nat)
  | value (fault : ValueFault)
  /-- The text can be read, but there are no data for it here. -/
  | unheld (what : Unheld)
  deriving DecidableEq, Repr

/-- A place in a named document. -/
def Mark.within (m : Mark) (name : String) : String :=
  "  in \"" ++ name ++ s!"\", line {m.line + 1}, column {m.column + 1}"

/-- The lines of a report: the place of the context is left out where it is the place of the
problem. -/
def reportLines (name : String) (context : Option String) (start : Option Mark) (problem : String)
    (place : Mark) : List String :=
  let shown := start.filter fun m => m.line ≠ place.line ∨ m.column ≠ place.column
  context.toList ++ (shown.map fun m => m.within name).toList ++ [problem, place.within name]

/-- The wording of a fault of a named document. -/
def Fault.message (name : String) : Fault → String
  | .marked context start problem place =>
    Text.join "\n" (reportLines name context start problem place)
  | .character code index =>
    "unacceptable character #x" ++ String.ofList (Text.hexPadded 4 code) ++
      ": special characters are not allowed\n  in \"" ++ name ++ s!"\", position {index}"
  | .value f => f.message
  | .unheld what => what.message

namespace Fault

def plain (problem : String) (place : Mark) : Fault := .marked none none problem place

/-- A problem while something was read that started somewhere. -/
def during (context : String) (start : Mark) (problem : String) (place : Mark) : Fault :=
  .marked (some context) (some start) problem place

/-- A problem for which a character is to blame. -/
def found (context : String) (start : Mark) (expected : String) (c : Cursor) : Fault :=
  during context start (expected ++ ", but found " ++ Text.literal (String.singleton c.peek)) c.mark

end Fault

/-- Reading something at a place: what it is and the place after it. -/
abbrev Scan (α : Type) := Except Fault (α × Cursor)

end DomainAtlas.Yaml
