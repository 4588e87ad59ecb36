import DomainAtlas.Datum
import DomainAtlas.Text.Casing
import DomainAtlas.Text.Utf8
import DomainAtlas.Unheld

/-!
# Checking data against a shape

A check reads a value of one kind out of a datum, or lists everything that is wrong with it. Each
`Issue` says where (`Place`), what kind of fault, and which datum was found there. Checks of the
fields of one structure do not stop at the first fault: their issues are listed in field order.

Scalars are read leniently: a truth value may be written as a word or as one or zero, an integer as
a text of digits.
-/
namespace DomainAtlas

/-- A step on the way to a value. -/
inductive Place where
  | field (name : String)
  | index (n : Nat)
  deriving DecidableEq, Repr

def Place.text : Place → String
  | .field name => name
  | .index n => toString n

inductive IssueKind where
  | missing
  | notModel (name : String)
  | notText
  | badTextBytes
  | notBool
  | unreadableBool
  | notInt
  | unreadableInt
  | longInt
  | fractionalInt
  | notFinite
  | notList
  | notChoice (choices : List String)
  | extraField
  | refused (why : String)
  /-- The home directory of a user is not known. -/
  | noHome
  /-- A number in a pattern is too large. -/
  | overflow (why : String)
  | unheld (what : Unheld)
  deriving DecidableEq, Repr

/-- Choices in a sentence: quoted, the last two joined by "or". -/
def choiceText (choices : List String) : String :=
  let quoted := choices.map fun c => "'" ++ c ++ "'"
  match quoted.reverse with
  | [] => ""
  | [c] => c
  | last :: rest => Text.join ", " rest.reverse ++ " or " ++ last

namespace IssueKind

def code : IssueKind → String
  | .missing => "missing"
  | .notModel _ => "model_type"
  | .notText => "string_type"
  | .badTextBytes => "string_unicode"
  | .notBool => "bool_type"
  | .unreadableBool => "bool_parsing"
  | .notInt => "int_type"
  | .unreadableInt => "int_parsing"
  | .longInt => "int_parsing_size"
  | .fractionalInt => "int_from_float"
  | .notFinite => "finite_number"
  | .notList => "list_type"
  | .notChoice _ => "literal_error"
  | .extraField => "extra_forbidden"
  | .refused _ => "value_error"
  | .noHome => "runtime_error"
  | .overflow _ => "overflow_error"
  | .unheld _ => "unheld"

def message : IssueKind → String
  | .missing => "Field required"
  | .notModel name => s!"Input should be a valid dictionary or instance of {name}"
  | .notText => "Input should be a valid string"
  | .badTextBytes => "Input should be a valid string, unable to parse raw data as a unicode string"
  | .notBool => "Input should be a valid boolean"
  | .unreadableBool => "Input should be a valid boolean, unable to interpret input"
  | .notInt => "Input should be a valid integer"
  | .unreadableInt => "Input should be a valid integer, unable to parse string as an integer"
  | .longInt => "Unable to parse input string as an integer, exceeded maximum size"
  | .fractionalInt => "Input should be a valid integer, got a number with a fractional part"
  | .notFinite => "Input should be a finite number"
  | .notList => "Input should be a valid list"
  | .notChoice choices => s!"Input should be {choiceText choices}"
  | .extraField => "Extra inputs are not permitted"
  | .refused why => "Value error, " ++ why
  | .noHome => "Could not determine home directory."
  | .overflow why => why
  | .unheld what => what.message

/-- Whether a fault is reported as a fault of the data. The others end the whole check: nothing after
them is looked at. -/
def isReported : IssueKind → Bool
  | .noHome => false
  | .overflow _ => false
  | .unheld _ => false
  | _ => true

end IssueKind

/-- One thing that is wrong with a datum. -/
structure Issue where
  place : List Place
  kind : IssueKind
  input : Datum
  deriving Repr

/-- The same issue seen from one level further out. -/
def Issue.under (p : Place) (i : Issue) : Issue := { i with place := p :: i.place }

abbrev Check (α : Type) := Except (List Issue) α

namespace Check

/-- A check that fails with one issue at the datum itself. -/
def fail {α : Type} (kind : IssueKind) (d : Datum) : Check α := .error [⟨[], kind, d⟩]

def issues {α : Type} : Check α → List Issue
  | .ok _ => []
  | .error is => is

/-- A check one level further in. -/
def under {α : Type} (p : Place) : Check α → Check α
  | .ok a => .ok a
  | .error is => .error (is.map (Issue.under p))

/-- Applies a checked function to a checked argument, with the issues of both. -/
def ap {α β : Type} (f : Check (α → β)) (a : Check α) : Check β :=
  match f, a with
  | .ok f, .ok a => .ok (f a)
  | f, a => .error (f.issues ++ a.issues)

/-- A further condition on a checked value. -/
def ensure {α : Type} (c : Check α) (d : Datum) (refuse : α → Option String) : Check α :=
  match c with
  | .error is => .error is
  | .ok a =>
    match refuse a with
    | none => .ok a
    | some why => fail (.refused why) d

end Check

namespace Schema

/-- Reads a text; bytes count when they are UTF-8. -/
def text (d : Datum) : Check String :=
  match d with
  | .text s => .ok s
  | .bytes bs =>
    match Text.decode ⟨bs.toArray⟩ with
    | .ok s => .ok s
    | .error _ => Check.fail .badTextBytes d
  | _ => Check.fail .notText d

def boolWords : List (String × Bool) :=
  [("true", true), ("t", true), ("yes", true), ("y", true), ("on", true), ("1", true),
    ("false", false), ("f", false), ("no", false), ("n", false), ("off", false), ("0", false)]

/-- Reads a truth value. -/
def bool (d : Datum) : Check Bool :=
  let ofInt (n : Int) : Check Bool :=
    if n = 0 then .ok false else if n = 1 then .ok true else Check.fail .unreadableBool d
  let ofText (s : String) : Check Bool :=
    match boolWords.lookup (Text.lowerAscii s) with
    | some b => .ok b
    | none => Check.fail .unreadableBool d
  match d with
  | .bool b => .ok b
  | .text s => ofText s
  | .bytes bs =>
    match Text.decode ⟨bs.toArray⟩ with
    | .ok s => ofText s
    | .error _ => Check.fail .unreadableBool d
  | .int n => ofInt n
  | .float _ =>
    match d.whole? with
    | some n => ofInt n
    | none => Check.fail .notBool d
  | _ => Check.fail .notBool d

/-- White space around an integer. -/
def isIntSpace (c : Char) : Bool := Text.isBlank c && !(0x1c ≤ c.toNat && c.toNat ≤ 0x1f)

/-- Drops zeros and underscores after a leading zero, up to the first other digit, or up to the
last zero before a decimal point. `last` is the latest character dropped. -/
def dropLeading : Char → List Char → Option (List Char)
  | last, [] => some [last]
  | last, c :: cs =>
    if c = '0' ∨ c = '_' then dropLeading c cs
    else if c.isDigit then some (c :: cs)
    else if c = '.' then some (last :: c :: cs)
    else none

/-- Drops a decimal point with only zeros after it. -/
def dropDecimals (cs : List Char) : List Char :=
  if (cs.dropWhile (· ≠ '.')).tail.all (· == '0') then cs.takeWhile (· ≠ '.') else cs

/-- Drops underscores, which may only stand alone between other characters. -/
def dropUnderscores? (cs : List Char) : Option (List Char) :=
  if cs.head? = some '_' ∨ cs.getLast? = some '_' ∨ Text.occursIn ['_', '_'] cs then none
  else some (cs.filter (· ≠ '_'))

/-- The value of digits with an optional minus sign. -/
def signedDigits? (cs : List Char) : Option Int :=
  let (neg, ds) := match cs with
    | '-' :: ds => (true, ds)
    | ds => (false, ds)
  if ds.isEmpty ∨ !ds.all Char.isDigit then none
  else
    let n : Int := ds.foldl (fun acc c => acc * 10 + (c.toNat - 48 : Nat)) (0 : Int)
    some (if neg then -n else n)

/-- Reads an integer from a text: blanks around it, a plus sign, leading zeros, single underscores
between digits and a fraction of zeros are allowed. -/
def intOfText? (s : String) : Option Int := do
  let cs := Text.trimBy isIntSpace s.toList
  let cs ← match cs with
    | '+' :: '-' :: _ => none
    | '+' :: rest => some rest
    | rest => some rest
  let cs ← match cs with
    | [] => none
    | c :: rest =>
      if c = '0' then dropLeading c rest
      else if c.isDigit ∨ c = '-' then some cs
      else none
  let cs ← dropUnderscores? (dropDecimals cs)
  signedDigits? cs

/-- Texts of more bytes are not read as integers. -/
def maxIntText : Nat := 4300

def int (d : Datum) : Check Int :=
  let ofText (s : String) : Check Int :=
    if maxIntText < s.utf8ByteSize then Check.fail .longInt d
    else
      match intOfText? s with
      | some n => .ok n
      | none => Check.fail .unreadableInt d
  match d with
  | .int n => .ok n
  | .bool b => .ok (if b then 1 else 0)
  | .text s => ofText s
  | .bytes bs =>
    match Text.decode ⟨bs.toArray⟩ with
    | .ok s => ofText s
    | .error _ => Check.fail .unreadableInt d
  | .float (.finite ..) =>
    match d.whole? with
    | some n => .ok n
    | none => Check.fail .fractionalInt d
  | .float _ => Check.fail .notFinite d
  | _ => Check.fail .notInt d

/-- Reads one of a list of words. -/
def choice (choices : List String) (d : Datum) : Check String :=
  match d with
  | .text s => if choices.contains s then .ok s else Check.fail (.notChoice choices) d
  | _ => Check.fail (.notChoice choices) d

/-- Null, or a value read by the given check. -/
def optional {α : Type} (read : Datum → Check α) (d : Datum) : Check (Option α) :=
  match d with
  | .null => .ok none
  | _ => (read d).map some

/-- Reads the items of a list, with all their issues. -/
def items {α : Type} (read : Datum → Check α) : Nat → List Datum → Check (List α)
  | _, [] => .ok []
  | i, d :: ds =>
    Check.ap ((Check.under (.index i) (read d)).map List.cons) (items read (i + 1) ds)

/-- Reads a list; tuples and sets count as lists. -/
def list {α : Type} (read : Datum → Check α) (d : Datum) : Check (List α) :=
  match d with
  | .list ds => items read 0 ds
  | .tuple ds => items read 0 ds
  | .set ds => items read 0 ds
  | _ => Check.fail .notList d

/-- Reads the entries of a structure. -/
def entries (model : String) (d : Datum) : Check (List (Datum × Datum)) :=
  match d with
  | .map es => .ok es
  | _ => Check.fail (.notModel model) d

/-- Reads a field that may be absent. -/
def field {α : Type} (es : List (Datum × Datum)) (name : String) (default : α)
    (read : Datum → Check α) : Check α :=
  match Datum.entry? name es with
  | none => .ok default
  | some d => Check.under (.field name) (read d)

end Schema

end DomainAtlas
