import DomainAtlas.Json.Value
import DomainAtlas.Text.Literal
import DomainAtlas.Text.Numeral

/-!
# Data of settings files

A settings file can hold more than JSON can: keys that are not texts, dates, raw bytes, sets and
pairs. `Datum` covers all of it. `Datum.literal` writes a value so that its kind can be seen (texts
are quoted), `Datum.display` writes a text as it is and everything else as its literal or, for
dates, in the usual notation.
-/
namespace DomainAtlas

structure Day where
  year : Nat
  month : Nat
  day : Nat
  deriving DecidableEq, Repr

/-- A day and a time of day, to the microsecond, with the distance from UTC in seconds if it is
known. -/
structure Moment where
  date : Day
  hour : Nat
  minute : Nat
  second : Nat
  micro : Nat
  offset : Option Int
  deriving DecidableEq, Repr

/-- The number of a day, counted from the first day of the calendar, which has number one. -/
def Day.number (d : Day) : Nat :=
  let past := d.year - 1
  let months := [0, 31, 59, 90, 120, 151, 181, 212, 243, 273, 304, 334].getD (d.month - 1) 0
  let leapDay :=
    if 2 < d.month ∧ d.year % 4 = 0 ∧ (d.year % 100 ≠ 0 ∨ d.year % 400 = 0) then 1 else 0
  365 * past + past / 4 - past / 100 + past / 400 + months + leapDay + d.day

/-- The point in time a moment is, in microseconds, if its distance from UTC is known. -/
def Moment.micros? (m : Moment) : Option Int :=
  m.offset.map fun o =>
    (m.date.number * 86400 + m.hour * 3600 + m.minute * 60 + m.second - o) * 1000000 + m.micro

/-- A value of a settings file. -/
inductive Datum where
  | null
  | bool (b : Bool)
  | int (n : Int)
  | float (x : Double)
  | text (s : String)
  | bytes (bs : List UInt8)
  | date (d : Day)
  | moment (m : Moment)
  | list (items : List Datum)
  | tuple (items : List Datum)
  | set (items : List Datum)
  | map (entries : List (Datum × Datum))
  deriving Repr

/-- A number in decimal, at least `width` digits. -/
def decimal (width n : Nat) : String := String.ofList (Double.padZeros width (Nat.toDigits 10 n))

/-- `2024-01-31`. -/
def Day.iso (d : Day) : String :=
  s!"{decimal 4 d.year}-{decimal 2 d.month}-{decimal 2 d.day}"

/-- A distance from UTC as `+02:00`, with seconds only when there are some. -/
def offsetText (o : Int) : String :=
  let sign := if o < 0 then "-" else "+"
  let a := o.natAbs
  let base := s!"{sign}{decimal 2 (a / 3600)}:{decimal 2 (a / 60 % 60)}"
  if a % 60 = 0 then base else base ++ s!":{decimal 2 (a % 60)}"

/-- `2024-01-31 12:00:00`, with microseconds and the distance from UTC when they are there. -/
def Moment.iso (m : Moment) : String :=
  let time := s!"{m.date.iso} {decimal 2 m.hour}:{decimal 2 m.minute}:{decimal 2 m.second}"
  let micro := if m.micro = 0 then "" else "." ++ decimal 6 m.micro
  let zone := match m.offset with
    | none => ""
    | some o => offsetText o
  time ++ micro ++ zone

namespace Datum

/-- A byte inside a literal of bytes. -/
def byteChars (quote : Char) (b : UInt8) : List Char :=
  let c := Char.ofNat b.toNat
  if c = quote ∨ c = '\\' then ['\\', c]
  else if c = '\t' then ['\\', 't']
  else if c = '\n' then ['\\', 'n']
  else if c = '\r' then ['\\', 'r']
  else if 32 ≤ b.toNat ∧ b.toNat ≤ 126 then [c]
  else '\\' :: 'x' :: Text.hexPadded 2 b.toNat

def bytesLiteral (bs : List UInt8) : String :=
  let q := Text.quoteFor (bs.map fun b => Char.ofNat b.toNat)
  "b" ++ String.ofList (q :: (bs.flatMap (byteChars q) ++ [q]))

def dayArgs (d : Day) : String := s!"{d.year}, {d.month}, {d.day}"

def zoneLiteral (o : Int) : String :=
  if o = 0 then "datetime.timezone.utc"
  else if o < 0 then
    s!"datetime.timezone(datetime.timedelta(days=-1, seconds={o + 86400}))"
  else s!"datetime.timezone(datetime.timedelta(seconds={o}))"

/-- The literal of a moment: seconds and microseconds only as far as they are needed. -/
def momentLiteral (m : Moment) : String :=
  let tail := if m.micro ≠ 0 then s!", {m.second}, {m.micro}"
    else if m.second ≠ 0 then s!", {m.second}" else ""
  let zone := match m.offset with
    | none => ""
    | some o => ", tzinfo=" ++ zoneLiteral o
  s!"datetime.datetime({dayArgs m.date}, {m.hour}, {m.minute}{tail}{zone})"

mutual

/-- A value in a form that shows its kind. -/
def literal : Datum → String
  | .null => "None"
  | .bool true => "True"
  | .bool false => "False"
  | .int n => toString n
  | .float x => x.literal
  | .text s => Text.literal s
  | .bytes bs => bytesLiteral bs
  | .date d => s!"datetime.date({dayArgs d})"
  | .moment m => momentLiteral m
  | .list items => "[" ++ itemLiterals items ++ "]"
  | .tuple [x] => "(" ++ literal x ++ ",)"
  | .tuple items => "(" ++ itemLiterals items ++ ")"
  | .set [] => "set()"
  | .set items => "\x7b" ++ itemLiterals items ++ "\x7d"
  | .map entries => "\x7b" ++ entryLiterals entries ++ "\x7d"

/-- Values separated by commas. -/
def itemLiterals : List Datum → String
  | [] => ""
  | [x] => literal x
  | x :: xs => literal x ++ ", " ++ itemLiterals xs

/-- Entries of a mapping separated by commas. -/
def entryLiterals : List (Datum × Datum) → String
  | [] => ""
  | [(k, v)] => literal k ++ ": " ++ literal v
  | (k, v) :: es => literal k ++ ": " ++ literal v ++ ", " ++ entryLiterals es

end

/-- A value as it is shown in a message. -/
def display : Datum → String
  | .text s => s
  | .date d => d.iso
  | .moment m => m.iso
  | d => d.literal

mutual

/-- Whether no number in a value is too long to be written. -/
def isWritable : Datum → Bool
  | .int n => Text.isWritable n
  | .list items => areWritable items
  | .tuple items => areWritable items
  | .set items => areWritable items
  | .map entries => entriesWritable entries
  | _ => true

def areWritable : List Datum → Bool
  | [] => true
  | x :: xs => isWritable x && areWritable xs

/-- Whether that is so of the keys and values of a mapping. -/
def entriesWritable : List (Datum × Datum) → Bool
  | [] => true
  | (k, v) :: es => isWritable k && isWritable v && entriesWritable es

end

mutual

def ofJson : Json → Datum
  | .null => .null
  | .bool b => .bool b
  | .int n => .int n
  | .float x => .float x
  | .str s => .text s
  | .arr items => .list (ofJsonItems items)
  | .obj members => .map (ofJsonMembers members)

def ofJsonItems : List Json → List Datum
  | [] => []
  | v :: vs => ofJson v :: ofJsonItems vs

def ofJsonMembers : List (String × Json) → List (Datum × Datum)
  | [] => []
  | (n, v) :: ms => (.text n, ofJson v) :: ofJsonMembers ms

end

/-- A number whose value is whole, as that integer: truth values count as one and zero. -/
def whole? : Datum → Option Int
  | .bool b => some (if b then 1 else 0)
  | .int n => some n
  | .float x => if x.isInt x.truncate then some x.truncate else none
  | _ => none

/-- What a scalar is as a key. -/
inductive ScalarKey where
  | null
  | whole (n : Int)
  | float (x : Double)
  | text (s : String)
  | bytes (bs : List UInt8)
  | date (d : Day)
  /-- A time on a clock whose distance from UTC is not known. -/
  | clock (m : Moment)
  /-- A point in time, in microseconds. -/
  | instant (micros : Int)
  deriving DecidableEq

/-- A scalar as a key, if it can be one: numbers count by their value whatever their kind, and
points in time whatever clock they were read from. -/
def scalarKey? (d : Datum) : Option ScalarKey :=
  match d.whole? with
  | some n => some (.whole n)
  | none =>
    match d with
    | .null => some .null
    -- All that is no number is one object, and a key is found by identity before it is compared.
    | .float x => some (.float x)
    | .text s => some (.text s)
    | .bytes bs => some (.bytes bs)
    | .date day => some (.date day)
    | .moment m =>
      match m.micros? with
      | some t => some (.instant t)
      | none => some (.clock m)
    | _ => none

/-- Whether two scalars are the same key. -/
def sameScalar (a b : Datum) : Bool :=
  match a.scalarKey?, b.scalarKey? with
  | some k, some l => k == l
  | _, _ => false

mutual

/-- Whether two values are the same key. -/
def sameKey : Datum → Datum → Bool
  | .tuple as, .tuple bs => sameKeys as bs
  | a, b => sameScalar a b

/-- Whether two lists of values are the same, place by place. -/
def sameKeys : List Datum → List Datum → Bool
  | [], [] => true
  | a :: as, b :: bs => sameKey a b && sameKeys as bs
  | _, _ => false

end

/-- Sets an entry of a mapping: in place when the key is present, at the end otherwise. -/
def setEntry (key value : Datum) : List (Datum × Datum) → List (Datum × Datum)
  | [] => [(key, value)]
  | (k, v) :: rest =>
    if sameKey k key then (k, value) :: rest else (k, v) :: setEntry key value rest

/-- The value at a key that is a text. -/
def entry? (name : String) : List (Datum × Datum) → Option Datum
  | [] => none
  | (.text s, v) :: rest => if s = name then some v else entry? name rest
  | _ :: rest => entry? name rest

end Datum

end DomainAtlas
