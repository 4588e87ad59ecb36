import DomainAtlas.Datum

/-!
# When a report was made

A report names the moment it was made, with the zone when it is known. Moments come as texts of
ISO 8601: a date and, after one character, a time with an optional zone. Dashes and colons may be left
out.
-/
namespace DomainAtlas

namespace Moment

/-- The date and the time of a moment. -/
def clockText (m : Moment) : String :=
  s!"{m.date.year}-{decimal 2 m.date.month}-{decimal 2 m.date.day} " ++
    s!"{decimal 2 m.hour}:{decimal 2 m.minute}:{decimal 2 m.second}"

/-- A moment as it stands in a report. -/
def stamp (m : Moment) : String :=
  let zone := match m.offset with
    | none => ""
    | some o => if o = 0 then "UTC" else "UTC" ++ offsetText o
  m.clockText ++ " " ++ zone

/-- The day that lies a number of days after the first of January 1970. Years are counted from March, so
that a leap day comes last; 400 of them have 146097 days. -/
def dayAfter (days : Nat) : Day :=
  let day := days + 719468
  let rest := day % 146097
  let year := (rest - rest / 1460 + rest / 36524 - rest / 146096) / 365
  let ofYear := rest - (365 * year + year / 4 - year / 100)
  let month := (5 * ofYear + 2) / 153
  let date := ofYear - (153 * month + 2) / 5 + 1
  if month < 10 then ⟨day / 146097 * 400 + year, month + 3, date⟩
  else ⟨day / 146097 * 400 + year + 1, month - 9, date⟩

/-- The moment that lies a number of seconds after the start of 1970. -/
def ofSeconds (n : Nat) : Moment :=
  ⟨dayAfter (n / 86400), n / 3600 % 24, n / 60 % 60, n % 60, 0, some 0⟩

/-- Reads a number of exactly `n` digits. -/
def digits? (n : Nat) (cs : List Char) : Option (Nat × List Char) :=
  let ds := cs.take n
  if ds.length = n ∧ ds.all Char.isDigit then
    some (ds.foldl (fun v d => v * 10 + (d.toNat - 48)) 0, cs.drop n)
  else none

def dropMark? (written : Bool) (mark : Char) (cs : List Char) : Option (List Char) :=
  if !written then some cs
  else
    match cs with
    | c :: rest => if c = mark then some rest else none
    | [] => none

/-- How many days a month has. -/
def monthLength (year month : Nat) : Nat :=
  if month = 2 then
    if year % 4 = 0 ∧ (year % 100 ≠ 0 ∨ year % 400 = 0) then 29 else 28
  else if month = 4 ∨ month = 6 ∨ month = 9 ∨ month = 11 then 30
  else 31

/-- Reads a day and what follows it. -/
def dayOf? (cs : List Char) : Option (Day × List Char) := do
  let (year, cs) ← digits? 4 cs
  let written := cs.head? == some '-'
  let cs ← dropMark? written '-' cs
  let (month, cs) ← digits? 2 cs
  let cs ← dropMark? written '-' cs
  let (day, cs) ← digits? 2 cs
  if year = 0 ∨ month = 0 ∨ 12 < month ∨ day = 0 ∨ monthLength year month < day then none
  else some (⟨year, month, day⟩, cs)

/-- The parts of a time: hour, minute, second and millionths. -/
structure Clock where
  hour : Nat
  minute : Nat
  second : Nat
  micro : Nat

/-- Reads the digits after a point as millionths. -/
def fraction? (cs : List Char) : Option Nat :=
  if cs.isEmpty ∨ !cs.all Char.isDigit then none
  else (digits? 6 ((cs ++ List.replicate 6 '0').take 6)).map Prod.fst

/-- Reads a time of two, four or six digits, the last with a fraction. -/
def clock? (cs : List Char) : Option Clock := do
  let (hour, cs) ← digits? 2 cs
  if cs.isEmpty then some ⟨hour, 0, 0, 0⟩
  else
    let written := cs.head? == some ':'
    let cs ← dropMark? written ':' cs
    let (minute, cs) ← digits? 2 cs
    if cs.isEmpty then some ⟨hour, minute, 0, 0⟩
    else
      let cs ← dropMark? written ':' cs
      let (second, cs) ← digits? 2 cs
      match cs with
      | [] => some ⟨hour, minute, second, 0⟩
      | c :: rest =>
        if c = '.' ∨ c = ',' then (fraction? rest).map fun micro => ⟨hour, minute, second, micro⟩
        else none

def Clock.inRange (c : Clock) : Bool := c.hour < 24 && c.minute < 60 && c.second < 60

def zone? (cs : List Char) : Option (Option Int) :=
  match cs with
  | [] => some none
  | ['Z'] => some (some 0)
  | sign :: rest => do
    let c ← clock? rest
    let o : Int := (c.hour * 3600 + c.minute * 60 + c.second : Nat)
    if c.inRange then some (some (if sign = '-' then -o else o)) else none

def startsZone (c : Char) : Bool := c == '+' || c == '-' || c == 'Z'

/-- Reads a moment. -/
def ofIso? (s : String) : Option Moment := do
  let (day, rest) ← dayOf? s.toList
  match rest with
  | [] => some ⟨day, 0, 0, 0, 0, none⟩
  | _ :: time =>
    let c ← clock? (time.takeWhile fun ch => !startsZone ch)
    let offset ← zone? (time.dropWhile fun ch => !startsZone ch)
    if c.inRange then some ⟨day, c.hour, c.minute, c.second, c.micro, offset⟩ else none

end Moment

end DomainAtlas
