import DomainAtlas.Datum
import DomainAtlas.Text.Casing
import DomainAtlas.Text.Numeral
import DomainAtlas.Yaml.Fault

/-!
# Values of plain scalars

A scalar without a tag gets one by its form: `tagOfPlain`. What a text with a given tag is worth is
said by `intValue`, `floatValue` and `dateValue`: numbers may have underscores, several bases and parts
in base sixty; dates may have a time and a distance from UTC.
-/
namespace DomainAtlas.Yaml

def standardTags : String := "tag:yaml.org,2002:"

def standardTag (name : String) : String := standardTags ++ name

/-! ## Forms -/

/-- Reads a number of characters of a class: at least `least`, at most `most`. -/
def takeClass (p : Char → Bool) (least most : Nat) (cs : List Char) : Option (List Char) :=
  let run := (cs.take most).takeWhile p
  if run.length < least then none else some (cs.drop run.length)

def dropSign (cs : List Char) : List Char :=
  match cs with
  | '+' :: rest => rest
  | '-' :: rest => rest
  | _ => cs

/-- A digit of some base, or an underscore. -/
def isDigitOf (base : Nat) (c : Char) : Bool :=
  c == '_' || ((Text.hexDigit? c).any fun d => d < base)

/-- Parts in base sixty: each a colon and one or two digits, at least one of them. -/
def sixties : Nat → List Char → Option (List Char)
  | 0, _ => none
  | fuel + 1, cs =>
    match cs with
    | ':' :: a :: b :: rest =>
      if '0' ≤ a ∧ a ≤ '5' ∧ b.isDigit then some ((sixties fuel rest).getD rest)
      else if a.isDigit then some ((sixties fuel (b :: rest)).getD (b :: rest))
      else none
    | [':', a] => if a.isDigit then some [] else none
    | _ => none

def isIntForm (cs : List Char) : Bool :=
  match dropSign cs with
  | ['0'] => true
  | '0' :: 'b' :: ds => !ds.isEmpty && ds.all (isDigitOf 2)
  | '0' :: 'x' :: ds => !ds.isEmpty && ds.all (isDigitOf 16)
  | '0' :: ds => ds.all (isDigitOf 8)
  | c :: ds =>
    c.isDigit &&
      (let rest := ds.dropWhile (isDigitOf 10)
       rest.isEmpty || sixties rest.length rest == some [])
  | [] => false

/-- Whether a text is empty or an exponent with a sign. -/
def isExponent (cs : List Char) : Bool :=
  match cs with
  | [] => true
  | e :: s :: ds =>
    (e == 'e' || e == 'E') && (s == '+' || s == '-') && !ds.isEmpty && ds.all Char.isDigit
  | _ => false

/-- Whether a text has the form of a decimal number or of one in base sixty. -/
def isDecimalForm (cs : List Char) : Bool :=
  match cs with
  | c :: _ =>
    c.isDigit &&
      (match cs.dropWhile (isDigitOf 10) with
      | '.' :: rest => isExponent (rest.dropWhile (isDigitOf 10))
      | rest =>
        match sixties rest.length rest with
        | some ('.' :: rest) => rest.all (isDigitOf 10)
        | _ => false)
  | [] => false

/-- Whether a text has the form of a number that is not an integer. -/
def isFloatForm (cs : List Char) : Bool :=
  let body := dropSign cs
  isDecimalForm body || [".inf", ".Inf", ".INF"].contains (String.ofList body) ||
    [".nan", ".NaN", ".NAN"].contains (String.ofList cs) ||
    (match cs with
    | '.' :: d :: rest => d.isDigit && isExponent (rest.dropWhile (isDigitOf 10))
    | _ => false)

/-- The parts of a text that has the form of a date. -/
structure DateParts where
  year : Nat
  month : Nat
  day : Nat
  /-- Hour, minute, second and digits of the fraction. -/
  time : Option (Nat × Nat × Nat × List Char)
  /-- The distance from UTC in seconds. -/
  offset : Option Int
  deriving Repr

/-- The value of decimal digits. -/
def natOf (ds : List Char) : Nat := ds.foldl (fun n d => n * 10 + (d.toNat - 48)) 0

/-- Reads one or two digits, or exactly two. -/
def twoDigits (least : Nat) (cs : List Char) : Option (Nat × List Char) :=
  (takeClass Char.isDigit least 2 cs).map fun rest => (natOf (cs.take (cs.length - rest.length)), rest)

def dropChar (c : Char) : List Char → Option (List Char)
  | d :: rest => if d = c then some rest else none
  | [] => none

/-- Reads a distance from UTC at the end of a date; an empty text has none. -/
def dateOffset (cs : List Char) : Option (Option Int) :=
  match cs.dropWhile (fun c => c == ' ' || c == '\t') with
  | [] => if cs.isEmpty then some none else none
  | ['Z'] => some (some 0)
  | s :: rest =>
    if s ≠ '+' ∧ s ≠ '-' then none
    else
      match twoDigits 1 rest with
      | none => none
      | some (hour, rest) =>
        let minutes := match rest with
          | [] => some 0
          | ':' :: rest => (twoDigits 2 rest).bind fun (m, rest) => if rest.isEmpty then some m else none
          | _ => none
        minutes.map fun m =>
          let o : Int := (hour * 3600 + m * 60 : Nat)
          some (if s = '-' then -o else o)

/-- Reads a time of day and what follows it. -/
def dateTime (year month day : Nat) (cs : List Char) : Option DateParts := do
  let (hour, cs) ← twoDigits 1 cs
  let cs ← dropChar ':' cs
  let (minute, cs) ← twoDigits 2 cs
  let cs ← dropChar ':' cs
  let (second, cs) ← twoDigits 2 cs
  let (fraction, cs) := match cs with
    | '.' :: rest => (rest.takeWhile Char.isDigit, rest.dropWhile Char.isDigit)
    | _ => ([], cs)
  let offset ← dateOffset cs
  return ⟨year, month, day, some (hour, minute, second, fraction), offset⟩

/-- A text without a line feed at its end; a single one stays. -/
def dropFinalBreak (cs : List Char) : List Char :=
  if 1 < cs.length ∧ cs.getLast? = some '\n' then cs.dropLast else cs

/-- Reads a date that is all of a text. -/
def wholeDate? (cs : List Char) : Option DateParts := do
  let rest ← takeClass Char.isDigit 4 4 cs
  let year := natOf (cs.take 4)
  let rest ← dropChar '-' rest
  let (month, rest) ← twoDigits 1 rest
  let rest ← dropChar '-' rest
  let (day, rest) ← twoDigits 1 rest
  match rest with
  | [] => return ⟨year, month, day, none, none⟩
  | c :: more =>
    if c = 'T' ∨ c = 't' then dateTime year month day more
    else if c = ' ' ∨ c = '\t' then
      dateTime year month day (more.dropWhile fun c => c == ' ' || c == '\t')
    else none

/-- Reads a date. A line feed may follow it. -/
def dateParts? (cs : List Char) : Option DateParts := wholeDate? (dropFinalBreak cs)

/-- Whether a text has the form of a date: without a time, month and day have two digits. -/
def isDateForm (cs : List Char) : Bool :=
  match wholeDate? cs with
  | some p => p.time.isSome || cs.length == 10
  | none => false

def truthWords : List (String × Bool) :=
  [("yes", true), ("no", false), ("true", true), ("false", false), ("on", true), ("off", false)]

/-- Whether a text is a word in small letters, in capitals, or with one capital. -/
def isCased (word s : String) : Bool := s == word || s == word.capitalize || s == word.toUpper

/-- The tag of a scalar by the form of its text, behind which a line feed may stand. -/
def tagOfPlain (text : String) : String :=
  let cs := dropFinalBreak text.toList
  let s := String.ofList cs
  if truthWords.any fun w => isCased w.1 s then standardTag "bool"
  else if isFloatForm cs then standardTag "float"
  else if isIntForm cs then standardTag "int"
  else if s = "<<" then standardTag "merge"
  else if s = "" ∨ s = "~" ∨ isCased "null" s then standardTag "null"
  else if isDateForm cs then standardTag "timestamp"
  else if s = "=" then standardTag "value"
  else if s = "!" ∨ s = "&" ∨ s = "*" then standardTag "yaml"
  else standardTag "str"

/-! ## Values -/

def parseDigits (base : Nat) (cs : List Char) : Except ValueFault Int :=
  (Text.readInteger base cs).mapError fun
    | .noNumeral => .digits base (String.ofList cs)
    | .tooLong count => .tooManyDigits count

/-- Parts in base sixty as one number. -/
def ofSixties (parts : List Int) : Int := parts.foldl (fun n p => n * 60 + p) 0

def intValue (text : String) : Except ValueFault Int :=
  match text.toList.filter (· != '_') with
  | [] => .error .emptyNumber
  | c :: cs =>
    let body := if c = '+' ∨ c = '-' then cs else c :: cs
    let signed (r : Except ValueFault Int) : Except ValueFault Int :=
      r.map fun n => if c = '-' then -n else n
    match body with
    | [] => .error .emptyNumber
    | ['0'] => .ok 0
    | '0' :: 'b' :: ds => signed (parseDigits 2 ds)
    | '0' :: 'x' :: ds => signed (parseDigits 16 ds)
    | '0' :: _ => signed (parseDigits 8 body)
    | _ =>
      if body.contains ':' then
        signed (((Text.splitChars ':' body).mapM (parseDigits 10)).map ofSixties)
      else signed (parseDigits 10 body)

/-- The exponent of a number, after its letter. -/
def exponentOf? (cs : List Char) : Option Int :=
  let ds := dropSign cs
  if ds.isEmpty ∨ !ds.all Char.isDigit then none
  else some (if cs.head? = some '-' then -(natOf ds : Int) else natOf ds)

/-- The value of a decimal number without a sign. -/
def unsignedDecimal? (neg : Bool) (cs : List Char) : Option Double :=
  let whole := cs.takeWhile Char.isDigit
  let rest := cs.dropWhile Char.isDigit
  let (fraction, rest) := match rest with
    | '.' :: more => (more.takeWhile Char.isDigit, more.dropWhile Char.isDigit)
    | _ => ([], rest)
  let exponent := match rest with
    | [] => some 0
    | 'e' :: more => exponentOf? more
    | _ => none
  if whole.isEmpty ∧ fraction.isEmpty then none
  else exponent.map fun e => Double.ofDecimal neg (natOf (whole ++ fraction)) (e - fraction.length)

/-- The value of a decimal number in small letters, with white space around it and a sign in front. -/
def parseDecimal (cs : List Char) : Except ValueFault Double :=
  let body := Text.trimBy Text.isPlainBlank (cs.map Text.numeralChar)
  let neg := body.head? = some '-'
  let digits := dropSign body
  let word := String.ofList digits
  if word = "inf" ∨ word = "infinity" then .ok (.infinite neg)
  else if word = "nan" then .ok .nan
  else
    match unsignedDecimal? neg digits with
    | some x => .ok x
    | none => .error (.float (String.ofList cs))

/-- Parts in base sixty as one number, the last part first; each step is rounded. A base beyond all
numbers cannot be used. -/
def ofSixtiesRounded : (base : Nat) → (sum : Double) → List Double → Except ValueFault Double
  | _, sum, [] => .ok sum
  | base, sum, p :: ps =>
    if Double.ofInt base == .infinite false then .error .largeBase
    else ofSixtiesRounded (base * 60) (sum.add (p.mul (Double.ofInt base))) ps

/-- The value of a number that is not an integer. -/
def floatValue (text : String) : Except ValueFault Double :=
  match (Text.lower (String.ofList (text.toList.filter (· != '_')))).toList with
  | [] => .error .emptyNumber
  | c :: cs =>
    let body := if c = '+' ∨ c = '-' then cs else c :: cs
    let signed (x : Double) : Double := if c = '-' then x.neg else x
    if String.ofList body = ".inf" then .ok (.infinite (c == '-'))
    else if String.ofList body = ".nan" then .ok .nan
    else if body.contains ':' then do
      let parts ← (Text.splitChars ':' body).mapM parseDecimal
      return signed (← ofSixtiesRounded 1 (Double.ofInt 0) parts.reverse)
    else (parseDecimal body).map signed

def daysIn (year month : Nat) : Nat :=
  if month = 2 then
    if year % 4 = 0 ∧ (year % 100 ≠ 0 ∨ year % 400 = 0) then 29 else 28
  else if month = 4 ∨ month = 6 ∨ month = 9 ∨ month = 11 then 30
  else 31

def calendarDay (year month day : Nat) : Except ValueFault Day :=
  if year = 0 then .error (.calendar "year 0 is out of range")
  else if month = 0 ∨ 12 < month then .error (.calendar "month must be in 1..12")
  else if day = 0 ∨ daysIn year month < day then .error (.calendar "day is out of range for month")
  else .ok ⟨year, month, day⟩

/-- The first six digits of a fraction as millionths. -/
def millionths (ds : List Char) : Nat := natOf ((ds ++ List.replicate 6 '0').take 6)

/-- A span of time in whole days and seconds, as a message shows it. -/
def spanLiteral (seconds : Int) : String :=
  let days := seconds.fdiv 86400
  let left := seconds.fmod 86400
  let parts := (if days = 0 then [] else [s!"days={days}"]) ++
    (if left = 0 then [] else [s!"seconds={left}"])
  s!"datetime.timedelta({Text.join comma parts})"
where
  /-- What stands between two parts. -/
  comma : String := ", "

def dateValue (text : String) : Except ValueFault Datum :=
  match dateParts? text.toList with
  | none => .error .dateForm
  | some p =>
    match p.time with
    | none => (calendarDay p.year p.month p.day).map .date
    | some (hour, minute, second, fraction) =>
      match p.offset.filter fun o => 86400 ≤ o.natAbs with
      | some o =>
        .error (.calendar ("offset must be a timedelta strictly between -timedelta(hours=24) and " ++
          s!"timedelta(hours=24), not {spanLiteral o}."))
      | none =>
        match calendarDay p.year p.month p.day with
        | .error f => .error f
        | .ok day =>
          if 23 < hour then .error (.calendar "hour must be in 0..23")
          else if 59 < minute then .error (.calendar "minute must be in 0..59")
          else if 59 < second then .error (.calendar "second must be in 0..59")
          else .ok (.moment ⟨day, hour, minute, second, millionths fraction, p.offset⟩)

end DomainAtlas.Yaml
