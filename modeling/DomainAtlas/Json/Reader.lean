import DomainAtlas.Json.Value
import DomainAtlas.Text.Numeral
import DomainAtlas.Unheld

/-!
# Reading JSON

The reader works on the list of characters still to be read. A failure records how many characters
were left where it arose; `Json.parse` turns that into a line, a column and an offset.

Besides standard JSON the reader accepts `NaN`, `Infinity` and `-Infinity`. A repeated member name
keeps its first place and takes its last value. A text whose arrays and objects stand too deep in one
another is not read: how deep they may stand is the `Room` the reader has.
-/
namespace DomainAtlas

namespace Json

inductive FaultKind where
  | byteOrderMark
  | expectingValue
  | expectingName
  | expectingColon
  | expectingComma
  | extraData
  | unterminatedString
  | controlCharacter
  | badEscape
  | badUnicodeEscape
  deriving DecidableEq, Repr

def FaultKind.message : FaultKind → String
  | .byteOrderMark => "Unexpected UTF-8 BOM (decode using utf-8-sig)"
  | .expectingValue => "Expecting value"
  | .expectingName => "Expecting property name enclosed in double quotes"
  | .expectingColon => "Expecting ':' delimiter"
  | .expectingComma => "Expecting ',' delimiter"
  | .extraData => "Extra data"
  | .unterminatedString => "Unterminated string starting at"
  | .controlCharacter => "Invalid control character at"
  | .badEscape => "Invalid \\escape"
  | .badUnicodeEscape => "Invalid \\uXXXX escape"

/-- What is wrong, with the number of characters left at its place. -/
inductive Fault where
  | at (kind : FaultKind) (left : Nat)
  | longInteger (digits : Nat)
  /-- There is no room for another array or object. -/
  | nested (kind : String)
  | unheld (what : Unheld)
  deriving DecidableEq, Repr

/-- How deep arrays and objects may stand in one another. There is always room for the form in which a
scan is kept. -/
structure Room where
  depth : Nat
  ample : 4 ≤ depth

/-- Room for nothing deeper than a scan. -/
def Room.least : Room := ⟨4, Nat.le_refl 4⟩

/-- What a reading step gives: a result and the characters after it, or a fault. -/
abbrev Step (α : Type) := Except Fault (α × List Char)

def isSpace (c : Char) : Bool := c == ' ' || c == '\t' || c == '\n' || c == '\r'

def skipSpace (cs : List Char) : List Char := cs.dropWhile isSpace

/-- The value of four hexadecimal digits. -/
def hex4? : List Char → Option (Nat × List Char)
  | a :: b :: c :: d :: rest => do
    let a ← Text.hexDigit? a
    let b ← Text.hexDigit? b
    let c ← Text.hexDigit? c
    let d ← Text.hexDigit? d
    return (((a * 16 + b) * 16 + c) * 16 + d, rest)
  | _ => none

/-- The character of a single-letter escape. -/
def simpleEscape? (c : Char) : Option Char :=
  if c = '"' then some '"'
  else if c = '\\' then some '\\'
  else if c = '/' then some '/'
  else if c = 'b' then some (Char.ofNat 8)
  else if c = 'f' then some (Char.ofNat 12)
  else if c = 'n' then some '\n'
  else if c = 'r' then some '\r'
  else if c = 't' then some '\t'
  else none

/-- The character of a code unit. Half of a surrogate pair alone is none. -/
def unitChar (n : Nat) (rest : List Char) : Step Char :=
  if 0xD800 ≤ n ∧ n ≤ 0xDFFF then .error (.unheld .halfPair) else .ok (Char.ofNat n, rest)

/-- Reads what follows `\u`. A high surrogate takes the low one after it, if there is one. -/
def unicodeEscape (cs : List Char) : Step Char :=
  let bad (rest : List Char) : Step Char := .error (.at .badUnicodeEscape (rest.length + 1))
  match hex4? cs with
  | none => bad cs
  | some (_, []) => bad cs
  | some (hi, rest) =>
    if 0xD800 ≤ hi ∧ hi ≤ 0xDBFF then
      match rest with
      | '\\' :: 'u' :: more =>
        -- Too close to the end for another escape, with a pair or without.
        if more.length ≤ 4 then bad more
        else
          match hex4? more with
          | none => bad more
          | some (lo, after) =>
            if 0xDC00 ≤ lo ∧ lo ≤ 0xDFFF then
              .ok (Char.ofNat (0x10000 + (hi - 0xD800) * 0x400 + (lo - 0xDC00)), after)
            else unitChar hi rest
      | _ => unitChar hi rest
    else unitChar hi rest

/-- Reads the rest of a string after its opening quote. `opening` is the number of characters left
at that quote; `acc` holds the characters read, latest first. -/
def stringBody (opening : Nat) : Nat → List Char → List Char → Step String
  | 0, _, _ => .error (.at .unterminatedString opening)
  | _ + 1, _, [] => .error (.at .unterminatedString opening)
  | fuel + 1, acc, c :: cs =>
    if c = '"' then .ok (String.ofList acc.reverse, cs)
    else if c = '\\' then
      match cs with
      | [] => .error (.at .unterminatedString opening)
      | 'u' :: more =>
        match unicodeEscape more with
        | .ok (ch, rest) => stringBody opening fuel (ch :: acc) rest
        | .error e => .error e
      | e :: rest =>
        match simpleEscape? e with
        | some ch => stringBody opening fuel (ch :: acc) rest
        | none => .error (.at .badEscape (cs.length + 1))
    else if c.toNat < 32 then .error (.at .controlCharacter (cs.length + 1))
    else stringBody opening fuel (c :: acc) cs

/-- Reads a string whose opening quote has just been taken. -/
def string (cs : List Char) : Step String := stringBody (cs.length + 1) (cs.length + 1) [] cs

def digitsValue (ds : List Char) : Nat := ds.foldl (fun acc c => acc * 10 + (c.toNat - 48)) 0

/-- The digits of the whole part: a single zero, or digits that start with another one. -/
def wholePart? : List Char → Option (List Char × List Char)
  | [] => none
  | c :: cs =>
    if c = '0' then some (['0'], cs)
    else if c.isDigit then some (c :: cs.takeWhile Char.isDigit, cs.dropWhile Char.isDigit)
    else none

/-- The digits after a decimal point, if a point and a digit follow. -/
def fraction : List Char → List Char × List Char
  | '.' :: cs =>
    let ds := cs.takeWhile Char.isDigit
    if ds.isEmpty then ([], '.' :: cs) else (ds, cs.dropWhile Char.isDigit)
  | cs => ([], cs)

def exponent (cs : List Char) : Option Int × List Char :=
  match cs with
  | c :: rest =>
    if c = 'e' ∨ c = 'E' then
      let (neg, body) := match rest with
        | '-' :: more => (true, more)
        | '+' :: more => (false, more)
        | more => (false, more)
      let ds := body.takeWhile Char.isDigit
      if ds.isEmpty then (none, cs)
      else
        let n : Int := digitsValue ds
        (some (if neg then -n else n), body.dropWhile Char.isDigit)
    else (none, cs)
  | [] => (none, [])

/-- Reads a number whose sign has been taken. `left` is the number of characters at its start. -/
def number (neg : Bool) (left : Nat) (cs : List Char) : Step Json :=
  match wholePart? cs with
  | none => .error (.at .expectingValue left)
  | some (whole, rest) =>
    let (frac, rest) := fraction rest
    let (exp, rest) := exponent rest
    if frac.isEmpty ∧ exp.isNone then
      if Text.maxDigits < whole.length then .error (.longInteger whole.length)
      else
        let n : Int := digitsValue whole
        .ok (.int (if neg then -n else n), rest)
    else
      let e := exp.getD 0 - frac.length
      .ok (.float (Double.ofDecimal neg (digitsValue (whole ++ frac)) e), rest)

def word? (w : String) (cs : List Char) : Option (List Char) :=
  if w.toList.isPrefixOf cs then some (cs.drop w.length) else none

/-- The values written as words. -/
def words : List (String × Json) :=
  [("null", .null), ("true", .bool true), ("false", .bool false), ("NaN", .float .nan),
    ("Infinity", .float (.infinite false)), ("-Infinity", .float (.infinite true))]

/-- A value written as a word, or a number. -/
def scalar (cs : List Char) : Step Json :=
  match words.findSome? fun (w, v) => (word? w cs).map fun rest => (v, rest) with
  | some r => .ok r
  | none =>
    match cs with
    | '-' :: rest => number true cs.length rest
    | _ => number false cs.length cs

mutual

/-- Reads a value; `fuel` bounds the steps. -/
def value (room : Nat) : Nat → List Char → Step Json
  | 0, cs => .error (.at .expectingValue cs.length)
  | fuel + 1, cs =>
    match cs, room with
    | '"' :: rest, _ => (string rest).map fun (s, r) => (.str s, r)
    | '[' :: _, 0 => .error (.nested "array")
    | '[' :: rest, room + 1 =>
      match skipSpace rest with
      | ']' :: after => .ok (.arr [], after)
      | body => (items room fuel body).map fun (vs, r) => (.arr vs, r)
    | '\x7b' :: _, 0 => .error (.nested "object")
    | '\x7b' :: rest, room + 1 =>
      match skipSpace rest with
      | '\x7d' :: after => .ok (.obj [], after)
      | body => (members room fuel body).map fun (ms, r) => (.obj (ofPairs ms), r)
    | _, _ => scalar cs

/-- Reads one or more items and the closing bracket. -/
def items (room : Nat) : Nat → List Char → Step (List Json)
  | 0, cs => .error (.at .expectingValue cs.length)
  | fuel + 1, cs =>
    match value room fuel cs with
    | .error e => .error e
    | .ok (v, rest) =>
      match skipSpace rest with
      | ']' :: after => .ok ([v], after)
      | ',' :: more => (items room fuel (skipSpace more)).map fun (vs, r) => (v :: vs, r)
      | other => .error (.at .expectingComma other.length)

/-- Reads one or more members and the closing brace. -/
def members (room : Nat) : Nat → List Char → Step (List (String × Json))
  | 0, cs => .error (.at .expectingName cs.length)
  | fuel + 1, cs =>
    match cs with
    | '"' :: rest =>
      match string rest with
      | .error e => .error e
      | .ok (name, rest) =>
        match skipSpace rest with
        | ':' :: rest =>
          match value room fuel (skipSpace rest) with
          | .error e => .error e
          | .ok (v, rest) =>
            match skipSpace rest with
            | '\x7d' :: after => .ok ([(name, v)], after)
            | ',' :: more =>
              (members room fuel (skipSpace more)).map fun (ms, r) => ((name, v) :: ms, r)
            | other => .error (.at .expectingComma other.length)
        | other => .error (.at .expectingColon other.length)
    | other => .error (.at .expectingName other.length)

end

/-- The line and column, both from one, of the place with `left` characters after it. -/
def position (text : List Char) (left : Nat) : Nat × Nat × Nat :=
  let before := text.take (text.length - left)
  let line := (before.filter (· == '\n')).length + 1
  let column := (before.reverse.takeWhile (· != '\n')).length + 1
  (line, column, before.length)

inductive Refusal where
  /-- It is no JSON, or a number in it is too long. -/
  | wrong (message : String)
  | nested (message : String)
  | unheld (what : Unheld)
  deriving DecidableEq, Repr

def Refusal.message : Refusal → String
  | .wrong m => m
  | .nested m => m
  | .unheld what => what.message

/-- What a fault says about a text. -/
def Fault.refusal (text : List Char) : Fault → Refusal
  | .at kind left =>
    let (line, column, offset) := position text left
    .wrong s!"{kind.message}: line {line} column {column} (char {offset})"
  | .longInteger digits => .wrong (Text.tooManyDigits digits)
  | .nested kind =>
    .nested s!"maximum recursion depth exceeded while decoding a JSON {kind} from a unicode string"
  | .unheld what => .unheld what

/-- Reads a whole text as one JSON value. An opening bracket may take two steps, one for the array and
one for its items, so there is fuel for two steps for each character. -/
def parseChars (room : Nat) (cs : List Char) : Except Fault Json :=
  match cs with
  | '\ufeff' :: _ => .error (.at .byteOrderMark cs.length)
  | _ =>
    match value room (2 * cs.length + 1) (skipSpace cs) with
    | .error e => .error e
    | .ok (v, rest) =>
      match skipSpace rest with
      | [] => .ok v
      | extra => .error (.at .extraData extra.length)

/-- Reads a text as one JSON value, or says why it is not read. -/
def parse (room : Nat) (s : String) : Except Refusal Json :=
  match parseChars room s.toList with
  | .ok v => .ok v
  | .error e => .error (e.refusal s.toList)

end Json

end DomainAtlas
