import DomainAtlas.Text.Basic

/-!
# Numerals

An integer may be written with the decimal digits of any script; each script has its ten digits in a
row, from zero to nine. White space may stand around it, a sign in front, and single underscores between
the digits. A decimal numeral with more than `maxDigits` digits is refused, whatever number it is.
-/
namespace DomainAtlas.Text

/-- How far a code point lies behind the change at which it came into a set, if it is in it. -/
def behindChange? : List Nat → Nat → Option Nat
  | enter :: leave :: later, n =>
    if n < enter then none else if n < leave then some (n - enter) else behindChange? later n
  | _, _ => none

def digitValue? (c : Char) : Option Nat :=
  if c.toNat < 128 then if c.isDigit then some (c.toNat - 48) else none
  else (behindChange? decimalDigit.changes c.toNat).map (· % 10)

def digitsNumber (cs : List Char) : Nat := cs.foldl (fun n c => n * 10 + (digitValue? c).getD 0) 0

def maxDigits : Nat := 4300

/-- What is said of a numeral that is too long. -/
def tooManyDigits (count : Nat) : String :=
  s!"Exceeds the limit ({maxDigits} digits) for integer string conversion: value has " ++
    s!"{count} digits; use sys.set_int_max_str_digits() to increase the limit"

/-- Whether a number is short enough to be written. -/
def isWritable (n : Int) : Bool := n.natAbs < Nat.pow 10 maxDigits

/-- What is said of a number that is too long to be written. -/
def tooLongToWrite : String :=
  s!"Exceeds the limit ({maxDigits} digits) for integer string conversion; use " ++
    "sys.set_int_max_str_digits() to increase the limit"

/-- A character as it counts in a numeral: outside of ASCII there are digits and white space only. -/
def numeralChar (c : Char) : Char :=
  if c.toNat < 128 then c
  else
    match digitValue? c with
    | some d => Char.ofNat (48 + d)
    | none => if isBlank c then ' ' else '?'

/-- White space of ASCII. -/
def isPlainBlank (c : Char) : Bool := c == ' ' || (9 ≤ c.toNat && c.toNat ≤ 13)

/-- Why a text is no integer. -/
inductive NumeralFault where
  | noNumeral
  | tooLong (count : Nat)
  deriving DecidableEq, Repr

/-- Whether a character is a digit of a base up to sixteen. -/
def isDigitBelow (base : Nat) (c : Char) : Bool := (hexDigit? c).any fun d => d < base

/-- The rest of a numeral behind the letters that name its base. -/
def dropBase (base : Nat) (cs : List Char) : List Char :=
  match cs with
  | '0' :: c :: rest =>
    if (base = 2 ∧ c.toLower = 'b') ∨ (base = 8 ∧ c.toLower = 'o') ∨ (base = 16 ∧ c.toLower = 'x') then
      match rest with
      | '_' :: digits => digits
      | digits => digits
    else cs
  | _ => cs

/-- Whether a numeral starts with a minus sign, and what follows its sign. -/
def takeSign (cs : List Char) : Bool × List Char :=
  match cs with
  | '-' :: rest => (true, rest)
  | '+' :: rest => (false, rest)
  | rest => (false, rest)

def readInteger (base : Nat) (cs : List Char) : Except NumeralFault Int :=
  let (negative, unsigned) := takeSign ((cs.map numeralChar).dropWhile isPlainBlank)
  let inRun (c : Char) : Bool := c == '_' || isDigitBelow base c
  let run := (dropBase base unsigned).takeWhile inRun
  let digits := run.filter (· != '_')
  if !(splitChars '_' run).all fun part => !part.isEmpty then .error .noNumeral
  else if base = 10 ∧ maxDigits < digits.length then .error (.tooLong digits.length)
  else if !((dropBase base unsigned).dropWhile inRun).all isPlainBlank then .error .noNumeral
  else
    let n : Int := digits.foldl (fun n d => n * base + ((hexDigit? d).getD 0 : Nat)) (0 : Int)
    .ok (if negative then -n else n)

end DomainAtlas.Text
