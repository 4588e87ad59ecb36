/-!
# Double-precision numbers

A double is a sign, a mantissa below 2^53 and a power of two. All arithmetic is done on exact
fractions of natural numbers and rounded once at the end (`ofRatio`), to the nearest double and
to the even mantissa on a tie.

`Double.shortest` gives the fewest decimal digits that still name the number; `Double.literal`
lays them out, and `Double.fixed` writes a given number of decimal places.
-/
namespace DomainAtlas

/-- A number of double precision: `± man * 2 ^ exp`, an infinity, or no number at all. -/
inductive Double where
  | finite (neg : Bool) (man : Nat) (exp : Int)
  | infinite (neg : Bool)
  | nan
  deriving DecidableEq, Repr

namespace Double

/-- `num / den` rounded to the nearest integer, a half to the even one. -/
def roundHalfEven (num den : Nat) : Nat :=
  let q := num / den
  let r := num % den
  if 2 * r < den then q
  else if den < 2 * r then q + 1
  else if q % 2 = 0 then q else q + 1

/-- The fraction `num / den` divided by `2 ^ e`. -/
def scaleDown (num den : Nat) (e : Int) : Nat × Nat :=
  if 0 ≤ e then (num, den * Nat.pow 2 e.toNat) else (num * Nat.pow 2 (-e).toNat, den)

/-- The exponent of the last place of the double nearest to `num / den`. -/
def lastPlace (num den : Nat) : Int :=
  let e : Int := (Nat.log2 num : Int) - (Nat.log2 den : Int) - 52
  let (n, d) := scaleDown num den e
  max (-1074) (if n / d < Nat.pow 2 52 then e - 1 else e)

/-- The double nearest to `± num / den`; `den` is positive. -/
def ofRatio (neg : Bool) (num den : Nat) : Double :=
  if num = 0 then .finite neg 0 (-1074)
  else
    let e := lastPlace num den
    let (n, d) := scaleDown num den e
    let m := roundHalfEven n d
    let (m, e) := if m = Nat.pow 2 53 then (Nat.pow 2 52, e + 1) else (m, e)
    if 971 < e then .infinite neg else .finite neg m e

def ofInt (n : Int) : Double := ofRatio (n < 0) n.natAbs 1

/-- The double nearest to `± digits * 10 ^ e`. Exponents far outside the range of doubles are
settled without computing the power. -/
def ofDecimal (neg : Bool) (digits : Nat) (e : Int) : Double :=
  if digits = 0 then .finite neg 0 (-1074)
  else
    let size : Int := (Nat.toDigits 10 digits).length + e
    if 400 < size then .infinite neg
    else if size < -400 then .finite neg 0 (-1074)
    else if 0 ≤ e then ofRatio neg (digits * Nat.pow 10 e.toNat) 1
    else ofRatio neg digits (Nat.pow 10 (-e).toNat)

/-- A finite number as sign, numerator and denominator. -/
def ratio? : Double → Option (Bool × Nat × Nat)
  | .finite neg m e =>
    some (if 0 ≤ e then (neg, m * Nat.pow 2 e.toNat, 1) else (neg, m, Nat.pow 2 (-e).toNat))
  | _ => none

def isInt (x : Double) (n : Int) : Bool :=
  match x.ratio? with
  | some (neg, num, den) => (if neg then -(num : Int) else num) == n * den
  | none => false

/-- Whether the number has a minus sign. -/
def isNegative : Double → Bool
  | .finite neg _ _ => neg
  | .infinite neg => neg
  | .nan => false

def isZero (x : Double) : Bool := x.isInt 0

def mul (x y : Double) : Double :=
  match x.ratio?, y.ratio? with
  | some (s, a, b), some (t, c, d) => ofRatio (s != t) (a * c) (b * d)
  | _, _ =>
    if x = .nan ∨ y = .nan ∨ x.isZero ∨ y.isZero then .nan
    else .infinite (x.isNegative != y.isNegative)

def neg : Double → Double
  | .finite s m e => .finite (!s) m e
  | .infinite s => .infinite (!s)
  | .nan => .nan

/-- The sum of two numbers. Two that cancel out give zero without a sign. -/
def add (x y : Double) : Double :=
  match x.ratio?, y.ratio? with
  | some (s, a, b), some (t, c, d) =>
    let signed (neg : Bool) (n : Nat) : Int := if neg then -(n : Int) else n
    let n := signed s (a * d) + signed t (c * b)
    ofRatio (if n = 0 then s && t else n < 0) n.natAbs (b * d)
  | none, none => if x = y then x else .nan
  | none, some _ => x
  | some _, none => y

/-- The quotient of two finite numbers, the second of which is not zero. -/
def div (x y : Double) : Double :=
  match x.ratio?, y.ratio? with
  | some (s, a, b), some (t, c, d) => if c = 0 then .nan else ofRatio (s != t) (a * d) (b * c)
  | _, _ => .nan

/-- The integer square root. -/
def isqrt (n : Nat) : Nat :=
  if n = 0 then 0
  else
    let r := 2 * isqrt (n / 4)
    if (r + 1) * (r + 1) ≤ n then r + 1 else r
termination_by n
decreasing_by omega

/-- The double nearest to the square root of a natural number. The root is taken with at least 64
further binary places, and a last odd bit records that it was not exact. -/
def sqrtNat (n : Nat) : Double :=
  let k := 64
  let scaled := n * Nat.pow 4 k
  let s := isqrt scaled
  let sticky := if s * s = scaled then 0 else 1
  ofRatio false (2 * s + sticky) (2 * Nat.pow 2 k)

/-- The integer part, toward zero. -/
def truncate (x : Double) : Int :=
  match x.ratio? with
  | some (neg, num, den) => if neg then -((num / den : Nat) : Int) else (num / den : Nat)
  | none => 0

/-! ## Decimal digits -/

/-- The least `k` with `num / den < 10 ^ k`, for a positive fraction. -/
def decimalExponent (num den : Nat) : Int :=
  let guess : Int := ((Nat.toDigits 10 num).length : Int) - (Nat.toDigits 10 den).length + 1
  let below (k : Int) : Bool :=
    if 0 ≤ k then num < den * Nat.pow 10 k.toNat else num * Nat.pow 10 (-k).toNat < den
  if below (guess - 2) then guess - 2 else if below (guess - 1) then guess - 1 else guess

/-- The fraction `num / den` divided by `10 ^ e`. -/
def scaleDecimal (num den : Nat) (e : Int) : Nat × Nat :=
  if 0 ≤ e then (num, den * Nat.pow 10 e.toNat) else (num * Nat.pow 10 (-e).toNat, den)

/-- The decimal `c * 10 ^ unit` reads back as `± m * 2 ^ e`. -/
def readsBack (m : Nat) (e : Int) (c : Nat) (unit : Int) : Bool :=
  ofDecimal false c unit == .finite false m e

/-- Of the two neighbours of the number on the grid of `n` digits, the nearest one that reads
back. -/
def shortestAt (m : Nat) (e : Int) (num den : Nat) (k : Int) (n : Nat) : Option (Nat × Int) :=
  let unit := k - n
  let (a, b) := scaleDecimal num den unit
  let lo := a / b
  let r := a % b
  let preferLow := 2 * r < b || (2 * r == b && lo % 2 == 0)
  let order := if preferLow then [lo, lo + 1] else [lo + 1, lo]
  (order.find? fun c => readsBack m e c unit).map fun c => (c, unit)

/-- Drops trailing decimal zeros. -/
def trimZeros : Nat → Nat × Int → Nat × Int
  | 0, p => p
  | fuel + 1, (c, u) => if c ≠ 0 ∧ c % 10 = 0 then trimZeros fuel (c / 10, u + 1) else (c, u)

/-- The fewest digits that read back as the finite number with mantissa `m` and exponent `e`, with
the power of ten of the last of them. -/
def shortest (m : Nat) (e : Int) : Nat × Int :=
  if m = 0 then (0, 0)
  else
    let (num, den) := if 0 ≤ e then (m * Nat.pow 2 e.toNat, 1) else (m, Nat.pow 2 (-e).toNat)
    let k := decimalExponent num den
    let found := (List.range 17).findSome? fun i => shortestAt m e num den k (i + 1)
    trimZeros 20 (found.getD (0, 0))

/-- Where positional notation ends. -/
structure Layout where
  /-- Positional from this power of ten of the first digit on. -/
  leastPower : Int
  /-- Exponential from this power of ten on. -/
  exponentialFrom : Int
  /-- Least number of exponent digits. -/
  exponentDigits : Nat

/-- Numbers from 0.0001 up to 10^16 are written positionally, others with an exponent of at least
two digits. -/
def plainLayout : Layout := ⟨-4, 16, 2⟩

def padZeros (width : Nat) (ds : List Char) : List Char :=
  List.replicate (width - ds.length) '0' ++ ds

/-- Lays out digits whose last one has the given power of ten. -/
def Layout.render (l : Layout) (digits : Nat) (unit : Int) : String :=
  let ds := Nat.toDigits 10 digits
  let power : Int := unit + ds.length - 1
  if digits = 0 then "0.0"
  else if l.leastPower ≤ power ∧ power < l.exponentialFrom then
    if 0 ≤ unit then String.ofList (ds ++ List.replicate unit.toNat '0') ++ ".0"
    else
      let places := (-unit).toNat
      let ds := padZeros (places + 1) ds
      String.ofList (ds.take (ds.length - places)) ++ "."
        ++ String.ofList (ds.drop (ds.length - places))
  else
    let mantissa := match ds with
      | [d] => String.singleton d
      | d :: more => String.singleton d ++ "." ++ String.ofList more
      | [] => ""
    let sign := if power < 0 then "-" else "+"
    mantissa ++ "e" ++ sign
      ++ String.ofList (padZeros l.exponentDigits (Nat.toDigits 10 power.natAbs))

/-- The text of a number: the fewest digits that read back. -/
def literal : Double → String
  | .finite neg m e =>
    let (d, u) := shortest m e
    (if neg then "-" else "") ++ plainLayout.render d u
  | .infinite neg => if neg then "-inf" else "inf"
  | .nan => "nan"

/-- The number with a fixed count of decimal places, rounded exactly, a half to even. -/
def fixed (places : Nat) (x : Double) : String :=
  match x.ratio? with
  | none => x.literal
  | some (neg, num, den) =>
    let c := roundHalfEven (num * Nat.pow 10 places) den
    let ds := padZeros (places + 1) (Nat.toDigits 10 c)
    let whole := String.ofList (ds.take (ds.length - places))
    let sign := if neg then "-" else ""
    if places = 0 then sign ++ whole
    else sign ++ whole ++ "." ++ String.ofList (ds.drop (ds.length - places))

/-- The double nearest to the number with a fixed count of decimal places. -/
def roundTo (places : Nat) (x : Double) : Double :=
  match x.ratio? with
  | none => x
  | some (neg, num, den) => ofDecimal neg (roundHalfEven (num * Nat.pow 10 places) den) (-(places : Int))

end Double

end DomainAtlas
