import DomainAtlas.Json.Value
import DomainAtlas.Text.Literal

/-!
# Writing JSON

JSON text is plain ASCII: every other character is written as one or two `\u` escapes of UTF-16
units. `Json.render` writes on one line with a space after each comma and colon; `Json.renderIndented`
puts each item on a line of its own.
-/
namespace DomainAtlas

namespace Json

def escapeUnit (n : Nat) : List Char := '\\' :: 'u' :: Text.hexPadded 4 n

/-- A character inside a JSON string. -/
def escapeChar (c : Char) : List Char :=
  let n := c.toNat
  if c = '"' then ['\\', '"']
  else if c = '\\' then ['\\', '\\']
  else if c = '\n' then ['\\', 'n']
  else if c = '\r' then ['\\', 'r']
  else if c = '\t' then ['\\', 't']
  else if n = 8 then ['\\', 'b']
  else if n = 12 then ['\\', 'f']
  else if 32 ≤ n ∧ n ≤ 126 then [c]
  else if n ≤ 0xFFFF then escapeUnit n
  else escapeUnit (0xD800 + (n - 0x10000) / 0x400) ++ escapeUnit (0xDC00 + (n - 0x10000) % 0x400)

def quoteChars (cs : List Char) : List Char := '"' :: (cs.flatMap escapeChar ++ ['"'])

def quote (s : String) : String := String.ofList (quoteChars s.toList)

def floatText : Double → String
  | .nan => "NaN"
  | .infinite neg => if neg then "-Infinity" else "Infinity"
  | x => x.literal

def intChars (n : Int) : List Char :=
  if n < 0 then '-' :: Nat.toDigits 10 n.natAbs else Nat.toDigits 10 n.natAbs

mutual

/-- A value on one line. -/
def chars : Json → List Char
  | .null => "null".toList
  | .bool true => "true".toList
  | .bool false => "false".toList
  | .int n => intChars n
  | .float x => (floatText x).toList
  | .str s => quoteChars s.toList
  | .arr [] => ['[', ']']
  | .arr (v :: vs) => '[' :: (chars v ++ itemChars vs)
  | .obj [] => ['\x7b', '\x7d']
  | .obj ((n, v) :: ms) => '\x7b' :: (quoteChars n.toList ++ ':' :: ' ' :: (chars v ++ memberChars ms))

/-- The items after the first, and the closing bracket. -/
def itemChars : List Json → List Char
  | [] => [']']
  | v :: vs => ',' :: ' ' :: (chars v ++ itemChars vs)

/-- The members after the first, and the closing brace. -/
def memberChars : List (String × Json) → List Char
  | [] => ['\x7d']
  | (n, v) :: ms =>
    ',' :: ' ' :: (quoteChars n.toList ++ ':' :: ' ' :: (chars v ++ memberChars ms))

end

/-- A value on one line. -/
def render (v : Json) : String := String.ofList v.chars

/-- The blank start of an indented line. -/
def margin (depth : Nat) : List Char := '\n' :: List.replicate (2 * depth) ' '

mutual

/-- A value over several lines, each level indented by two. -/
def indentedChars (depth : Nat) : Json → List Char
  | .arr (v :: vs) =>
    '[' :: (margin (depth + 1) ++ indentedChars (depth + 1) v ++ indentedItems depth vs)
  | .obj ((n, v) :: ms) =>
    '\x7b' :: (margin (depth + 1) ++ quoteChars n.toList ++ ':' :: ' ' ::
      (indentedChars (depth + 1) v ++ indentedMembers depth ms))
  | v => chars v

def indentedItems (depth : Nat) : List Json → List Char
  | [] => margin depth ++ [']']
  | v :: vs =>
    ',' :: (margin (depth + 1) ++ indentedChars (depth + 1) v ++ indentedItems depth vs)

def indentedMembers (depth : Nat) : List (String × Json) → List Char
  | [] => margin depth ++ ['\x7d']
  | (n, v) :: ms =>
    ',' :: (margin (depth + 1) ++ quoteChars n.toList ++ ':' :: ' ' ::
      (indentedChars (depth + 1) v ++ indentedMembers depth ms))

end

/-- A value over several lines. -/
def renderIndented (v : Json) : String := String.ofList (indentedChars 0 v)

end Json

end DomainAtlas
