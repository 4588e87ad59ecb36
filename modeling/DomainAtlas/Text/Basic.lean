import DomainAtlas.Text.CharSet

/-!
# Trimming, lines and parts of texts

Operations on texts as lists of characters: trimming, cutting into lines and at separators,
occurrence of one text in another. Each has its version on lists, about which laws are stated, and
one on strings.
-/
namespace DomainAtlas.Text

/-- Drops what satisfies `p` at both ends. -/
def trimBy (p : Char → Bool) (cs : List Char) : List Char :=
  ((cs.dropWhile p).reverse.dropWhile p).reverse

/-- Drops white space at both ends. -/
def strip (s : String) : String := String.ofList (trimBy isBlank s.toList)

/-- Drops a given character at both ends. -/
def stripChar (c : Char) (s : String) : String := String.ofList (trimBy (· == c) s.toList)

def stripCharLeft (c : Char) (s : String) : String := String.ofList (s.toList.dropWhile (· == c))

/-- Drops what satisfies `p` at the end. -/
def trimEndBy (p : Char → Bool) (cs : List Char) : List Char := (cs.reverse.dropWhile p).reverse

/-- Cuts a list of characters at every separator. The result is never empty. -/
def splitChars (sep : Char) : List Char → List (List Char)
  | [] => [[]]
  | c :: cs =>
    if c = sep then [] :: splitChars sep cs
    else
      match splitChars sep cs with
      | [] => [[c]]
      | part :: parts => (c :: part) :: parts

def split (sep : Char) (s : String) : List String := (splitChars sep s.toList).map String.ofList

/-- The lines of a list of characters, without their ends. A carriage return and a line feed
together end one line; a text that ends with a line end has no empty last line. -/
def lineChars : List Char → List Char → List (List Char)
  | [], [] => []
  | cur, [] => [cur.reverse]
  | cur, '\r' :: '\n' :: cs => cur.reverse :: lineChars [] cs
  | cur, c :: cs =>
    if isLineBreak c then cur.reverse :: lineChars [] cs else lineChars (c :: cur) cs

def lines (s : String) : List String := (lineChars [] s.toList).map String.ofList

/-- A carriage return, alone or before a line feed, becomes a line feed. -/
def unifyBreaksChars : List Char → List Char
  | [] => []
  | '\r' :: '\n' :: cs => '\n' :: unifyBreaksChars cs
  | c :: cs => (if c = '\r' then '\n' else c) :: unifyBreaksChars cs

/-- A text with unified line ends. -/
def unifyBreaks (s : String) : String := String.ofList (unifyBreaksChars s.toList)

def occursIn (needle : List Char) : List Char → Bool
  | [] => needle.isEmpty
  | c :: cs => needle.isPrefixOf (c :: cs) || occursIn needle cs

/-- Whether a text occurs in another; the empty text occurs in every text. -/
def contains (hay needle : String) : Bool := occursIn needle.toList hay.toList

/-- What follows `start` at the front of a list, if it stands there. -/
def dropStart? : List Char → List Char → Option (List Char)
  | [], cs => some cs
  | _ :: _, [] => none
  | p :: ps, c :: cs => if p = c then dropStart? ps cs else none

/-- Replaces every occurrence of a non-empty text, from left to right; `fuel` bounds the length. -/
def replaceChars (old new : List Char) : Nat → List Char → List Char
  | 0, cs => cs
  | _ + 1, [] => []
  | fuel + 1, c :: cs =>
    match dropStart? old (c :: cs) with
    | some rest => new ++ replaceChars old new fuel rest
    | none => c :: replaceChars old new fuel cs

/-- Replaces every occurrence of a non-empty text. -/
def replace (s old new : String) : String :=
  if old.isEmpty then s
  else String.ofList (replaceChars old.toList new.toList s.length s.toList)

def join (sep : String) (parts : List String) : String := sep.intercalate parts

def times (n : Nat) (s : String) : String := String.join (List.replicate n s)

def startsWith (s start : String) : Bool := start.toList.isPrefixOf s.toList

def endsWith (s tail : String) : Bool := tail.toList.reverse.isPrefixOf s.toList.reverse

/-- Order of texts by code points, as a test. -/
def le (a b : String) : Bool := decide (a ≤ b)

def sort (xs : List String) : List String := xs.mergeSort le

end DomainAtlas.Text
