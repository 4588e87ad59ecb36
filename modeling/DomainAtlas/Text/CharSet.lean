/-!
# Sets of characters

A set of characters is stored as the sorted list of the code points at which membership changes:
a character belongs to the set when an odd number of these lie at or below it. The larger sets
are written down as gaps between neighbouring changes, in hexadecimal.

The sets here are properties of the Unicode Standard, version 14: characters a quoted literal has
to escape, letters and numbers, decimal digits, and the two exceptional display widths.
-/
namespace DomainAtlas.Text

def hexDigit? (c : Char) : Option Nat :=
  let n := c.toNat
  if 48 ≤ n ∧ n ≤ 57 then some (n - 48)
  else if 97 ≤ n ∧ n ≤ 102 then some (n - 87)
  else if 65 ≤ n ∧ n ≤ 70 then some (n - 55)
  else none

/-- The value of a run of hexadecimal digits; other characters count as zero. -/
def hexValue (s : String) : Nat :=
  s.toList.foldl (fun acc c => acc * 16 + (hexDigit? c).getD 0) 0

def partialSums : Nat → List Nat → List Nat
  | _, [] => []
  | acc, n :: ns => (acc + n) :: partialSums (acc + n) ns

/-- A set of characters, as the code points at which membership changes. -/
structure CharSet where
  changes : List Nat

/-- Reads the gaps between changes. -/
def CharSet.ofGaps (lines : List String) : CharSet :=
  ⟨partialSums 0 (lines.flatMap fun l => (l.splitOn " ").map hexValue)⟩

/-- Membership among changes: each one at or below the code point flips it. -/
def memberOf : List Nat → Nat → Bool → Bool
  | [], _, inside => inside
  | b :: bs, n, inside => if n < b then inside else memberOf bs n (!inside)

def CharSet.contains (s : CharSet) (c : Char) : Bool := memberOf s.changes c.toNat false

/-- Characters that a quoted literal shows by their code: controls, formats, separators other than
the space, private and unassigned code points. -/
def unprintable : CharSet := .ofGaps [
  "0 20 5f 22 c 1 2ca 2 6 4 7 1 1 1 14 1 18d 1 26 2 32 2 3 1 37 8 1b 4 6 11 16 1 c0 1 30 2 3b 2",
  "65 e 3b 2 31 2 f 1 1c 2 1 1 b 5 1f 9 4a 1 a1 1 8 2 2 2 16 1 7 1 1 3 4 2 9 2 2 2 4 8 1 4 2 1",
  "5 2 19 2 3 1 6 4 2 2 16 1 7 1 2 1 2 1 2 2 1 1 5 4 2 2 3 3 1 7 4 1 1 7 11 a 3 1 9 1 3 1 16 1",
  "7 1 2 1 5 2 a 1 3 1 3 2 1 f 4 2 c 7 7 1 3 1 8 2 2 2 16 1 7 1 2 1 5 2 9 2 2 2 3 7 3 4 2 1 5 2",
  "12 a 2 1 6 3 3 1 4 3 2 1 1 1 2 3 2 3 3 3 c 4 5 3 3 1 4 2 1 6 1 e 15 5 d 1 3 1 17 1 10 2 9 1",
  "3 1 4 7 2 1 3 2 1 2 4 2 a 7 16 1 3 1 17 1 a 1 5 2 9 1 3 1 4 7 2 6 2 1 4 2 a 1 2 d d 1 3 1 33",
  "1 3 1 6 4 10 2 1a 1 3 1 12 3 18 1 9 1 1 2 7 3 1 4 6 1 1 1 8 6 a 2 3 c 3a 4 1d 25 2 1 1 1 5 1",
  "18 1 1 1 17 2 5 1 1 1 6 2 a 2 4 20 48 1 24 4 27 1 24 1 f 1 d 25 c6 1 1 5 1 2 179 1 4 2 7 1 1",
  "1 4 2 29 1 4 2 21 1 4 2 7 1 1 1 4 2 f 1 39 1 4 2 43 2 20 3 1a 6 56 2 6 2 280 1 1c 3 59 7 16",
  "9 18 9 14 c d 1 3 1 2 c 5e 2 a 6 a 6 e 1 b 6 59 7 2b 5 46 a 1f 1 c 4 c 4 1 3 2a 2 5 b 2c 4",
  "1a 6 b 3 3e 2 41 1 1d 2 b 6 a 6 e 2 1f 31 4d 3 2f 1 74 8 3c 3 f 3 3c 7 2b 2 b 8 2b 5 216 2 6",
  "2 26 2 6 2 8 1 1 1 1 1 1 1 1f 2 35 1 f 1 e 2 6 1 13 2 3 1 9 11 18 8 2f 11 2 2 1b 1 d 3 21 f",
  "21 f 8c 4 297 19 b 15 714 2 20 1 15d 5 2d 1 1 5 1 2 38 7 2 e 18 9 7 1 7 1 7 1 7 1 7 1 7 1 7",
  "1 7 1 7e 22 1a 1 59 c d6 1a c 5 3f 1 56 2 67 5 2b 1 5e 1 54 c 2f 1 726d 3 37 9 15c 14 b8 8",
  "cb 5 2 1 1 1 5 18 3b 3 a 6 38 8 46 8 c 6 74 b 1e 3 4e 1 b 4 21 1 37 9 e 2 a 2 67 18 1c a 6 2",
  "6 2 6 9 7 1 7 1 3c 4 7e 2 a 6 2ba4 c 17 4 31 2104 16e 2 6a 26 7 c 5 5 1a 1 5 1 1 1 2 1 2 1",
  "7d 10 1bd 2 36 7 1 20 2a 6 33 1 13 1 4 4 5 1 87 4 be 3 6 2 6 2 6 2 3 3 7 1 7 d 2 2 c 1 1a 1",
  "13 1 2 1 f 2 e 22 7b 5 3 4 2d 3 58 1 d 3 1 2f 2e 82 1d 3 31 f 1c 4 24 9 1e 5 2b 5 1e 1 25 4",
  "e 2a 9e 2 a 6 24 4 24 4 28 8 34 b c 1 f 1 7 1 2 1 b 1 f 1 7 1 2 43 137 9 16 a 8 18 6 1 2a 1",
  "9 45 6 2 1 1 2c 1 2 3 1 2 17 1 48 8 9 30 13 1 2 5 21 3 1b 5 1 40 38 4 14 2 32 1 2 5 8 1 3 1",
  "1d 2 3 4 a 7 9 7 40 20 27 4 c 9 36 3 1d 2 1b 5 1a 7 4 c 7 50 49 37 33 d 33 7 2e 8 a 126 1f 1",
  "2a 1 3 2 2 4e 28 8 2a 16 1a 26 1c 14 17 9 4e 4 24 9 3e 1 5 d 19 7 a 6 35 1 12 8 27 9 60 1 14",
  "b 12 1 2c 41 7 1 1 1 4 1 f 1 b 6 3b 5 a 6 4 1 8 2 2 2 16 1 7 1 2 1 5 1 a 2 2 2 3 2 1 6 1 5 7",
  "2 7 3 5 8b 5c 1 5 1e 48 8 a a6 36 2 26 22 45 b a 6 d 13 3a 6 a 36 1b 2 f 4 17 b9 3c 64 53 c",
  "8 2 1 2 8 1 2 1 1e 1 2 2 c 9 a 46 8 2 2e 2 b 1b 48 8 53 d 49 107 9 1 2d 1 e a 1d 3 20 2 16 1",
  "e 49 7 1 2 1 2c 3 1 1 2 1 9 8 a 6 6 1 2 1 25 1 2 1 6 7 a 136 19 b7 1 f 32 d 39b 66 6f 1 5 b",
  "c4 a4c 63 d 42f fd1 247 21b9 239 7 1f 1 a 4 51 1 a 6 1e 2 6 a 46 a a 1 7 1 15 5 13 2b0 5b 65",
  "4b 4 39 7 11 40 5 b 2 e 17f8 8 4d6 2a 9 22e7 4 1 7 1 2 1 123 2d 3 11 4 8 18c 904 6b 5 d 3 9",
  "7 a 2 4 1260 2e 2 17 9 74 3c f6 a 27 2 4a 8 70 15 46 9a 14 c 57 9 19 87 55 1 47 1 2 2 1 2 2",
  "2 4 1 c 1 1 1 7 1 41 1 4 2 8 1 7 1 1c 1 4 1 5 1 1 3 7 1 154 2 124 2 2be f 5 1 f 450 1f e1 7",
  "1 11 2 7 1 2 1 5 d5 2d 3 e 2 a 4 2 140 1f 11 3a 5 1 4e0 7 1 4 1 2 1 f 1 c5 2 10 29 4c 4 a 4",
  "2 311 44 4c 3d c2 4 1 1b 1 2 1 1 2 1 1 a 1 4 1 1 1 1 6 1 4 1 1 1 1 1 1 3 1 2 1 1 2 1 1 1 1 1",
  "1 1 1 1 1 2 1 1 2 4 1 7 1 4 1 4 1 1 1 a 1 11 5 3 1 5 1 11 34 2 10e 2c 4 64 c f 2 f 1 f 1 25",
  "a ae 38 1d d 2c 4 9 7 2 e 6 9a 3d8 5 10 3 d 3 74 c 59 7 c 4 1 f c 4 38 8 a 6 28 8 1e 2 2 4e",
  "154 c e 2 5 3 5 3 7 9 1d 3 b 5 6 a a 6 8 8 7 9 93 1 37 25 a 406 a6e0 20 1039 7 de 2 1682 e",
  "1d31 c1f 21e 5e2 134b aedb5 f0"]

/-- Letters and numbers of any script. -/
def alphanumeric : CharSet := .ofGaps [
  "30 a 7 1a 6 1a 2f 1 7 2 1 1 3 2 1 3 1 17 1 1f 1 1ca 4 c e 5 7 1 1 1 81 5 1 2 2 4 1 1 6 1 1 3",
  "1 1 1 14 1 53 1 8b 8 a6 1 26 2 1 6 29 47 1b 4 4 2d 2b 15 a 4 2 1 63 1 1 f 2 7 f 2 1 10 1 1",
  "1e 1d 59 b 1 e 2b 9 2 4 1 5 16 4 1 9 1 3 1 17 19 7 b 5 18 1 6 11 2a 3a 36 3 1 12 1 7 a 4 a 1",
  "10 4 8 2 2 2 16 1 7 1 1 3 4 3 1 10 1 d 2 1 3 4 c 2 6 2 1 8 6 4 2 2 16 1 7 1 2 1 2 1 2 1f 4 1",
  "1 7 a 2 3 10 9 1 3 1 16 1 7 1 2 1 5 3 1 12 1 f 2 4 a 9 1 b 8 2 2 2 16 1 7 1 2 1 5 3 1 1e 2 1",
  "3 4 a 1 7 b 1 1 6 3 3 1 4 3 2 1 1 1 2 3 2 3 3 3 c 16 1 15 d 12 8 1 3 1 17 1 10 3 1 1a 3 2 1",
  "2 2 4 a 8 7 1 1 4 8 1 3 1 17 1 a 1 5 3 1 1f 2 1 2 4 a 1 2 11 9 1 3 1 29 2 1 10 1 5 3 1 a 4",
  "13 1 6 5 12 3 18 1 9 1 1 2 7 1f a 11 30 1 2 c 7 9 a 27 2 1 1 1 5 1 18 1 1 1 a 1 2 9 1 2 5 1",
  "1 9 a 2 4 20 1 1f 14 c 8 1 24 1b 5 73 2b 14 b 6 6 4 4 3 1 3 2 7 3 4 d c 1 1 a 6 26 1 1 5 1 2",
  "2b 1 14d 1 4 2 7 1 1 1 4 2 29 1 4 2 21 1 4 2 7 1 1 1 4 2 f 1 39 1 4 2 43 e 14 3 10 10 56 2 6",
  "3 26c 2 11 1 1a 5 4b 3 b 7 12 d 13 e 12 e d 1 3 f 34 23 1 4 1 3 a 6 a 16 a 6 59 7 5 2 22 1 1",
  "5 46 a 1f 27 28 2 5 b 2c 4 1a 6 b 25 17 9 35 2b a 6 a d 1 5d 2f 11 8 3 a 29 1e d 38 1a 24 1c",
  "a 3 31 2 9 7 2b 2 3 29 4 1 6 1 2 3 1 5 c0 40 116 2 6 2 26 2 6 2 8 1 1 1 1 1 1 1 1f 2 35 1 7",
  "1 1 3 3 1 7 3 4 2 6 4 d 5 3 1 7 73 2 2 6 5 b 6 d 65 1 4 1 2 a 1 1 3 5 6 1 1 1 1 1 1 4 1 b 2",
  "4 5 5 4 1 1 3a 2d6 3c 4e 16 276 1e 46c e5 6 4 3 2 9 1 2 26 1 1 5 1 2 38 7 1 10 17 9 7 1 7 1",
  "7 1 7 1 7 1 7 1 7 1 7 50 1 1d5 3 19 9 7 5 2 5 4 56 6 3 1 5a 1 4 5 2b 1 5e 3 4 a 20 30 10 20",
  "a 1e 8 1 f 20 a 27 f 140 19c0 40 568d 43 2e 2 10d 3 1c 14 2f 10 1f 2 50 27 9 2 67 2 40 5 2 1",
  "1 1 5 18 10 1 3 1 4 1 17 d 6 a 34 e 32 1c a 18 6 3 1 1 2 1 26 a 17 19 1d 7 2f 1c b 6 5 1 19",
  "1 29 17 3 1 8 4 a 6 17 3 1 3 32 1 1 3 2 2 5 2 1 1 1 18 3 2 b 7 3 c 6 2 6 2 6 9 7 1 7 1 2b 1",
  "e 6 73 d a 6 2ba4 c 17 4 31 2104 16e 2 6a 26 7 c 5 5 1 1 a 1 d 1 5 1 1 1 2 1 2 1 6c 21 16b",
  "12 40 2 36 28 c 74 5 1 87 13 a 7 1a 6 1a b 59 3 6 2 6 2 6 2 3 23 c 1 1a 1 13 1 2 1 f 2 e 22",
  "7b c 2d c 39 11 2 f4 1d 3 31 10 1b 4 24 9 1e 5 26 a 1e 2 24 4 8 1 5 2a 9e 2 a 6 24 4 24 4 28",
  "8 34 c b 1 f 1 7 1 2 1 b 1 f 1 7 1 2 43 137 9 16 a 8 18 6 1 2a 1 9 45 6 2 1 1 2c 1 2 3 1 2",
  "17 2 1f 2 26 8 9 30 13 1 2 5 21 4 1a 46 38 4 14 2 2f f 4 1 3 1 1d a 9 17 1f 1 20 20 8 1 1c 6",
  "5 10 36 a 16 2 1b 5 1a 17 7 50 49 37 33 d 33 7 2a c a 126 1f 1 2a 6 2 4e 28 8 16 b 4 1b 12",
  "2e 1c 14 17 c 35 1a 1e 1 2 2 1 d 2d 20 19 7 a 9 24 f a 4 1 2 1 8 23 3 1 c 30 e 4 b b 1 1 4",
  "14 b 12 1 19 54 7 1 1 1 4 1 f 1 a 7 2f 11 a b 8 2 2 2 16 1 7 1 2 1 5 3 1 12 1 c 5 9e 35 12 4",
  "5 a 5 3 1e 30 14 2 1 1 8 a a6 2f 29 4 24 30 14 1 b a 26 2b d 1 7 a 36 1b 15 c 4 7 b9 2c 74",
  "53 c 8 2 1 2 8 1 2 1 18 f 1 1 1 e a 46 8 2 27 10 1 1 1 1c 1 a 28 7 1 15 1 b 2e 13 1 12 49",
  "107 9 1 25 11 1 f 1d 5 1e 70 7 1 2 1 26 15 1 9 a 6 6 1 2 1 20 e 1 7 a 136 13 bd 1 f 15 2b",
  "39a 66 6f 11 c4 a4c 61 f 42f fd1 247 21b9 239 7 1f 1 a 6 4f 1 a 6 1e 12 30 10 4 c a 1 7 1 15",
  "5 13 2b0 57 69 4b 5 1 42 d 40 2 1 1 1c 17f8 8 4d6 2a 9 22e7 4 1 7 1 2 1 123 2d 3 11 4 8 18c",
  "904 6b 5 d 3 9 7 a 1646 14 6c 19 87 55 1 47 1 2 2 1 2 2 2 4 1 c 1 1 1 7 1 41 1 4 2 8 1 7 1",
  "1c 1 4 1 5 1 1 3 7 1 154 2 19 1 19 1 1f 1 19 1 1f 1 19 1 1f 1 19 1 1f 1 19 1 8 2 32 700 1f",
  "1e1 2d a 7 2 a 4 1 141 1e 12 2c 4 a 4e6 7 1 4 1 2 1 f 1 c5 2 9 30 44 7 1 4 a 317 3b 1 3 1 4",
  "4c 2d 1 f c2 4 1 1b 1 2 1 1 2 1 1 a 1 4 1 1 1 1 6 1 4 1 1 1 1 1 1 3 1 2 1 1 2 1 1 1 1 1 1 1",
  "1 1 1 2 1 1 2 4 1 7 1 4 1 4 1 1 1 a 1 11 5 3 1 5 1 11 244 d ae3 a 406 a6e0 20 1039 7 de 2",
  "1682 e 1d31 c1f 21e 5e2 134b"]

def decimalDigit : CharSet := .ofGaps [
  "30 a 626 a 86 a c6 a 19c a 76 a 76 a 76 a 76 a 76 a 76 a 76 a 76 a 76 a 60 a 76 a 46 a 116 a",
  "46 a 746 a 26 a 12c a 80 a a6 a 6 a b6 a 56 a 86 a 6 a 89c6 a 2a6 a 26 a c6 a 16 a 56 a 196",
  "a 5316 a 586 a 886 a 32c a 80 a 3c a 90 a 116 a 156 a 76 a 176 a 66 a 66 a 1a6 a 66 a 2f6 a",
  "f6 a 46 a 4cb6 a 56 a 86 a 6c74 32 940 a 1a6 a 656 a 1296 a"]

/-- Characters two cells wide. -/
def wideChars : CharSet := .ofGaps [
  "1100 60 11ba 2 d 2 be 4 3 1 2 1 209 2 15 2 32 c 2b 1 13 1 d 1 8 2 11 2 5 2 8 1 5 1 15 1 7 2",
  "1 1 4 1 2 1 7 1 4 2 1c 1 23 1 1 1 4 3 1 1 3d 3 18 1 e 1 35b 2 33 1 4 1 32a 1bf 2 207 8 1b70",
  "40 56d0 490 20 280 2bb0 2150 200 310 10 10 40 91 60 7f 8 6ff8 4c20 3404 1 ca 2 bd 1 2 a 65",
  "121 c 9 1 46 1 16 c 2b 4 5 c 11 3 1 3 47 1 1 1 bb 2 3f d 4 1 18 12 1 1a 2 d 1 56 55 30 46 6",
  "1 3 3 2 b b 5 4 c e0 20 10c 2f 1 a 1 b9 70 90 500 c0001"]

/-- Characters that take no cell of their own. -/
def zeroWidthChars : CharSet := .ofGaps [
  "300 70 113 7 107 2d 1 1 1 2 1 2 1 9 30 6 a b 1 1 2e 15 10 1 65 8 1 6 2 2 1 4 21 1 1 1 1e 1d",
  "59 b 3a 9 9 1 18 4 1 9 1 3 1 7 29 5 32 10 2a 39 37 1 1 1 4 8 4 1 3 7 a 2 1d 1 3a 1 4 6 6 1",
  "14 4 18 5 39 2 3 18 17 2 3 1 b 2 39 1 4 8 4 3 12 4 14 8 3a 1 2 1 1 6 6 a b 4 1c 1 3d 1 c 3",
  "30 1 3 1 37 1 1 3 5 12 a 4 1b 1 3a 1 2 1 6 1 5 9 d 4 1a 2 39 2 4 5 7 1 14 4 1b 1 48 5 3 6 59",
  "1 2 b 8 8 62 1 2 9 b 8 48 2 1b 1 1 1 1 1 37 e 1 5 1 2 5 31 8 1 66 4 1 6 1 2 2 2 19 2 4 3 10",
  "4 d 1 2 2 6 1 f 1 c2 a0 15d 3 3b2 3 1d 2 1e e 12 e 34 2 1 7 8 1 2 b 9 3 2b 5 75 2 22 1 76 3",
  "4 2 9 1 6 7 d7 2 2 3 38 1 1 9 1 1 2 8 6 d 30 54 30 1 1 5 1 1 5 1 28 9 c 2 20 4 2 2 1 3 38 1",
  "1 2 3 1 1 3 3a 8 2 5 95 3 1 d 1 7 4 1 6 1 3 2 c6 40 20b 5 1a 5 31 10 60 30 bef 3 8d 1 60 20",
  "22a 4 6b 2 75d4 4 1 a 20 2 50 2 110 1 3 1 4 1 19 2 5 4 94 a 12 12 d 1 26 8 19 b 2e 3 30 1 2",
  "4 2 2 27 1 43 6 2 2 2 b 3 1 8 1 2f 1 33 1 1 3 2 2 5 2 1 1 2a 2 8 b e4 1 2 1 4 3 4f2e 1 2e1",
  "10 10 10 cf 2 f8 3 201 83 60 1 95 a 681 f 28 8 a5 6 239 c 17b 2 99 b 31 4 7b 1 36 f 29 1 2 2",
  "a 3 31 4 2 2 2 1 4 e 30 3 24 5 1 9 3d 1 c 2 34 9 a 4 2 1 5f 3 2 1 1 2 6 42 5f 1 3 d 10 2 39",
  "2 3 1 25 9a 38 8 2 3 1 1 17 1 54 6 1 1 4 2 1 2 ee 6 4 2 1 2 1b 24 33 8 2 1 1 2 6a 1 1 1 2 6",
  "1 1 65 3 2 4 1 9 ff 9 1 2 100 2 1 1 4 1 90 8 4 1 20 a 28 6 2 4 8 9 1 6 2 3 2e d 1 2 196 e 1",
  "1 52 17 1 7 1 2 1 4b 31 15 1 9 40 3 2 1 1 1 15b 2 153b fd0 26f0 5 3b 7 418 1 3f 4 51 c 4cad",
  "2 1 12b0 217 3 9 10 2 7 1e 4 94 3 7bb 37 4 32 8 1 e 1 16 465 100 100 30 7 177 12 2c 4 5e0 30",
  "44 7 c16b6 ffff"]

/-- White space: what is trimmed from the ends of a text and separates words. -/
def isBlank (c : Char) : Bool :=
  let n := c.toNat
  (9 ≤ n && n ≤ 13) || (28 ≤ n && n ≤ 32) || n == 0x85 || n == 0xA0 || n == 0x1680
    || (0x2000 ≤ n && n ≤ 0x200A) || n == 0x2028 || n == 0x2029 || n == 0x202F || n == 0x205F
    || n == 0x3000

def isLineBreak (c : Char) : Bool :=
  let n := c.toNat
  (10 ≤ n && n ≤ 13) || (28 ≤ n && n ≤ 30) || n == 0x85 || n == 0x2028 || n == 0x2029

/-- Whether a quoted literal may show the character as it is. -/
def isPrintable (c : Char) : Bool :=
  if c.toNat < 127 then 32 ≤ c.toNat else !unprintable.contains c

/-- Letters, numbers and the underscore. -/
def isWordChar (c : Char) : Bool :=
  if c.toNat < 128 then c.isAlphanum || c == '_' else alphanumeric.contains c

/-- Numbers that cannot stand in a name. -/
def outsideNames : CharSet := .ofGaps [
  "b2 2 5 1 2 3 2bb 1 679 6 178 6 78 3 85 7 d9 7 11 9 1b1 a 43e b 473 a 876 1 3 6 6 a c6 10 29 1",
  "2d6 3c 4e 16 276 1e 569 1 131 1 362 4 8a a 1e 8 1 f 20 a 27 f 7570 6 5428 6 196 2 74 1 1 1 1 1",
  "1 1 1 1 1 1 1 1 1 1 288 2d 41 4 11 2 155 1b 24 4 534 8 19 7 27 9 4b 5 16 6 a0 2 2 10 2 2e 40 9",
  "34 2 1e 3 4b 5 68 8 18 8 29 7 14a 6 160 1f 9e a 2a 4 70 7 86 14 17b 14 545 2 1ae 9 367 13 353",
  "15 4b86 7 31e 17 6449 14 6c 19 154e 9 3a1 3b 1 3 1 4 4c 2d 1 f 3c2 d"]

/-- Marks and joiners that can stand in a name behind its first character. -/
def insideNames : CharSet := .ofGaps [
  "b7 1 248 70 17 1 fb 5 109 2d 1 1 1 2 1 2 1 1 48 b 30 15 10 1 65 7 2 6 2 2 1 4 23 1 1e 1b 5b b",
  "3a 9 9 1 18 4 1 9 1 3 1 5 2b 3 3c 8 2a 18 1 21 36 3 1 12 1 7 a 2 1d 3 38 1 1 7 2 2 2 3 9 1 a 2",
  "1a 1 2 3 38 1 1 5 4 2 2 3 3 1 1e 2 3 1 b 3 38 1 1 8 1 3 1 3 14 2 16 6 1 3 38 1 1 7 2 2 2 3 7 3",
  "a 2 1e 1 3b 5 3 3 1 4 9 1 28 5 37 1 1 7 1 3 1 4 7 2 b 2 1d 3 38 1 1 7 1 3 1 4 7 2 b 2 1c 4 37 2",
  "1 7 1 3 1 4 9 1 a 2 1d 3 46 1 4 6 1 1 1 8 12 2 3d 1 2 7 c 8 62 1 2 9 b 6 4a 2 1b 1 1 1 1 1 4 2",
  "31 14 1 2 5 b 1 24 9 1 64 14 17 4 4 3 1 3 2 7 3 4 d c 1 1 a 4 2bf 3 3b2 4 1c 3 1d 2 1e 2 40 20",
  "9 1 2d 3 1 1 75 2 22 1 76 c 4 c db 5 39 a 1 1d 2 1 30 e 1 10 31 5 2f 11 26 9 c 3 1e d 38 e 30",
  "14 98 3 1 15 4 1 6 1 2 3 c6 40 23f 2 13 1 7b d 4 1 3 c 27 1 15 1 bc0 3 8d 1 60 20 22a 6 69 2",
  "75d4 1 4 a 20 2 50 2 110 1 3 1 4 1 17 5 4 1 53 2 32 12 1a 12 d 1 26 8 19 d 2c 4 2f e 24 1 43 e",
  "c 1 8 2 2d 3 32 1 1 3 2 2 5 2 1 1 29 5 5 2 ec 8 1 2 4f30 1 2e1 10 10 10 3 2 18 3 ef 1 2bd 1 e2",
  "1 95 5 686 3 1 2 5 4 28 3 4 1 a5 2 23d 4 183 2 99 b 31 4 7a 3 35 f 29 1 2 2 a 4 2d b 7 1 3d 3",
  "24 e 10 2 2c 1 c 3 30 e 8 4 1 2 5c c 6 1 a0 c 15 4 37 2 1 7 2 2 2 3 9 1 a 2 2 7 3 5 c0 12 17 1",
  "51 14 eb 7 2 9 1b 2 52 11 6a d 65 f 100 f f5 6 1 2 2 4 1 1 1 2 8d 7 2 7 3 1 1c a 28 7 1 4 8 1 9",
  "b 2e 10 195 8 1 8 52 16 1 e 7a 6 3 1 1 2 1 7 1 1 42 5 1 2 1 5 15b 4 4bf9 5 3b 7 418 1 1 37 7 4",
  "51 1 b 2 4cab 2 1261 2e 2 17 21e 5 3 6 8 8 2 7 1e 4 94 3 7bb 37 4 32 8 1 e 1 16 5 1 f 550 7 1",
  "11 2 7 1 2 1 5 105 7 177 1 3d 4 5e0 7 6d 7 c17b5 f0"]

/-- Letters and numbers that cannot start a name. -/
def behindNames : CharSet := .ofGaps [
  "b2 2 5 1 2 3 2bb 1 2e5 a 86 a c6 a 19c a 76 a 4 6 6c a 76 a 76 a 2 6 6e d 73 a 8 7 67 a 68 7 7",
  "13 6d a 43 1 1c a 59 1 1c a 46 14 10c a 46 a 2cf 14 463 a 6 a 16 a 12c a 80 b a5 a 6 a b6 a 56",
  "a 86 a 6 a 416 1 3 6 6 a c6 10 29 1 2d6 3c 4e 16 276 1e 569 1 131 1 362 4 8a a 1e 8 1 f 20 a 27",
  "f 7360 a 206 6 9a a 26 a c6 a 16 a 56 a 196 a 5064 6 196 2 74 1 1 1 1 1 1 1 1 1 1 1 1 1 1 1 91",
  "a 84 2 167 2d 41 4 11 2 155 1b 24 4 17c a 3ae 8 19 7 27 9 4b 5 16 6 a0 2 2 10 2 2e 40 9 34 2 1e",
  "3 4b 5 68 8 18 8 29 7 14a 6 30 a 126 1f 9e a 2a 4 70 7 86 1e 80 a 3c a 90 a 7 14 fb a 156 a 76",
  "a 176 a 66 a 66 c 1a4 13 5d a 2f6 1d e3 a 46 a 216 15 4a8b a 56 a 86 a 1 7 31e 17 6449 14 6c 19",
  "455 32 940 a 1a6 a 5cd 9 80 a 317 3b 1 3 1 4 4c 2d 1 f 3c2 d ae3 a"]

def startsName (c : Char) : Bool :=
  if c.toNat < 128 then c.isAlpha || c == '_'
  else [0x1885, 0x1886, 0x2118, 0x212E].contains c.toNat ||
    (alphanumeric.contains c && !behindNames.contains c)

/-- Whether a character can stand in a name. -/
def continuesName (c : Char) : Bool :=
  if c.toNat < 128 then c.isAlphanum || c == '_'
  else insideNames.contains c || (alphanumeric.contains c && !outsideNames.contains c)

def isDecimalDigit (c : Char) : Bool :=
  if c.toNat < 128 then c.isDigit else decimalDigit.contains c

/-- The number of terminal cells a character takes. -/
def cellWidth (c : Char) : Nat :=
  let n := c.toNat
  if n < 32 ∨ n = 127 then 0
  else if n < 0x300 then 1
  else if wideChars.contains c then 2
  else if zeroWidthChars.contains c then 0
  else 1

end DomainAtlas.Text
