import DomainAtlas.Text.Basic
import DomainAtlas.Text.Literal

/-!
# Ignore patterns

One line of an ignore file, such as `/src/**/*.js` or `!build/`, is compiled into a sequence of
atoms that is matched against a path from the left. A path is matched when the atoms match it
whole, or match one of the directories it lies in; in the second case the match is *by directory*.

A pattern without a slash, or with one at its end only, matches at any depth; any other pattern is
bound to the root. Two stars stand for any number of directories.
-/
namespace DomainAtlas.Glob

/-- A set of characters in brackets. -/
structure Bracket where
  negated : Bool
  /-- Ranges of code points, both ends included. -/
  ranges : List (Nat × Nat)
  deriving DecidableEq, Repr

def Bracket.admits (b : Bracket) (c : Char) : Bool :=
  (b.ranges.any fun r => r.1 ≤ c.toNat && c.toNat ≤ r.2) != b.negated

/-- What a pattern is made of. -/
inductive Atom where
  /-- This character. -/
  | char (c : Char)
  /-- Any one character of a name. -/
  | one
  /-- Any part of a name. -/
  | many
  /-- A whole name. -/
  | name
  | bracket (b : Bracket)
  /-- Any number of directories, each with its slash, at the front. -/
  | leadingDirs
  /-- Any number of directories, each after its slash. -/
  | innerDirs
  | slash
  /-- A slash; what follows lies below a directory the pattern asked for. -/
  | below
  /-- The end of the path, or the slash after a directory. -/
  | close
  deriving DecidableEq, Repr

/-- What remains to be matched: the rest of the path, with the answer whether the match is by
directory, or none. -/
abbrev Rest := List Char → Option Bool

/-- The longest part of a name first, then shorter ones. -/
def matchMany (k : Rest) : Rest
  | [] => k []
  | c :: cs => if c = '/' then k (c :: cs) else (matchMany k cs).orElse fun _ => k (c :: cs)

/-- The longest run of whole directories first. `seen` says whether a character has been passed. -/
def matchLeading (k : Rest) : Bool → Rest
  | _, [] => none
  | seen, c :: cs =>
    if c = '\n' then none
    else (matchLeading k true cs).orElse fun _ => if c = '/' ∧ seen then k cs else none

/-- The longest run of characters first; at least one. -/
def matchInner (k : Rest) : Bool → Rest
  | seen, [] => if seen then k [] else none
  | seen, c :: cs =>
    let here (_ : Unit) := if seen then k (c :: cs) else none
    if c = '\n' then here () else (matchInner k true cs).orElse here

/-- Matches one atom and then the rest. -/
def Atom.run (k : Rest) : Atom → Rest
  | .char d, c :: cs => if c = d then k cs else none
  | .one, c :: cs => if c = '/' then none else k cs
  | .many, cs => matchMany k cs
  | .name, c :: cs => if c = '/' then none else matchMany k cs
  | .bracket b, c :: cs => if b.admits c then k cs else none
  | .leadingDirs, cs => (matchLeading k false cs).orElse fun _ => k cs
  | .innerDirs, '/' :: cs => (matchInner k false cs).orElse fun _ => k ('/' :: cs)
  | .innerDirs, cs => k cs
  | .slash, '/' :: cs => k cs
  | .below, '/' :: _ => some true
  | .close, '/' :: _ => some true
  | .close, [] => some false
  | .close, ['\n'] => some false
  | _, _ => none

/-- Matches a sequence of atoms. A sequence that ends without `close` asks for no more. -/
def runAtoms : List Atom → Rest
  | [], _ => some false
  | a :: as, cs => a.run (runAtoms as) cs

/-- A compiled pattern. -/
inductive Shape where
  /-- Every path. -/
  | everything
  /-- Every path that lies in a directory; `byDir` says whether that counts as a match by
  directory. -/
  | anyBelow (byDir : Bool)
  | atoms (as : List Atom)
  deriving DecidableEq, Repr

/-- Matches a path: none, or whether the match is by directory. -/
def Shape.run : Shape → List Char → Option Bool
  | .everything, cs => if cs.any (· ≠ '\n') then some false else none
  | .anyBelow byDir, cs => if cs.contains '/' then some byDir else none
  | .atoms as, cs => runAtoms as cs

/-- A compiled line. -/
structure Rule where
  /-- Whether matched paths are taken in or, for a negated line, taken out again. -/
  takes : Bool
  shape : Shape
  deriving DecidableEq, Repr

inductive PatternFault where
  /-- The line ends with an escape, or says nothing. -/
  | invalid (line : String)
  /-- A range in brackets runs backwards; the place counts the characters of the expression the
  line stands for. -/
  | badRange (low high : String) (place : Nat)
  deriving DecidableEq, Repr

def PatternFault.message : PatternFault → String
  | .invalid line => "Invalid git pattern: " ++ Text.literal line
  | .badRange low high place => s!"bad character range {low}-{high} at position {place}"

/-! ## Reading a segment -/

/-- Characters written with an escape in an expression. -/
def isSpecial (c : Char) : Bool :=
  "()[]\x7b\x7d?*+-|^$\\.&~# \t\n\r".toList.contains c || c.toNat == 11 || c.toNat == 12

def charWidth (c : Char) : Nat := if isSpecial c then 2 else 1

/-- A character in brackets, as it is written in an expression. -/
def bracketToken (c : Char) : String := if c = '\\' then "\\\\" else String.singleton c

/-- The ranges of a bracket's inner characters; `place` counts the expression's characters. A dash
at the end stands for itself. -/
def bracketRanges : Nat → List Char → Except (String × String × Nat) (List (Nat × Nat))
  | _, [] => .ok []
  | place, c :: '-' :: d :: cs =>
    if d.toNat < c.toNat then .error (bracketToken c, bracketToken d, place)
    else
      let width := (bracketToken c).length + 1 + (bracketToken d).length
      (bracketRanges (place + width) cs).map ((c.toNat, d.toNat) :: ·)
  | place, c :: cs =>
    (bracketRanges (place + (bracketToken c).length) cs).map ((c.toNat, c.toNat) :: ·)

/-- The text of a bracket up to its closing one, and what follows. A closing bracket right at the
start belongs to the text. -/
def bracketBody? (cs : List Char) : Option (List Char × List Char) :=
  let (first, rest) := match cs with
    | ']' :: rest => ([']'], rest)
    | rest => ([], rest)
  match rest.dropWhile (· ≠ ']') with
  | ']' :: after => some (first ++ rest.takeWhile (· ≠ ']'), after)
  | _ => none

inductive SegmentFault where
  | danglingEscape
  | badRange (low high : String) (place : Nat)

/-- Puts an atom before the atoms read after it. -/
def precede (a : Atom) (r : Except SegmentFault (List Atom × Nat)) :
    Except SegmentFault (List Atom × Nat) :=
  r.map fun (as, place) => (a :: as, place)

/-- Reads a segment of a pattern. `place` counts the characters of the expression so far, and the
result says how many there are after the segment; `fuel` bounds the length of the segment. -/
def segmentAtoms : Nat → Nat → List Char → Except SegmentFault (List Atom × Nat)
  | 0, place, _ => .ok ([], place)
  | _ + 1, place, [] => .ok ([], place)
  | _ + 1, _, ['\\'] => .error .danglingEscape
  | fuel + 1, place, '\\' :: c :: cs => precede (.char c) (segmentAtoms fuel (place + charWidth c) cs)
  | fuel + 1, place, '*' :: cs => precede .many (segmentAtoms fuel (place + 5) cs)
  | fuel + 1, place, '?' :: cs => precede .one (segmentAtoms fuel (place + 4) cs)
  | fuel + 1, place, '[' :: cs =>
    let (negated, body) := match cs with
      | '!' :: rest => (true, rest)
      | '^' :: rest => (true, rest)
      | rest => (false, rest)
    match bracketBody? body with
    | none => precede (.char '[') (segmentAtoms fuel (place + 2) cs)
    | some (inner, after) =>
      let start := place + (if negated then 2 else 1)
      match bracketRanges start inner with
      | .error (low, high, at') => .error (.badRange low high at')
      | .ok ranges =>
        let width := (inner.map fun c => (bracketToken c).length).foldl (· + ·) 1
        precede (.bracket ⟨negated, ranges⟩) (segmentAtoms fuel (start + width) after)
  | fuel + 1, place, c :: cs => precede (.char c) (segmentAtoms fuel (place + charWidth c) cs)

/-! ## Reading a line -/

def stars : List Char := ['*', '*']

/-- Drops a segment of two stars after another one. -/
def collapse : List (List Char) → List (List Char)
  | a :: b :: rest => if a = stars ∧ b = stars then collapse (b :: rest) else a :: collapse (b :: rest)
  | segs => segs

/-- The segments of a pattern in a form in which the first one is bound to the root. -/
def normalSegments (segs : List (List Char)) : List (List Char) :=
  let bound := match segs with
    | [] :: rest => rest
    | [s] => if s = stars then [s] else [stars, s]
    | [s, []] => if s = stars then [s, []] else [stars, s, []]
    | other => other
  let closed := match bound.reverse with
    | [] :: rest => (stars :: rest).reverse
    | _ => bound
  collapse closed

/-- The atoms of the segments after `started` ones. `slash` says whether the next name needs a
slash before it. -/
def segmentsAtoms (isDir : Bool) : Bool → Bool → Nat → List (List Char) →
    Except SegmentFault (List Atom)
  | _, _, _, [] => .ok []
  | first, slash, place, seg :: rest =>
    if seg = stars then
      if first then (segmentsAtoms isDir false false (place + 9) rest).map (.leadingDirs :: ·)
      else if rest.isEmpty then .ok [if isDir then .below else .slash]
      else (segmentsAtoms isDir false true (place + 8) rest).map (.innerDirs :: ·)
    else
      let place := place + (if first then 1 else 0) + (if slash then 1 else 0)
      let body : Except SegmentFault (List Atom × Nat) :=
        if seg = ['*'] then .ok ([.name], place + 5) else segmentAtoms (seg.length + 1) place seg
      match body with
      | .error e => .error e
      | .ok (atoms, place) =>
        let lead := if slash then [Atom.slash] else []
        if rest.isEmpty then .ok (lead ++ atoms ++ [.close])
        else
          (segmentsAtoms isDir false true place rest).map fun more => lead ++ atoms ++ more

def shapeOf (isDir : Bool) (segs : List (List Char)) : Except SegmentFault Shape :=
  if segs = [stars] then .ok (if isDir then .anyBelow true else .everything)
  else if segs = [stars, ['*']] then .ok .everything
  else if segs = [stars, ['*'], stars] then .ok (.anyBelow isDir)
  else (segmentsAtoms isDir true false 0 segs).map .atoms

/-- A line without the blanks at its end, unless the last of them is escaped. -/
def trimLine (line : String) : List Char :=
  if Text.endsWith line "\\ " then line.toList else Text.trimEndBy Text.isBlank line.toList

/-- Compiles a line. Blank lines, comments and a single slash say nothing. -/
def compile (line : String) : Except PatternFault (Option Rule) :=
  let cs := trimLine line
  if cs = [] ∨ cs.head? = some '#' ∨ cs = ['/'] then .ok none
  else
    let (take, body) := match cs with
      | '!' :: rest => (false, rest)
      | rest => (true, rest)
    if body = ['/'] then .ok none
    else
      let segs := Text.splitChars '/' body
      let isDir := segs.getLast? = some []
      let normal := normalSegments segs
      if normal = [] then .error (.invalid line)
      else
        match shapeOf isDir normal with
        | .ok shape => .ok (some ⟨take, shape⟩)
        | .error .danglingEscape => .error (.invalid line)
        | .error (.badRange low high place) => .error (.badRange low high place)

end DomainAtlas.Glob
