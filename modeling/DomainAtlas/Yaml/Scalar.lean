import DomainAtlas.Yaml.Tag

/-!
# Texts of scalars

A scalar is written plainly, between quotes, or as a block below a bar or an angle bracket. In all
of them line ends are folded: a single one counts as a space, further ones are kept. A block below a
bar keeps all of them.
-/
namespace DomainAtlas.Yaml

/-- What a folded line end with the breaks after it stands for. -/
def foldBreak (first : List Char) (more : List Char) : List Char :=
  if first ≠ ['\n'] then first ++ more else if more.isEmpty then [' '] else more

/-! ## Plain scalars -/

/-- Whether a plain scalar goes on with the character at a place of the text. -/
def plainGoesOn (inFlow : Bool) (c : Char) (next : Char) : Bool :=
  if isSpaceOrEnd c then false
  else if c = ':' then
    !(isSpaceOrEnd next || (inFlow && ",[]\x7b\x7d".toList.contains next))
  else !(inFlow && ",?[]\x7b\x7d".toList.contains c)

/-- The longest run of a plain scalar at the front of a text. -/
def plainRun (inFlow : Bool) : List Char → List Char
  | [] => []
  | c :: cs => if plainGoesOn inFlow c (cs.headD '\x00') then c :: plainRun inFlow cs else []

/-- Reads the breaks after the first line end inside a plain scalar; none when the mark of a
document comes first. `fuel` bounds the text. -/
def plainBreaks : Nat → Cursor → Option (List Char) × Cursor
  | 0, c => (some [], c)
  | fuel + 1, c =>
    if c.peek = ' ' then plainBreaks fuel (c.forward 1)
    else if isBreak c.peek then
      let (b, after) := c.lineBreak
      if after.atSeparator then (none, after)
      else
        let (bs, last) := plainBreaks fuel after
        (bs.map fun bs => b ++ bs, last)
    else (some [], c)

/-- The gap after a run of a plain scalar: what it stands for, whether a line end was in it, and the
place after it. Nothing when there is no gap, or when a document ends or starts in it. -/
def plainGap (c : Cursor) : List Char × Bool × Cursor :=
  let (spaces, after) := c.span (· == ' ')
  if isBreak after.peek then
    let (b, next) := after.lineBreak
    if next.atSeparator then ([], true, next)
    else
      match plainBreaks (next.rest.length + 1) next with
      | (some bs, last) => (foldBreak b bs, true, last)
      | (none, last) => ([], true, last)
  else (spaces, false, after)

/-- What reading a plain scalar leads to. -/
structure PlainRead where
  text : List Char
  stop : Mark
  after : Cursor
  /-- Whether a key may come next because the scalar ended at a line end. -/
  atLineEnd : Bool

/-- Reads the runs of a plain scalar, the first of which follows the given gap; `fuel` bounds the
text. -/
def plainRuns (inFlow : Bool) (indent : Int) :
    Nat → (gap : List Char) → (stop : Mark) → (atLineEnd : Bool) → Cursor → PlainRead
  | 0, _, stop, atLineEnd, c => ⟨[], stop, c, atLineEnd⟩
  | fuel + 1, gap, stop, atLineEnd, c =>
    let run := if c.peek = '#' then [] else plainRun inFlow c.rest
    if run.isEmpty then ⟨[], stop, c, atLineEnd⟩
    else
      let ended := c.forward run.length
      let (next, broke, after) := plainGap ended
      if next.isEmpty ∨ after.peek = '#' ∨ (!inFlow ∧ after.mark.column < indent) then
        ⟨gap ++ run, ended.mark, after, broke⟩
      else
        let r := plainRuns inFlow indent fuel next ended.mark broke after
        { r with text := gap ++ run ++ r.text }

/-- Reads a plain scalar inside a block of the given indentation. -/
def scanPlain (inFlow : Bool) (indent : Int) (c : Cursor) : Token × Bool × Cursor :=
  let r := plainRuns inFlow (indent + 1) (c.rest.length + 1) [] c.mark false c
  (⟨.scalar (String.ofList r.text) true, c.mark, r.stop⟩, r.atLineEnd, r.after)

/-! ## Quoted scalars -/

/-- Characters written with a backslash and one character. -/
def shortEscape? (c : Char) : Option Char :=
  [('0', '\x00'), ('a', '\x07'), ('b', '\x08'), ('t', '\t'), ('\t', '\t'), ('n', '\n'),
    ('v', '\x0b'), ('f', '\x0c'), ('r', '\r'), ('e', '\x1b'), (' ', ' '), ('"', '"'),
    ('\\', '\\'), ('/', '/'), ('N', '\x85'), ('_', '\u00a0'), ('L', '\u2028'),
    ('P', '\u2029')].lookup c

/-- How many digits follow a backslash and this letter. -/
def escapeDigits? (c : Char) : Option Nat := [('x', 2), ('u', 4), ('U', 8)].lookup c

/-- The value of hexadecimal digits, or the first character that is none. -/
def hexRun (c : Cursor) (n : Nat) : Except Char Nat :=
  (List.range n).foldl (fun acc k =>
    match acc, Text.hexDigit? (c.peekAt k) with
    | .ok v, some d => .ok (16 * v + d)
    | .ok _, none => .error (c.peekAt k)
    | .error e, _ => .error e) (.ok 0)

/-- Breaks after the first line end inside a quoted scalar; `fuel` bounds the text. -/
def quotedBreaks (start : Mark) : Nat → Cursor → Scan (List Char)
  | 0, c => .ok ([], c)
  | fuel + 1, c =>
    if c.atSeparator then
      .error (.during "while scanning a quoted scalar" start "found unexpected document separator"
        c.mark)
    else
      let after := c.skipWhile fun ch => ch == ' ' || ch == '\t'
      if isBreak after.peek then
        let (b, next) := after.lineBreak
        match quotedBreaks start fuel next with
        | .error f => .error f
        | .ok (bs, last) => .ok (b ++ bs, last)
      else .ok ([], after)

def scanEscape (start : Mark) (c : Cursor) : Scan (List Char) :=
  let context := "while scanning a double-quoted scalar"
  match shortEscape? c.peek with
  | some ch => .ok ([ch], c.forward 1)
  | none =>
    match escapeDigits? c.peek with
    | some n =>
      let digits := c.forward 1
      match hexRun digits n with
      | .ok code =>
        if 0x110000 ≤ code then .error (.value (.codePoint code))
        else if 0xD800 ≤ code ∧ code ≤ 0xDFFF then .error (.unheld .halfPair)
        else .ok ([Char.ofNat code], digits.forward n)
      | .error bad =>
        .error (.during context start (s!"expected escape sequence of {n} hexadecimal numbers, " ++
          "but found " ++ Text.literal (String.singleton bad)) digits.mark)
    | none =>
      if isBreak c.peek then quotedBreaks start (c.rest.length + 1) c.lineBreak.2
      else
        .error (.during context start ("found unknown escape character " ++
          Text.literal (String.singleton c.peek)) c.mark)

/-- Characters that end a run inside quotes. -/
def endsQuotedRun (c : Char) : Bool := isSpaceOrEnd c || c == '\'' || c == '"' || c == '\\'

/-- Reads up to the next gap or the closing quote; `fuel` bounds the text. -/
def quotedWord (double : Bool) (start : Mark) : Nat → Cursor → Scan (List Char)
  | 0, c => .ok ([], c)
  | fuel + 1, c =>
    let (run, here) := c.span fun ch => !endsQuotedRun ch
    let ch := here.peek
    let goOn (piece : List Char) (next : Cursor) : Scan (List Char) :=
      match quotedWord double start fuel next with
      | .error f => .error f
      | .ok (more, last) => .ok (run ++ piece ++ more, last)
    if !double ∧ ch = '\'' ∧ here.peekAt 1 = '\'' then goOn ['\''] (here.forward 2)
    else if (double ∧ ch = '\'') ∨ (!double ∧ (ch = '"' ∨ ch = '\\')) then
      goOn [ch] (here.forward 1)
    else if double ∧ ch = '\\' then
      match scanEscape start (here.forward 1) with
      | .error f => .error f
      | .ok (piece, next) => goOn piece next
    else .ok (run, here)

def quotedGap (start : Mark) (c : Cursor) : Scan (List Char) :=
  let (spaces, after) := c.span fun ch => ch == ' ' || ch == '\t'
  if after.peek = '\x00' then
    .error (.during "while scanning a quoted scalar" start "found unexpected end of stream"
      after.mark)
  else if isBreak after.peek then
    let (b, next) := after.lineBreak
    match quotedBreaks start (next.rest.length + 1) next with
    | .error f => .error f
    | .ok (bs, last) => .ok (foldBreak b bs, last)
  else .ok (spaces, after)

/-- Reads words and gaps up to the closing quote; `fuel` bounds the text. -/
def quotedRest (quote : Char) (start : Mark) : Nat → Cursor → Scan (List Char)
  | 0, c => .ok ([], c)
  | fuel + 1, c =>
    if c.peek = quote then .ok ([], c.forward 1)
    else
      match quotedGap start c with
      | .error f => .error f
      | .ok (gap, after) =>
        match quotedWord (quote == '"') start (after.rest.length + 1) after with
        | .error f => .error f
        | .ok (word, next) =>
          match quotedRest quote start fuel next with
          | .error f => .error f
          | .ok (more, last) => .ok (gap ++ word ++ more, last)

def scanQuoted (c : Cursor) : Scan Token :=
  let quote := c.peek
  let inner := c.forward 1
  match quotedWord (quote == '"') c.mark (inner.rest.length + 1) inner with
  | .error f => .error f
  | .ok (word, next) =>
    match quotedRest quote c.mark (next.rest.length + 1) next with
    | .error f => .error f
    | .ok (more, last) => .ok (⟨.scalar (String.ofList (word ++ more)) false, c.mark, last.mark⟩, last)

/-! ## Block scalars -/

/-- What a block scalar does with the line ends at its end. -/
inductive Chomping where
  | clip
  | strip
  | keep
  deriving DecidableEq, Repr

/-- Reads a sign for the line ends at the end. -/
def chomping? (c : Cursor) : Option (Chomping × Cursor) :=
  if c.peek = '+' then some (.keep, c.forward 1)
  else if c.peek = '-' then some (.strip, c.forward 1)
  else none

/-- Reads a digit for the indentation. -/
def increment? (start : Mark) (c : Cursor) : Scan (Option Nat) :=
  if c.peek = '0' then
    .error (.during "while scanning a block scalar" start
      "expected indentation indicator in the range 1-9, but found 0" c.mark)
  else if c.peek.isDigit then .ok (some (c.peek.toNat - 48), c.forward 1)
  else .ok (none, c)

/-- Reads what follows the bar: a sign and a digit in either order. -/
def blockHeader (start : Mark) (c : Cursor) : Scan (Chomping × Option Nat) :=
  let done (ch : Chomping) (n : Option Nat) (after : Cursor) : Scan (Chomping × Option Nat) :=
    if isGapOrEnd after.peek then .ok ((ch, n), after)
    else .error (.found "while scanning a block scalar" start
      "expected chomping or indentation indicators" after)
  match chomping? c with
  | some (ch, after) =>
    match increment? start after with
    | .error f => .error f
    | .ok (n, after) => done ch n after
  | none =>
    match increment? start c with
    | .error f => .error f
    | .ok (none, after) => done .clip none after
    | .ok (some n, after) =>
      match chomping? after with
      | some (ch, after) => done ch (some n) after
      | none => done .clip (some n) after

/-- Reads empty lines to find the indentation of a block: the breaks, the deepest column, the place
after the last break and the place after them all. `fuel` bounds the text. -/
def blockIndentation : Nat → (deepest : Nat) → (stop : Mark) → Cursor →
    List Char × Nat × Mark × Cursor
  | 0, deepest, stop, c => ([], deepest, stop, c)
  | fuel + 1, deepest, stop, c =>
    if c.peek = ' ' then
      let after := c.forward 1
      blockIndentation fuel (max deepest after.mark.column) stop after
    else if isBreak c.peek then
      let (b, after) := c.lineBreak
      let (bs, d, s, last) := blockIndentation fuel deepest after.mark after
      (b ++ bs, d, s, last)
    else ([], deepest, stop, c)

/-- Moves past spaces up to a column. -/
def skipTo (indent : Nat) (c : Cursor) : Cursor :=
  c.forward (min (indent - c.mark.column) (c.takeWhile (· == ' ')).length)

/-- Reads the empty lines of a block; `stop` is the place after the last of them. `fuel` bounds the
text. -/
def blockBreaks (indent : Nat) : Nat → (stop : Mark) → Cursor → List Char × Mark × Cursor
  | 0, stop, c => ([], stop, c)
  | fuel + 1, stop, c =>
    let here := skipTo indent c
    if isBreak here.peek then
      let (b, after) := here.lineBreak
      let (bs, s, last) := blockBreaks indent fuel after.mark after
      (b ++ bs, s, last)
    else ([], stop, here)

/-- The lines of a block: its text up to the last line, the end of that line, the breaks after it
and the place. `fuel` bounds the text. -/
def blockLines (folded : Bool) (indent : Nat) :
    Nat → (breaks : List Char) → Cursor → List Char × List Char × List Char × Mark × Cursor
  | 0, breaks, c => ([], [], breaks, c.mark, c)
  | fuel + 1, breaks, c =>
    let startsText := !(c.peek == ' ' || c.peek == '\t')
    let (line, ended) := c.span fun ch => !isBreakOrEnd ch
    let (b, after) := ended.lineBreak
    let (bs, stop, next) := blockBreaks indent (after.rest.length + 1) after.mark after
    if next.mark.column = indent ∧ next.peek ≠ '\x00' then
      let folds := folded && b == ['\n'] && startsText && !(next.peek == ' ' || next.peek == '\t')
      let glue := if !folds then b else if bs.isEmpty then [' '] else []
      let (more, lastBreak, lastBreaks, s, last) := blockLines folded indent fuel bs next
      (breaks ++ line ++ glue ++ more, lastBreak, lastBreaks, s, last)
    else (breaks ++ line, b, bs, stop, next)

/-- Reads a block scalar inside a block of the given indentation. -/
def scanBlock (indent : Int) (c : Cursor) : Scan Token :=
  let folded := c.peek == '>'
  match blockHeader c.mark (c.forward 1) with
  | .error f => .error f
  | .ok ((chomp, increment), after) =>
    match skipLine "while scanning a block scalar" c.mark after with
    | .error f => .error f
    | .ok body =>
      let least := (max 1 (indent + 1)).toNat
      let fuel := body.rest.length + 2
      let (width, breaks, stop, first) := match increment with
        | some n =>
          let w := least + n - 1
          let (bs, stop, next) := blockBreaks w fuel body.mark body
          (w, bs, stop, next)
        | none =>
          let (bs, deepest, stop, next) := blockIndentation fuel 0 body.mark body
          (max least deepest, bs, stop, next)
      let (text, lastBreak, tail, stop, last) :=
        if first.mark.column = width ∧ first.peek ≠ '\x00' then blockLines folded width fuel breaks first
        else ([], [], breaks, stop, first)
      let ending := match chomp with
        | .strip => []
        | .clip => lastBreak
        | .keep => lastBreak ++ tail
      .ok (⟨.scalar (String.ofList (text ++ ending)) false, c.mark, stop⟩, last)

end DomainAtlas.Yaml
