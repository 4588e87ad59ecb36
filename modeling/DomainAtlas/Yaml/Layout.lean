import DomainAtlas.Yaml.Scalar

/-!
# From a text to tokens

`Layout` walks over a text and emits tokens. It keeps track of indentation, and of places that turn
out to be keys only when a colon follows on the same line: such a place is remembered as a `Candidate`
and the key token goes in front of it afterwards.

Tokens are asked for one at a time, so a fault further on in the text must not hide what is wrong
earlier. `Tokens.fault` is met only after all the tokens that could be given out before it.
-/
namespace DomainAtlas.Yaml

/-- A place that may be a key. -/
structure Candidate where
  /-- The number of the token it starts with. -/
  position : Nat
  /-- Whether something else than a key would be out of place. -/
  required : Bool
  mark : Mark
  deriving DecidableEq, Repr

/-- The state of the walk. -/
structure Layout where
  cursor : Cursor
  /-- How many brackets are open. -/
  depth : Nat
  /-- The column of the innermost block, and those of the blocks around it. -/
  indent : Int
  outer : List Int
  /-- Whether a key may come next. -/
  keyAllowed : Bool
  /-- The candidate of each depth. -/
  candidates : List (Nat × Candidate)
  /-- Tokens so far, the latest first. -/
  emitted : List Token
  /-- Tokens to be put in front of the token of a given number. -/
  keys : List (Nat × List Token)
  finished : Bool

namespace Layout

def start (cs : List Char) : Layout := ⟨.ofChars cs, 0, -1, [], true, [], [], [], false⟩

def column (l : Layout) : Nat := l.cursor.mark.column

def emit (l : Layout) (t : Token) : Layout := { l with emitted := t :: l.emitted }

/-- Emits a token of some characters at the place. -/
def emitChars (l : Layout) (kind : TokenKind) (n : Nat) : Layout :=
  let after := l.cursor.forward n
  { l.emit ⟨kind, l.cursor.mark, after.mark⟩ with cursor := after }

/-- The complaint about a candidate that had to be a key. -/
def noColon (k : Candidate) (place : Mark) : Fault :=
  .during "while scanning a simple key" k.mark "could not find expected ':'" place

/-- Whether a candidate is too far back to become a key. -/
def isStale (l : Layout) (k : Candidate) : Bool :=
  k.mark.line != l.cursor.mark.line || decide (1024 < l.cursor.mark.index - k.mark.index)

/-- Forgets candidates that are too far back. -/
def dropStale (l : Layout) : Except Fault Layout :=
  match l.candidates.find? fun k => l.isStale k.2 && k.2.required with
  | some k => .error (noColon k.2 l.cursor.mark)
  | none => .ok { l with candidates := l.candidates.filter fun k => !l.isStale k.2 }

/-- The candidate of the present depth. -/
def candidate? (l : Layout) : Option Candidate := l.candidates.lookup l.depth

/-- Forgets the candidate of the present depth. -/
def withoutCandidate (l : Layout) : Layout :=
  { l with candidates := l.candidates.filter fun k => k.1 != l.depth }

/-- Gives up the candidate of the present depth. -/
def dropCandidate (l : Layout) : Except Fault Layout :=
  match l.candidate? with
  | some k => if k.required then .error (noColon k l.cursor.mark) else .ok l.withoutCandidate
  | none => .ok l

/-- Remembers the place as a candidate, if a key may stand here. -/
def saveCandidate (l : Layout) : Except Fault Layout :=
  if !l.keyAllowed then .ok l
  else
    match l.dropCandidate with
    | .error f => .error f
    | .ok l =>
      let k : Candidate := ⟨l.emitted.length, l.depth == 0 && l.indent == l.column, l.cursor.mark⟩
      .ok { l with candidates := l.candidates ++ [(l.depth, k)] }

/-- Ends the blocks that are deeper than a column: the columns that are left and how many ended. -/
def closed (column : Int) : Int → List Int → Int × List Int × Nat
  | indent, [] => (indent, [], 0)
  | indent, i :: rest =>
    if indent ≤ column then (indent, i :: rest, 0)
    else
      let (j, left, n) := closed column i rest
      (j, left, n + 1)

/-- Emits the ends of the blocks that are deeper than a column. -/
def unwind (l : Layout) (column : Int) : Layout :=
  if l.depth ≠ 0 then l
  else
    let (indent, outer, n) := closed column l.indent l.outer
    { l with
      indent := indent
      outer := outer
      emitted := List.replicate n (Token.at .blockEnd l.cursor.mark) ++ l.emitted }

/-- Starts a block at a column, if it is deeper than the present one. -/
def deepen (l : Layout) (column : Nat) : Option Layout :=
  if l.indent < column then some { l with outer := l.indent :: l.outer, indent := column } else none

/-- Starts a block at the place, if it is deeper than the present one. -/
def openBlock (l : Layout) (kind : TokenKind) : Layout :=
  match l.deepen l.column with
  | some l => l.emit (.at kind l.cursor.mark)
  | none => l

/-- Moves to the next token, past spaces, comments and line ends; `fuel` bounds the text. -/
def skipGaps : Nat → Layout → Layout
  | 0, l => l
  | fuel + 1, l =>
    let here := l.cursor.skipSpaces.skipComment
    if isBreak here.peek then
      skipGaps fuel { l with cursor := here.lineBreak.2, keyAllowed := l.keyAllowed || l.depth == 0 }
    else { l with cursor := here }

/-- Moves to the next token; a byte order mark at the very start is passed over. -/
def toNext (l : Layout) : Layout :=
  let c := l.cursor
  let here := if c.mark.index = 0 ∧ c.peek = '\uFEFF' then c.forward 1 else c
  skipGaps (here.rest.length + 1) { l with cursor := here }

/-! ## The tokens -/

def streamEnd (l : Layout) : Except Fault Layout :=
  match (l.unwind (-1)).dropCandidate with
  | .error f => .error f
  | .ok l => .ok { l.emit (.at .streamEnd l.cursor.mark) with
      keyAllowed := false, candidates := [], finished := true }

def directive (l : Layout) : Except Fault Layout :=
  match (l.unwind (-1)).dropCandidate with
  | .error f => .error f
  | .ok l =>
    match scanDirective l.cursor with
    | .error f => .error f
    | .ok (t, after) => .ok { l.emit t with keyAllowed := false, cursor := after }

/-- The start or the end of a document. -/
def separator (l : Layout) (kind : TokenKind) : Except Fault Layout :=
  match (l.unwind (-1)).dropCandidate with
  | .error f => .error f
  | .ok l => .ok (emitChars { l with keyAllowed := false } kind 3)

/-- An opening bracket. -/
def openFlow (l : Layout) (kind : TokenKind) : Except Fault Layout :=
  match l.saveCandidate with
  | .error f => .error f
  | .ok l => .ok (emitChars { l with depth := l.depth + 1, keyAllowed := true } kind 1)

def closeFlow (l : Layout) (kind : TokenKind) : Except Fault Layout :=
  match l.dropCandidate with
  | .error f => .error f
  | .ok l => .ok (emitChars { l with depth := l.depth - 1, keyAllowed := false } kind 1)

def comma (l : Layout) : Except Fault Layout :=
  match l.dropCandidate with
  | .error f => .error f
  | .ok l => .ok (emitChars { l with keyAllowed := true } .comma 1)

/-- A dash. -/
def entry (l : Layout) : Except Fault Layout :=
  if l.depth = 0 ∧ !l.keyAllowed then
    .error (.plain "sequence entries are not allowed here" l.cursor.mark)
  else
    let l := if l.depth = 0 then l.openBlock .blockSequence else l
    match dropCandidate { l with keyAllowed := true } with
    | .error f => .error f
    | .ok l => .ok (l.emitChars .entry 1)

/-- A question mark. -/
def key (l : Layout) : Except Fault Layout :=
  if l.depth = 0 ∧ !l.keyAllowed then
    .error (.plain "mapping keys are not allowed here" l.cursor.mark)
  else
    let l := if l.depth = 0 then l.openBlock .blockMapping else l
    match dropCandidate { l with keyAllowed := l.depth == 0 } with
    | .error f => .error f
    | .ok l => .ok (l.emitChars .key 1)

/-- A colon after a candidate, which becomes a key. -/
def valueOf (l : Layout) (k : Candidate) : Layout :=
  let l := l.withoutCandidate
  let deeper := if l.depth = 0 then l.deepen k.mark.column else none
  let tokens := match deeper with
    | some _ => [Token.at .blockMapping k.mark, Token.at .key k.mark]
    | none => [Token.at .key k.mark]
  let l := deeper.getD l
  emitChars { l with keys := (k.position, tokens) :: l.keys, keyAllowed := false } .value 1

/-- A colon. -/
def value (l : Layout) : Except Fault Layout :=
  match l.candidate? with
  | some k => .ok (l.valueOf k)
  | none =>
    if l.depth = 0 ∧ !l.keyAllowed then
      .error (.plain "mapping values are not allowed here" l.cursor.mark)
    else
      let l := if l.depth = 0 then l.openBlock .blockMapping else l
      .ok (emitChars { l with keyAllowed := l.depth == 0 } .value 1)

/-- A token that may be a key, read by the given function. -/
def keyLike (l : Layout) (scan : Cursor → Scan Token) : Except Fault Layout :=
  match l.saveCandidate with
  | .error f => .error f
  | .ok l =>
    match scan l.cursor with
    | .error f => .error f
    | .ok (t, after) => .ok { l.emit t with keyAllowed := false, cursor := after }

def plain (l : Layout) : Except Fault Layout :=
  match l.saveCandidate with
  | .error f => .error f
  | .ok l =>
    let (t, atLineEnd, after) := scanPlain (l.depth != 0) l.indent l.cursor
    .ok { l.emit t with keyAllowed := atLineEnd, cursor := after }

def block (l : Layout) : Except Fault Layout :=
  match dropCandidate { l with keyAllowed := true } with
  | .error f => .error f
  | .ok l =>
    match scanBlock l.indent l.cursor with
    | .error f => .error f
    | .ok (t, after) => .ok { l.emit t with cursor := after }

/-- Characters that do not start a plain scalar by themselves. -/
def indicators : List Char := "-?:,[]\x7b\x7d#&*!|>'\"%@`".toList

def startsPlain (l : Layout) : Bool :=
  let ch := l.cursor.peek
  !(isSpaceOrEnd ch || indicators.contains ch) ||
    (!isSpaceOrEnd (l.cursor.peekAt 1) && (ch == '-' || (l.depth == 0 && (ch == '?' || ch == ':'))))

/-- Emits the token at the place. -/
def token (l : Layout) : Except Fault Layout :=
  let c := l.cursor
  let ch := c.peek
  let spaced := isSpaceOrEnd (c.peekAt 1)
  let inFlow := l.depth != 0
  if ch = '\x00' then l.streamEnd
  else if ch = '%' ∧ l.column = 0 then l.directive
  else if ch = '-' ∧ l.column = 0 ∧ c.standsAlone '-' then l.separator .documentStart
  else if ch = '.' ∧ l.column = 0 ∧ c.standsAlone '.' then l.separator .documentEnd
  else if ch = '[' then l.openFlow .openSequence
  else if ch = '\x7b' then l.openFlow .openMapping
  else if ch = ']' then l.closeFlow .closeSequence
  else if ch = '\x7d' then l.closeFlow .closeMapping
  else if ch = ',' then l.comma
  else if ch = '-' ∧ spaced then l.entry
  else if ch = '?' ∧ (inFlow ∨ spaced) then l.key
  else if ch = ':' ∧ (inFlow ∨ spaced) then l.value
  else if ch = '*' ∨ ch = '&' then l.keyLike scanAnchor
  else if ch = '!' then l.keyLike scanTag
  else if (ch = '|' ∨ ch = '>') ∧ !inFlow then l.block
  else if ch = '\'' ∨ ch = '"' then l.keyLike scanQuoted
  else if l.startsPlain then l.plain
  else
    .error (.marked (some "while scanning for the next token") none
      (s!"found character " ++ Text.literal (String.singleton ch) ++ " that cannot start any token")
      c.mark)

/-- Moves to the next token and emits it. -/
def step (l : Layout) : Except Fault Layout := do
  let l ← l.toNext.dropStale
  let l ← (l.unwind l.column).token
  l.dropStale

/-- The number of the first token that cannot be given out yet, since it may get a key in front. -/
def settled (l : Layout) : Nat :=
  (l.candidates.map fun k => k.2.position).foldl min l.emitted.length

/-- Walks to the end of the text, or to the first fault, and then says how many tokens could be
given out before it. `fuel` bounds the text. -/
def run : Nat → Layout → Layout × Option (Nat × Fault)
  | 0, l => (l, none)
  | fuel + 1, l =>
    if l.finished then (l, none)
    else
      match l.step with
      | .ok next => run fuel next
      | .error f => (l, some (l.settled, f))

/-- The tokens in order, keys put in their places. -/
def linear (keys : List (Nat × List Token)) : Nat → List Token → List Token
  | _, [] => []
  | n, t :: ts => (keys.lookup n).getD [] ++ t :: linear keys (n + 1) ts

end Layout

/-- The tokens of a text, up to a fault. -/
structure Tokens where
  list : List Token
  fault : Option Fault
  deriving Repr

def Tokens.ofChars (cs : List Char) : Tokens :=
  match (Layout.start cs).run (cs.length + 2) with
  | (l, none) => ⟨Layout.linear l.keys 0 l.emitted.reverse, none⟩
  | (l, some (n, f)) => ⟨Layout.linear l.keys 0 (l.emitted.reverse.take n), some f⟩

/-- How deep the collections of some tokens stand in one another; `here` is where they start. -/
def nesting (here : Nat) : List Token → Nat
  | [] => here
  | t :: ts =>
    match t.kind.turn with
    | .opens => nesting (here + 1) ts
    | .closes => max here (nesting (here - 1) ts)
    | .stays => nesting here ts

end DomainAtlas.Yaml
