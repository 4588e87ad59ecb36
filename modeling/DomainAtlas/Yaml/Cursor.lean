import DomainAtlas.Text.Literal
import DomainAtlas.Text.Basic

/-!
# Places in a YAML text

A `Cursor` is a place in a text together with what is left of it. Moving it forward keeps count of
characters, lines and columns, so that a fault can be reported where it is.

The text is expected to have unified line ends; past its end every look ahead sees a null character,
which no text contains.
-/
namespace DomainAtlas.Yaml

/-- A place: characters, lines and columns before it. -/
structure Mark where
  index : Nat
  line : Nat
  column : Nat
  deriving DecidableEq, Repr, Inhabited

/-- A place and the text from there on. -/
structure Cursor where
  rest : List Char
  mark : Mark
  deriving Repr

/-- Characters that end a line. -/
def isBreak (c : Char) : Bool := c == '\n' || c == '\x85' || c == '\u2028' || c == '\u2029'

def isBreakOrEnd (c : Char) : Bool := c == '\x00' || isBreak c

/-- Blanks, line ends and the end of the text. -/
def isSpaceOrEnd (c : Char) : Bool := c == ' ' || c == '\t' || isBreakOrEnd c

/-- Spaces, line ends and the end of the text, without tabs. -/
def isGapOrEnd (c : Char) : Bool := c == ' ' || isBreakOrEnd c

/-- Characters of names of anchors, directives and tag handles. -/
def isNameChar (c : Char) : Bool := c.isAlphanum || c == '-' || c == '_'

/-- The place after a character. A byte order mark takes no column. -/
def Mark.past (m : Mark) (c : Char) : Mark :=
  if isBreak c then ⟨m.index + 1, m.line + 1, 0⟩
  else if c = '\uFEFF' then { m with index := m.index + 1 }
  else { m with index := m.index + 1, column := m.column + 1 }

namespace Cursor

def ofChars (cs : List Char) : Cursor := ⟨cs, ⟨0, 0, 0⟩⟩

/-- The character some places ahead. -/
def peekAt (c : Cursor) (n : Nat) : Char := c.rest.getD n '\x00'

def peek (c : Cursor) : Char := c.peekAt 0

def forward (c : Cursor) : Nat → Cursor
  | 0 => c
  | n + 1 =>
    match c.rest with
    | [] => c
    | ch :: cs => forward ⟨cs, c.mark.past ch⟩ n

/-- The characters up to the first that fails a test. -/
def takeWhile (c : Cursor) (p : Char → Bool) : List Char := c.rest.takeWhile p

/-- Moves past all characters up to the first that fails a test. -/
def skipWhile (c : Cursor) (p : Char → Bool) : Cursor := c.forward (c.takeWhile p).length

/-- The characters up to the first that fails a test, and the place after them. -/
def span (c : Cursor) (p : Char → Bool) : List Char × Cursor := (c.takeWhile p, c.skipWhile p)

/-- What a line end counts as: itself for the two separators, a line feed otherwise. Nothing where
there is no line end. -/
def lineBreak (c : Cursor) : List Char × Cursor :=
  let ch := c.peek
  if ch = '\u2028' ∨ ch = '\u2029' then ([ch], c.forward 1)
  else if isBreak ch then (['\n'], c.forward 1)
  else ([], c)

/-- Whether a line of three given characters, alone, starts here. -/
def standsAlone (c : Cursor) (ch : Char) : Bool :=
  c.rest.take 3 == [ch, ch, ch] && isSpaceOrEnd (c.peekAt 3)

/-- Whether the mark of a start or an end of a document stands here. -/
def atSeparator (c : Cursor) : Bool := c.standsAlone '-' || c.standsAlone '.'

/-- Moves past a comment, up to the end of its line. -/
def skipComment (c : Cursor) : Cursor :=
  if c.peek = '#' then c.skipWhile fun ch => !isBreakOrEnd ch else c

def skipSpaces (c : Cursor) : Cursor := c.skipWhile (· == ' ')

end Cursor

end DomainAtlas.Yaml
