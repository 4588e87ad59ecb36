import DomainAtlas.Text.Utf8

/-!
# Source bytes as characters

A lexer reads a source as characters that remember how many bytes they take, so that places are
counted in bytes. Bytes that are no character count as U+FFFD.
-/
namespace DomainAtlas.Syntax

/-- A character and the number of bytes it takes. -/
structure Glyph where
  char : Char
  width : Nat
  deriving DecidableEq, Repr

def glyphs (bytes : ByteArray) : List Glyph :=
  match String.fromUTF8? bytes with
  | some s => s.toList.map fun c => ⟨c, c.utf8Size⟩
  | none => (Text.pieces 0 bytes.toList).map fun
    | (_, .char c w) => ⟨c, w⟩
    | (_, .bad w _) => ⟨'\ufffd', w⟩

/-- The number of bytes some characters take. -/
def widthOf (gs : List Glyph) : Nat := (gs.map Glyph.width).foldl (· + ·) 0

/-- The text of the bytes from one place up to another. -/
def slice (bytes : ByteArray) (start stop : Nat) : String :=
  Text.decodeLossy (bytes.extract start stop)

def startsWith (gs : List Glyph) (s : String) : Bool :=
  s.toList.isPrefixOf (gs.map Glyph.char |>.take s.length)

/-- The longest front whose characters satisfy `p`, and the rest. -/
def spanChars (p : Char → Bool) (gs : List Glyph) : List Glyph × List Glyph :=
  gs.span fun g => p g.char

def textOf (gs : List Glyph) : String := String.ofList (gs.map Glyph.char)

end DomainAtlas.Syntax
