import DomainAtlas.Syntax.Source
import DomainAtlas.Text.CharSet

/-!
# Tokens of scripts

The lexer turns a JavaScript or TypeScript source into tokens. Each token knows whether a line ends
between it and the token before, comments included, since that decides where a statement without a
semicolon ends. A template is an opening and a closing token around the code of its expressions, so
that brackets pair up.
-/
namespace DomainAtlas.Script

open DomainAtlas.Syntax

inductive TokenKind where
  | comment
  | name
  | number
  | string
  | regex
  | punct
  | templateOpen
  | templateClose
  /-- What cannot be read, such as a string without an end. -/
  | fault
  deriving DecidableEq, Repr

structure Token where
  kind : TokenKind
  text : String
  start : Nat
  /-- Whether a line ends between the token before and this one. -/
  onNewLine : Bool
  deriving DecidableEq, Repr

def isNameStart (c : Char) : Bool := c.isAlpha || c == '_' || c == '$' || c == '#' || 128 ≤ c.toNat

def isNameChar (c : Char) : Bool := isNameStart c || c.isDigit

def isSpace (c : Char) : Bool := Text.isBlank c || c.toNat == 0xFEFF || c.toNat == 0x200B || c.toNat == 0x2060

/-- Characters that end a line for a line comment. -/
def endsLine (c : Char) : Bool := c == '\n' || c == '\r' || c.toNat == 0x2028 || c.toNat == 0x2029

/-- Punctuation of more than one character, longest first. -/
def longPuncts : List String :=
  [">>>=", "...", "===", "!==", "**=", "<<=", ">>>", ">>=", "&&=", "||=", "??=", "=>", "==", "!=",
    "<=", ">=", "&&", "||", "??", "?.", "++", "--", "+=", "-=", "*=", "/=", "%=", "&=", "|=", "^=",
    "**", "<<", ">>"]

/-- Words after which an operand is still to come. -/
def openWords : List String :=
  ["return", "typeof", "instanceof", "in", "of", "new", "delete", "void", "throw", "case", "do", "else",
    "yield", "await", "default", "extends", "export", "import", "const", "let", "var", "as", "satisfies",
    "keyof", "from"]

/-- Whether an operand may end with a token. -/
def endsOperand (t : Token) : Bool :=
  match t.kind with
  | .comment => false
  | .name => !openWords.contains t.text
  | .punct => [")", "]", "\x7d", "++", "--", "!"].contains t.text
  | .templateOpen => false
  | _ => true

/-- Whether a slash after the given token starts a regular expression. -/
def allowsRegex (prev : Option Token) (onNewLine : Bool) : Bool :=
  match prev with
  | none => true
  | some p => if p.kind == .punct && p.text == "\x7d" then onNewLine else !endsOperand p

/-- A string literal after its opening quote; none if the line ends before it does. -/
def stringRest (quote : Char) : List Glyph → List Glyph → Option (List Glyph) × List Glyph
  | acc, [] => (none, acc.reverse)
  | acc, [g] =>
    if g.char = quote then (some (g :: acc).reverse, []) else (none, (g :: acc).reverse)
  | acc, g :: h :: rest =>
    if g.char = quote then (some (g :: acc).reverse, h :: rest)
    else if g.char = '\n' ∨ g.char = '\r' then (none, acc.reverse)
    else if g.char = '\\' then stringRest quote (h :: g :: acc) rest
    else stringRest quote (g :: acc) (h :: rest)

/-- The rest of a regular expression after its opening slash; none if the line ends before it. -/
def regexRest : Bool → List Glyph → List Glyph → Option (List Glyph)
  | _, _, [] => none
  | inSet, acc, [g] => if g.char = '/' ∧ !inSet then some (g :: acc).reverse else none
  | inSet, acc, g :: h :: rest =>
    if endsLine g.char then none
    else if g.char = '\\' then
      if endsLine h.char then none else regexRest inSet (h :: g :: acc) rest
    else if g.char = '/' ∧ !inSet then some (g :: acc).reverse
    else
      let inSet := if g.char = '[' then true else if g.char = ']' then false else inSet
      regexRest inSet (g :: acc) (h :: rest)

/-- A comment between marks after its opening mark; none if it has no end. -/
def blockRest : List Glyph → List Glyph → Option (List Glyph)
  | _, [] => none
  | _, [_] => none
  | acc, g :: h :: rest =>
    if g.char = '*' ∧ h.char = '/' then some (h :: g :: acc).reverse
    else blockRest (g :: acc) (h :: rest)

/-- The number of characters of a template up to its end, an expression or an escape. -/
def templateRun : List Glyph → Nat
  | [] => 0
  | [g] => if g.char = Char.ofNat 96 then 0 else 1
  | g :: h :: rest =>
    if g.char = Char.ofNat 96 then 0
    else if g.char = '$' ∧ h.char = '\x7b' then 0
    else if g.char = '\\' then 2 + templateRun rest
    else 1 + templateRun (h :: rest)

/-- What the lexer is inside of. -/
inductive Mode where
  | code
  | template
  deriving DecidableEq, Repr

/-- Reads tokens. `prev` is the last token that is no comment, `line` says whether a line has ended
since the last token; `fuel` bounds the number of steps. -/
def lex : Nat → List Mode → Option Token → Bool → Nat → List Glyph → List Token
  | 0, _, _, _, _, _ => []
  | _ + 1, _, _, _, _, [] => []
  | fuel + 1, modes, prev, line, pos, g :: gs =>
    let all := g :: gs
    let after (n : Nat) : Nat := pos + widthOf (all.take n)
    let emit (k : TokenKind) (n : Nat) (modes : List Mode) : List Token :=
      let t : Token := ⟨k, textOf (all.take n), pos, line⟩
      t :: lex fuel modes (if k == .comment then prev else some t) false (after n) (all.drop n)
    match modes with
    | .template :: below =>
      if g.char = Char.ofNat 96 then emit .templateClose 1 below
      else if startsWith all "$\x7b" then emit .punct 2 (.code :: modes)
      else
        let n := max 1 (templateRun all)
        lex fuel modes prev line (after n) (all.drop n)
    | _ =>
      if isSpace g.char then
        lex fuel modes prev (line || g.char = '\n') (after 1) gs
      else if startsWith all "//" then
        emit .comment (spanChars (fun c => !endsLine c) all).1.length modes
      else if startsWith all "/*" then
        match blockRest [] (all.drop 2) with
        | some c => emit .comment (c.length + 2) modes
        | none => emit .fault all.length modes
      else if startsWith all "<!--" ∨ (startsWith all "-->" ∧ (line ∨ prev.isNone)) ∨
          (startsWith all "#!" ∧ pos = 0) then
        let n := (spanChars (fun c => !endsLine c) all).1.length
        lex fuel modes prev line (after n) (all.drop n)
      else if g.char = '"' ∨ g.char = '\'' then
        match stringRest g.char [] gs with
        | (some s, _) => emit .string (s.length + 1) modes
        | (none, lost) => emit .fault (lost.length + 1) modes
      else if g.char = Char.ofNat 96 then emit .templateOpen 1 (.template :: modes)
      else if g.char = '/' ∧ allowsRegex prev line then
        match regexRest false [] gs with
        | some r =>
          let flags := (spanChars isNameChar (all.drop (r.length + 1))).1.length
          emit .regex (r.length + 1 + flags) modes
        | none => emit .punct 1 modes
      else if isNameStart g.char then emit .name (spanChars isNameChar all).1.length modes
      else if g.char.isDigit then
        emit .number (spanChars (fun c => isNameChar c || c == '.') all).1.length modes
      else if g.char = '\x7b' then emit .punct 1 (.code :: modes)
      else if g.char = '\x7d' then emit .punct 1 (if modes.length ≤ 1 then modes else modes.drop 1)
      else
        match longPuncts.find? (startsWith all) with
        | some p => emit .punct p.length modes
        | none => emit .punct 1 modes

def tokens (bytes : ByteArray) : List Token :=
  let gs := glyphs bytes
  lex (gs.length + 1) [.code] none false 0 gs

end DomainAtlas.Script
