import DomainAtlas.Syntax.Source
import DomainAtlas.Text.Basic

/-!
# Tokens of PHP

The lexer turns a source into tokens, each with the bytes it covers. Text outside the tags is
skipped. A string is a run of tokens of its own: an opening, pieces of content, the code of
interpolated expressions, and a closing; so the brackets of an interpolated expression pair up like
all others.
-/
namespace DomainAtlas.Php

open DomainAtlas.Syntax

/-- Kinds of string literals. -/
inductive Quote where
  | single
  | double
  | shell
  | heredoc
  deriving DecidableEq, Repr

inductive TokenKind where
  | openTag
  | closeTag
  | comment
  | name
  | variable
  | number
  | punct
  | stringOpen (q : Quote)
  | stringClose
  | content
  /-- What cannot be read, such as the rest of a string without an end. -/
  | fault
  deriving DecidableEq, Repr

/-- A token and the bytes it covers. -/
structure Token where
  kind : TokenKind
  text : String
  start : Nat
  stop : Nat
  deriving DecidableEq, Repr

def isNameStart (c : Char) : Bool := c.isAlpha || c == '_' || 128 ≤ c.toNat

def isNameChar (c : Char) : Bool := isNameStart c || c.isDigit

def isSpace (c : Char) : Bool :=
  c == ' ' || c == '\t' || c == '\n' || c == '\r' || c.toNat == 11 || c.toNat == 12 ||
    c.toNat == 0xA0 || c.toNat == 0x200B || c.toNat == 0x2060 || c.toNat == 0xFEFF

/-- What the lexer is inside of. -/
inductive Mode where
  | html
  | code
  | double
  | shell
  /-- A heredoc with its closing word; `raw` ones have no interpolation. The word only closes it
  at the start of a line. -/
  | heredoc (word : String) (raw atLine : Bool)
  /-- Right after a variable in a string: an index or a member may follow. -/
  | member
  deriving DecidableEq, Repr

/-- Punctuation of more than one character, longest first. -/
def longPuncts : List String :=
  ["<<<", "?->", "<=>", "**=", "...", "<<=", ">>=", "===", "!==", "??=", "->", "=>", "::", "==",
    "!=", "<>", "<=", ">=", "&&", "||", "??", "++", "--", "+=", "-=", "*=", "/=", ".=", "%=", "&=",
    "|=", "^=", "<<", ">>", "**", "#["]

/-- The end of a comment that runs to the end of its line or up to a closing tag. -/
def lineComment : List Glyph → List Glyph → List Glyph × List Glyph
  | acc, [] => (acc.reverse, [])
  | acc, g :: gs =>
    if g.char = '\n' ∨ g.char = '\r' then (acc.reverse, g :: gs)
    else if g.char = '?' then
      match gs with
      | [] => (acc.reverse, [g])
      | h :: more =>
        if h.char = '>' then (acc.reverse, g :: gs)
        else if h.char = '\n' then ((h :: g :: acc).reverse, more)
        else if h.char = '\r' then
          match more with
          | l :: rest => if l.char = '\n' then ((l :: h :: g :: acc).reverse, rest) else (acc.reverse, g :: gs)
          | [] => (acc.reverse, g :: gs)
        else lineComment (h :: g :: acc) more
    else lineComment (g :: acc) gs

/-- The end of a comment between marks; none if it has no end. -/
def blockComment : List Glyph → List Glyph → Option (List Glyph × List Glyph)
  | _, [] => none
  | acc, g :: gs =>
    match g.char, gs with
    | '*', h :: more =>
      if h.char = '/' then some ((h :: g :: acc).reverse, more) else blockComment (g :: acc) gs
    | _, _ => blockComment (g :: acc) gs

/-- A comment at the front of the characters: its characters and the rest. -/
def comment? (gs : List Glyph) : Option (Option (List Glyph × List Glyph)) :=
  match gs with
  | a :: b :: rest =>
    if a.char = '/' ∧ b.char = '/' then some (some (lineComment [b, a] rest))
    else if a.char = '/' ∧ b.char = '*' then some (blockComment [b, a] rest)
    else if a.char = '#' ∧ b.char ≠ '[' then
      if b.char = '?' ∨ b.char = '\n' ∨ b.char = '\r' then some (some ([a], b :: rest))
      else some (some (lineComment [b, a] rest))
    else none
  | [a] => if a.char = '#' then some (some ([a], [])) else none
  | [] => none

/-- Whether the characters after a backslash make an escape in a string with interpolation, and how
many characters it takes after the backslash. -/
def escapeLength (gs : List Glyph) : Option Nat :=
  match gs with
  | [] => none
  | g :: rest =>
    let c := g.char
    if "nrtvef\\$\"".toList.contains c then some 1
    else if c = 'x' then
      let n := (spanChars (fun c => (Text.hexDigit? c).isSome) rest).1.length
      if n = 0 then none else some (1 + min n 2)
    else if c = 'u' then
      match rest with
      | o :: more =>
        let (ds, after) := spanChars (fun c => (Text.hexDigit? c).isSome) more
        match after with
        | e :: _ =>
          if o.char = '\x7b' ∧ !ds.isEmpty ∧ e.char = '\x7d' then some (3 + ds.length) else none
        | [] => none
      | [] => none
    else if '0' ≤ c ∧ c ≤ '7' then
      some (min 3 (spanChars (fun c => decide ('0' ≤ c ∧ c ≤ '7')) gs).1.length)
    else none

/-- The closing word of a heredoc at the start of a line: the blanks before it, and what is left
after it. -/
def closesHeredoc? (word : String) (gs : List Glyph) : Option (List Glyph × List Glyph) :=
  let (blanks, rest) := spanChars (fun c => c == ' ' || c == '\t') gs
  if startsWith rest word then
    let after := rest.drop word.length
    if (after.head?.map fun g => isNameChar g.char).getD false then none
    else some (blanks ++ rest.take word.length, after)
  else none

/-- What stands where the content of a string could go on. -/
inductive ContentStep where
  /-- Characters of content. -/
  | take (n : Nat)
  /-- An escape of so many characters. -/
  | escape (n : Nat)
  /-- The code of an interpolated expression. -/
  | code
  | variable
  | close

/-- Looks at the front of the rest of a string with interpolation. -/
def contentStep (quote : Option Char) (gs : List Glyph) : ContentStep :=
  match gs with
  | [] => .close
  | g :: rest =>
    if quote = some g.char then .close
    else if g.char = '\\' then
      match rest with
      | [] => .take 1
      | h :: _ =>
        if h.char = '\x7b' then .take 2
        else
          match escapeLength rest with
          | some n => .escape (n + 1)
          | none => if h.char = 'u' then .escape 2 else .take 1
    else if g.char = '$' then
      match rest with
      | h :: _ =>
        if isNameStart h.char then .variable else if h.char = '\x7b' then .code else .take 1
      | [] => .take 1
    else if g.char = '\x7b' then
      match rest with
      | h :: _ => if h.char = '$' then .code else .take 1
      | [] => .take 1
    else .take 1

/-- The content at the front of the rest of a string: as much as goes on without a break. In a
heredoc it also stops before the line of the closing word. -/
def contentRun (quote : Option Char) (word : Option String) : Nat → List Glyph → List Glyph →
    List Glyph × List Glyph
  | 0, acc, gs => (acc.reverse, gs)
  | fuel + 1, acc, gs =>
    match contentStep quote gs with
    | .take n =>
      let taken := gs.take n
      let rest := gs.drop n
      let acc := taken.reverse ++ acc
      let atLine := (taken.getLast?.map fun g => g.char == '\n').getD false
      match word with
      | some w =>
        if atLine && (closesHeredoc? w rest).isSome then (acc.reverse, rest)
        else contentRun quote word fuel acc rest
      | none => contentRun quote word fuel acc rest
    | _ => (acc.reverse, gs)

/-- Puts the characters read so far, latest first, before the pieces after them. -/
def flushContent (acc : List Glyph) (more : List (Bool × List Glyph)) : List (Bool × List Glyph) :=
  if acc.isEmpty then more else (true, acc.reverse) :: more

/-- The pieces of a string in single quotes after the opening one: contents and escapes, as
(is content, characters); none if it has no end. -/
def singlePieces : List Glyph → List Glyph → Option (List (Bool × List Glyph) × List Glyph)
  | _, [] => none
  | acc, [g] => if g.char = '\'' then some (flushContent acc [], []) else none
  | acc, g :: h :: rest =>
    if g.char = '\'' then some (flushContent acc [], h :: rest)
    else if g.char = '\\' ∧ (h.char = '\\' ∨ h.char = '\'') then
      (singlePieces [] rest).map fun (ps, r) => (flushContent acc ((false, [g, h]) :: ps), r)
    else singlePieces (g :: acc) (h :: rest)

/-- The head of a heredoc after the three angles: its word, whether it is raw, and the rest after
the line. -/
def heredocHead? (gs : List Glyph) : Option (String × Bool × List Glyph × List Glyph) :=
  let (blanks, rest) := spanChars (fun c => c == ' ' || c == '\t') gs
  let quote := (rest.head?.map Glyph.char).filter fun c => c = '"' ∨ c = '\''
  let body := if quote.isSome then rest.drop 1 else rest
  let (word, after) := spanChars isNameChar body
  let closed := match quote, after with
    | none, _ => some after
    | some q, h :: more => if h.char = q then some more else none
    | some _, [] => none
  match closed with
  | none => none
  | some after =>
    if word.isEmpty ∨ !((word.head?.map fun g => isNameStart g.char).getD false) then none
    else
      let (eol, after) := spanChars (· == '\r') after
      match after with
      | n :: more =>
        if n.char = '\n' then
          let taken := blanks.length + word.length + (if quote.isSome then 2 else 0) + eol.length + 1
          some (textOf word, quote = some '\'', gs.take taken, more)
        else none
      | [] => none

def tokenAt (k : TokenKind) (at' : Nat) (gs : List Glyph) : Token :=
  ⟨k, textOf gs, at', at' + widthOf gs⟩

/-- Reads tokens. `modes` is the stack of what the lexer is inside of; `fuel` bounds the number of
steps. -/
def lex : Nat → List Mode → Nat → List Glyph → List Token
  | 0, _, _, _ => []
  | _ + 1, _, _, [] => []
  | fuel + 1, modes, pos, g :: gs =>
    let all := g :: gs
    let emit (k : TokenKind) (n : Nat) (modes : List Mode) : List Token :=
      let taken := all.take n
      tokenAt k pos taken :: lex fuel modes (pos + widthOf taken) (all.drop n)
    let skip (n : Nat) (modes : List Mode) : List Token :=
      lex fuel modes (pos + widthOf (all.take n)) (all.drop n)
    let lost : List Token := [tokenAt .fault pos all]
    match modes with
    | [] => []
    | .html :: below =>
      if startsWith all "<?=" then emit .openTag 3 (.code :: below)
      else if startsWith all "<?" then
        let word := ((all.drop 2).take 3).map fun h => h.char.toLower
        emit .openTag (if word = ['p', 'h', 'p'] then 5 else 2) (.code :: below)
      else skip 1 modes
    | .double :: below =>
      if g.char = '"' then emit .stringClose 1 below else inString fuel (some '"') none modes pos all
    | .shell :: below =>
      if g.char = Char.ofNat 96 then emit .stringClose 1 below
      else inString fuel (some (Char.ofNat 96)) none modes pos all
    | .heredoc word raw atLine :: below =>
      match if atLine then closesHeredoc? word all else none with
      | some (taken, _) => emit .stringClose taken.length below
      | none =>
        if raw then
          let (run, _) := rawRun word all.length [] all
          emit .content (max 1 run.length) (.heredoc word raw true :: below)
        else inString fuel none (some word) modes pos all
    | .member :: below =>
      if startsWith all "->" ∧ ((all.drop 2).head?.map fun h => isNameStart h.char).getD false then
        let n := 2 + (spanChars isNameChar (all.drop 2)).1.length
        skip n below
      else if startsWith all "?->" ∧ ((all.drop 3).head?.map fun h => isNameStart h.char).getD false then
        let n := 3 + (spanChars isNameChar (all.drop 3)).1.length
        skip n below
      else if g.char = '[' then
        let n := (spanChars (· ≠ ']') all).1.length + 1
        skip n below
      else lex fuel below pos all
    | .code :: below =>
      if isSpace g.char then skip 1 modes
      else if startsWith all "?>" then emit .closeTag 2 (.html :: below)
      else
        match comment? all with
        | some (some (c, _)) => emit .comment c.length modes
        | some none => lost
        | none =>
          let quoteAt := if g.char = 'b' ∨ g.char = 'B' then 1 else 0
          match all.drop quoteAt with
          | q :: rest =>
            if q.char = '\'' then
              match singlePieces [] rest with
              | none => lost
              | some (ps, after) =>
                let opened := tokenAt (.stringOpen .single) pos (all.take (quoteAt + 1))
                let (at', toks) := ps.foldl (fun (p, acc) (isContent, cs) =>
                  (p + widthOf cs, if isContent then tokenAt .content p cs :: acc else acc))
                  (opened.stop, [])
                opened :: toks.reverse ++ ⟨.stringClose, "'", at', at' + 1⟩ ::
                  lex fuel modes (at' + 1) after
            else if q.char = '"' then emit (.stringOpen .double) (quoteAt + 1) (.double :: modes)
            else plain modes below g gs emit lost
          | [] => plain modes below g gs emit lost
where
  /-- The lines of a raw heredoc up to the closing word. -/
  rawRun (word : String) : Nat → List Glyph → List Glyph → List Glyph × List Glyph
    | 0, acc, gs => (acc.reverse, gs)
    | _ + 1, acc, [] => (acc.reverse, [])
    | fuel + 1, acc, g :: gs =>
      if g.char = '\n' ∧ (closesHeredoc? word gs).isSome then ((g :: acc).reverse, gs)
      else rawRun word fuel (g :: acc) gs
  /-- The modes, where a heredoc on top is or is not at the start of a line. -/
  marked (atLine : Bool) : List Mode → List Mode
    | .heredoc word raw _ :: below => .heredoc word raw atLine :: below
    | modes => modes
  /-- Reads on inside a string with interpolation. -/
  inString (fuel : Nat) (quote : Option Char) (word : Option String) (modes : List Mode)
      (pos : Nat) (all : List Glyph) : List Token :=
    match contentStep quote all with
    | .take _ =>
      let (run, rest) := contentRun quote word all.length [] all
      let atLine := (run.getLast?.map fun g => g.char == '\n').getD false
      tokenAt .content pos run :: lex fuel (marked atLine modes) (pos + widthOf run) rest
    | .escape n => lex fuel (marked false modes) (pos + widthOf (all.take n)) (all.drop n)
    | .code =>
      let n := if (all.head?.map Glyph.char) = some '$' then 2 else 1
      let taken := all.take n
      ⟨.punct, "\x7b", pos, pos + widthOf taken⟩ ::
        lex fuel (.code :: marked false modes) (pos + widthOf taken) (all.drop n)
    | .variable =>
      let n := 1 + (spanChars isNameChar (all.drop 1)).1.length
      let taken := all.take n
      tokenAt .variable pos taken :: lex fuel (.member :: marked false modes)
        (pos + widthOf taken) (all.drop n)
    | .close => [tokenAt .fault pos all]
  /-- Reads a token of code that is no comment and no quoted string. -/
  plain (modes below : List Mode) (g : Glyph) (gs : List Glyph)
      (emit : TokenKind → Nat → List Mode → List Token) (lost : List Token) : List Token :=
    let all := g :: gs
    if g.char = Char.ofNat 96 then emit (.stringOpen .shell) 1 (.shell :: modes)
    else if startsWith all "<<<" then
      match heredocHead? (all.drop 3) with
      | some (word, raw, taken, _) =>
        emit (.stringOpen .heredoc) (3 + taken.length) (.heredoc word raw true :: modes)
      | none => lost
    else if isNameStart g.char then emit .name (spanChars isNameChar all).1.length modes
    else if g.char.isDigit then
      emit .number (spanChars (fun c => isNameChar c || c == '.') all).1.length modes
    else if g.char = '$' ∧ ((gs.head?.map fun h => isNameStart h.char).getD false) then
      emit .variable (1 + (spanChars isNameChar gs).1.length) modes
    else if g.char = '\x7b' then emit .punct 1 (.code :: modes)
    else if g.char = '\x7d' then emit .punct 1 (if below.isEmpty then modes else below)
    else
      match longPuncts.find? (startsWith all) with
      | some p => emit .punct p.length modes
      | none => emit .punct 1 modes

def tokens (bytes : ByteArray) : List Token :=
  let gs := glyphs bytes
  lex (2 * gs.length + 2) [.html] 0 gs

end DomainAtlas.Php
