import DomainAtlas.Text.Utf8
import DomainAtlas.Yaml.Token

/-!
# Tags, anchors and directives

The tokens that say something about a node or about the whole document. Names consist of letters,
digits, dashes and underscores; a tag is written like an address, with escapes of a percent sign
and two digits.
-/
namespace DomainAtlas.Yaml

def expectedName : String := "expected alphabetic or numeric character"

/-- Reads the name after an anchor or alias indicator. -/
def scanAnchor (c : Cursor) : Scan Token :=
  let isAlias := c.peek == '*'
  let context := if isAlias then "while scanning an alias" else "while scanning an anchor"
  let (name, after) := (c.forward 1).span isNameChar
  if name.isEmpty then .error (.found context c.mark expectedName after)
  else if !isSpaceOrEnd after.peek && !"?:,]\x7d%@`".toList.contains after.peek then
    .error (.found context c.mark expectedName after)
  else
    let text := String.ofList name
    .ok (⟨if isAlias then .reference text else .anchor text, c.mark, after.mark⟩, after)

/-- Reads one escaped byte after its percent sign. -/
def uriByte (context : String) (start : Mark) (c : Cursor) : Scan UInt8 :=
  match Text.hexDigit? (c.peekAt 0), Text.hexDigit? (c.peekAt 1) with
  | some a, some b => .ok (UInt8.ofNat (16 * a + b), c.forward 2)
  | first, _ =>
    let bad := if first.isSome then c.peekAt 1 else c.peekAt 0
    .error (.during context start ("expected URI escape sequence of 2 hexadecimal numbers, " ++
      "but found " ++ Text.literal (String.singleton bad)) c.mark)

/-- Reads escaped bytes, as long as there are some; `fuel` bounds the text. -/
def uriBytes (context : String) (start : Mark) : Nat → Cursor → Scan (List UInt8)
  | 0, c => .ok ([], c)
  | fuel + 1, c =>
    if c.peek ≠ '%' then .ok ([], c)
    else
      match uriByte context start (c.forward 1) with
      | .error f => .error f
      | .ok (b, after) =>
        match uriBytes context start fuel after with
        | .error f => .error f
        | .ok (bs, after) => .ok (b :: bs, after)

/-- Characters of a tag that stand for themselves. -/
def isUriChar (c : Char) : Bool := c.isAlphanum || "-;/?:@&=+$,_.!~*'()[]".toList.contains c

/-- Reads the characters of a tag; `fuel` bounds the text. -/
def uriChars (context : String) (start : Mark) : Nat → Cursor → Scan (List Char)
  | 0, c => .ok ([], c)
  | fuel + 1, c =>
    if c.peek = '%' then
      match uriBytes context start c.rest.length c with
      | .error f => .error f
      | .ok (bs, after) =>
        match Text.decode ⟨bs.toArray⟩ with
        | .error e => .error (.during context start e.message c.mark)
        | .ok s =>
          match uriChars context start fuel after with
          | .error f => .error f
          | .ok (cs, after) => .ok (s.toList ++ cs, after)
    else if isUriChar c.peek then
      match uriChars context start fuel (c.forward 1) with
      | .error f => .error f
      | .ok (cs, after) => .ok (c.peek :: cs, after)
    else .ok ([], c)

/-- Reads the address part of a tag or directive; it may not be empty. -/
def scanUri (what : String) (start : Mark) (c : Cursor) : Scan String :=
  match uriChars ("while scanning a " ++ what) start (c.rest.length + 1) c with
  | .error f => .error f
  | .ok (cs, after) =>
    if after.mark.index = c.mark.index then
      .error (.found ("while parsing a " ++ what) start "expected URI" after)
    else .ok (String.ofList cs, after)

/-- Reads a tag handle: an exclamation mark, or a name between two. -/
def scanHandle (what : String) (start : Mark) (c : Cursor) : Scan String :=
  let context := "while scanning a " ++ what
  if c.peek ≠ '!' then .error (.found context start "expected '!'" c)
  else
    let inner := c.forward 1
    if inner.peek = ' ' then .ok ("!", inner)
    else
      let (name, after) := inner.span isNameChar
      if after.peek ≠ '!' then .error (.found context start "expected '!'" after)
      else .ok (String.ofList ('!' :: (name ++ ['!'])), after.forward 1)

/-- Whether the tag that starts here has a handle with a name. -/
def hasNamedHandle (c : Cursor) : Bool :=
  (c.forward 1).rest.dropWhile (fun ch => ch != '!' && !isGapOrEnd ch) |>.head? |>.any (· == '!')

/-- Reads the handle and the rest of a tag. -/
def scanTagParts (c : Cursor) : Scan (Option String × String) :=
  let next := c.peekAt 1
  if next = '<' then
    match scanUri "tag" c.mark (c.forward 2) with
    | .error f => .error f
    | .ok (s, after) =>
      if after.peek ≠ '>' then .error (.found "while parsing a tag" c.mark "expected '>'" after)
      else .ok ((none, s), after.forward 1)
  else if isSpaceOrEnd next then .ok ((none, "!"), c.forward 1)
  else
    let handle : Scan String :=
      if hasNamedHandle c then scanHandle "tag" c.mark c else .ok ("!", c.forward 1)
    match handle with
    | .error f => .error f
    | .ok (h, after) =>
      match scanUri "tag" c.mark after with
      | .error f => .error f
      | .ok (s, after) => .ok ((some h, s), after)

def scanTag (c : Cursor) : Scan Token :=
  match scanTagParts c with
  | .error f => .error f
  | .ok ((handle, suffix), after) =>
    if isGapOrEnd after.peek then .ok (⟨.tag handle suffix, c.mark, after.mark⟩, after)
    else .error (.found "while scanning a tag" c.mark "expected ' '" after)

def versionNumber (start : Mark) (c : Cursor) : Scan Nat :=
  let (ds, after) := c.span Char.isDigit
  if ds.isEmpty then .error (.found "while scanning a directive" start "expected a digit" c)
  else if Text.maxDigits < ds.length then .error (.value (.tooManyDigits ds.length))
  else .ok (ds.foldl (fun n d => n * 10 + (d.toNat - 48)) 0, after)

def scanVersion (start : Mark) (c : Cursor) : Scan Directive :=
  let context := "while scanning a directive"
  match versionNumber start c.skipSpaces with
  | .error f => .error f
  | .ok (major, after) =>
    if after.peek ≠ '.' then .error (.found context start "expected a digit or '.'" after)
    else
      match versionNumber start (after.forward 1) with
      | .error f => .error f
      | .ok (minor, after) =>
        if isGapOrEnd after.peek then .ok (.version major minor, after)
        else .error (.found context start "expected a digit or ' '" after)

/-- Reads an abbreviation of tags. -/
def scanHandleRule (start : Mark) (c : Cursor) : Scan Directive :=
  let context := "while scanning a directive"
  match scanHandle "directive" start c.skipSpaces with
  | .error f => .error f
  | .ok (handle, after) =>
    if after.peek ≠ ' ' then .error (.found context start "expected ' '" after)
    else
      match scanUri "directive" start after.skipSpaces with
      | .error f => .error f
      | .ok (uri, after) =>
        if isGapOrEnd after.peek then .ok (.handle handle uri, after)
        else .error (.found context start "expected ' '" after)

/-- Moves past the rest of a line, which may only hold a comment. -/
def skipLine (context : String) (start : Mark) (c : Cursor) : Except Fault Cursor :=
  let after := c.skipSpaces.skipComment
  if isBreakOrEnd after.peek then .ok after.lineBreak.2
  else .error (.found context start "expected a comment or a line break" after)

/-- Reads what follows the name of a directive. -/
def directiveValue (name : String) (start : Mark) (c : Cursor) : Scan Directive :=
  match name with
  | "YAML" => scanVersion start c
  | "TAG" => scanHandleRule start c
  | _ => .ok (.other, c.skipWhile fun ch => !isBreakOrEnd ch)

def scanDirective (c : Cursor) : Scan Token :=
  let context := "while scanning a directive"
  let (name, after) := (c.forward 1).span isNameChar
  if name.isEmpty ∨ !isGapOrEnd after.peek then .error (.found context c.mark expectedName after)
  else
    match directiveValue (String.ofList name) c.mark after with
    | .error f => .error f
    | .ok (d, after) =>
      match skipLine context c.mark after with
      | .error f => .error f
      | .ok next => .ok (⟨.directive d, c.mark, after.mark⟩, next)

end DomainAtlas.Yaml
