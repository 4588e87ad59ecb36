import DomainAtlas.Script.Token
import DomainAtlas.Syntax.Tree

/-!
# Syntax trees of scripts

The parser finds the statements at the top of a script, so that a comment between two of them is
told from a comment inside one. The main work is to find where a statement ends that has no
semicolon: a statement ends at a line end if what follows cannot continue it. A comment on the line
of the last token then still belongs to the statement.
-/
namespace DomainAtlas.Script

open DomainAtlas.Syntax

/-- The faults found in a piece of the source, and the tokens after it. -/
abbrev Parsed := List Node × List Token

def Token.is (t : Token) (p : String) : Bool := t.kind == .punct && t.text == p

def Token.isWord (t : Token) (w : String) : Bool := t.kind == .name && t.text == w

def skipComments (ts : List Token) : List Token := ts.dropWhile (·.kind == .comment)

def faultAt (place : Nat) : Node := .mk .fault none false place "" []

/-- Whether a word that starts with `in` is an operator, as far as the letters after it tell. -/
def isInOperator (w : List Char) : Bool :=
  let endsAfter (n : Nat) : Bool := ((w.drop n).head?.map fun c => !isLetter c).getD true
  "in".toList.isPrefixOf w && (endsAfter 2 || ("instanceof".toList.isPrefixOf w && endsAfter 10))
where
  isLetter (c : Char) : Bool := c.isAlpha || 128 ≤ c.toNat

/-- Whether a new statement may start with the next token that is no comment. In an expression a
parenthesis or bracket continues the statement. -/
def startsNew (inExpression : Bool) (ts : List Token) : Bool :=
  match skipComments ts with
  | [] => true
  | t :: _ =>
    match t.kind, t.text.toList with
    | .name, w => !isInOperator w
    | .regex, _ => false
    | .templateOpen, _ => false
    | .punct, c :: rest =>
      if ",.;*%><=?^|&/:".toList.contains c then false
      else if c = '(' ∨ c = '[' then !inExpression
      else if c = '+' ∨ c = '-' then rest.head? == some c
      else if c = '!' then rest.head? != some '='
      else true
    | _, _ => true

/-! ## Brackets -/

def closerOf (t : Token) : Option String :=
  match t.kind with
  | .punct =>
    if t.text = "(" then some ")"
    else if t.text = "[" then some "]"
    else if t.text = "\x7b" ∨ t.text = "$\x7b" then some "\x7d"
    else none
  | .templateOpen => some "template"
  | _ => none

/-- Whether a token closes what `closer` names. -/
def closes (closer : String) (t : Token) : Bool :=
  if closer = "template" then t.kind == .templateClose else t.is closer

def isCloser (t : Token) : Bool :=
  t.kind == .templateClose || t.is ")" || t.is "]" || t.is "\x7d"

/-- Reads up to and with the closing token of a bracket; `stack` holds what is still to be closed.
A closing token that fits none of the innermost brackets is a fault and closes what it fits. -/
def bracketRest : Nat → List String → List Token → Parsed
  | 0, _, ts => ([], ts)
  | _ + 1, [], ts => ([], ts)
  | _ + 1, _ :: _, [] => ([faultAt 0], [])
  | fuel + 1, c :: stack, t :: rest =>
    if t.kind == .fault then
      let (more, after) := bracketRest fuel (c :: stack) rest
      (faultAt t.start :: (if rest.isEmpty then [] else more), after)
    else
      match closerOf t with
      | some inner => bracketRest fuel (inner :: c :: stack) rest
      | none =>
        if closes c t then bracketRest fuel stack rest
        else if isCloser t then
          if stack.any fun s => closes s t then
            let (more, after) := bracketRest fuel ((stack.dropWhile fun s => !closes s t).drop 1) rest
            (faultAt t.start :: more, after)
          else
            let (more, after) := bracketRest fuel (c :: stack) rest
            (faultAt t.start :: more, after)
        else bracketRest fuel (c :: stack) rest

/-- A bracket at the front, comments before it included. -/
def bracket (ts : List Token) : Parsed :=
  match skipComments ts with
  | t :: rest =>
    match closerOf t with
    | some c => bracketRest (rest.length + 1) [c] rest
    | none => ([], ts)
  | [] => ([], [])

/-! ## Ends of statements -/

/-- Goes past the end of a statement that needs a semicolon, read up to a token where it may end.
None if the statement goes on. -/
def endStatement (inExpression : Bool) : List Token → Option (List Token)
  | [] => some []
  | t :: rest =>
    if t.is "\x7d" then some (t :: rest)
    else if t.onNewLine && startsNew inExpression (t :: rest) then some (t :: rest)
    else if t.kind == .comment then endStatement inExpression rest
    else if t.is ";" then some rest
    else none

/-- Goes past the comments that belong to a block or declaration that needs no semicolon: those on
its last line, if the statement ends with that line. -/
def endBlock (ts : List Token) : List Token :=
  go ts ts
where
  /-- `start` is what is left if the comments do not belong to the block. -/
  go (start : List Token) : List Token → List Token
    | [] => []
    | t :: rest =>
      if t.is "\x7d" then t :: rest
      else if t.onNewLine && startsNew false (t :: rest) then t :: rest
      else if t.kind == .comment then go start rest
      else start

/-- Operators that need something after them. -/
def isOpenOperator (t : Token) : Bool :=
  t.kind == .punct && ["=", "+", "-", "*", "/", "%", "==", "===", "!=", "!==", "<", "&&", "||", "??",
    "=>", ".", "?.", "+=", "-="].contains t.text

/-- Reads a statement up to its semicolon or the place where it ends without one. `prev` is the
token before. -/
def toSemicolon (inExpression : Bool) : Nat → Option Token → List Token → Parsed
  | 0, _, ts => ([], ts)
  | fuel + 1, prev, ts =>
    let ended := match prev with
      | some p => if endsOperand p || ["return", "yield"].contains p.text then
          endStatement inExpression ts else none
      | none => none
    match ended with
    | some after => ([], after)
    | none =>
      match ts with
      | [] => ([], [])
      | t :: rest =>
        if t.is ";" then
          (match prev with
            | some p => if isOpenOperator p then [faultAt p.start] else []
            | none => [], rest)
        else if t.kind == .comment then toSemicolon inExpression fuel prev rest
        else if t.kind == .fault then
          let (more, after) := toSemicolon inExpression fuel (some t) rest
          (faultAt t.start :: more, after)
        else if isCloser t then
          ([faultAt t.start], if t.is "\x7d" then ts else rest)
        else
          match closerOf t with
          | some c =>
            let (inner, after) := bracketRest (rest.length + 1) [c] rest
            let closing : Token := ⟨.punct, ")", t.start, false⟩
            let (more, after) := toSemicolon inExpression fuel (some closing) after
            (inner ++ more, after)
          | none => toSemicolon inExpression fuel (some t) rest

/-- A statement that needs a semicolon. -/
def simpleStatement (inExpression : Bool) (ts : List Token) : Parsed :=
  toSemicolon inExpression (ts.length + 1) none ts

/-- Reads up to an opening brace; none if a semicolon or the end of the source comes first. -/
def toBrace : Nat → List Token → Option (List Node × List Token)
  | 0, _ => none
  | _ + 1, [] => none
  | fuel + 1, t :: rest =>
    if t.is "\x7b" then some ([], t :: rest)
    else if t.is ";" ∨ isCloser t then none
    else
      match closerOf t with
      | some c =>
        let (inner, after) := bracketRest (rest.length + 1) [c] rest
        (toBrace fuel after).map fun (more, r) => (inner ++ more, r)
      | none => toBrace fuel rest

/-- A declaration with a body in braces. `open'` says whether its last line still belongs to it. -/
def bracedDeclaration (open' : Bool) (ts : List Token) : Parsed :=
  match toBrace (ts.length + 1) ts with
  | none => simpleStatement true ts
  | some (head, atBrace) =>
    let (body, after) := bracket atBrace
    (head ++ body, if open' then endBlock after else after)

/-! ## Statements -/

/-- Whether the token after the first one is a name. -/
def namedNext (rest : List Token) : Bool :=
  match skipComments rest with
  | n :: _ => n.kind == .name && !n.onNewLine
  | [] => false

def nextIs (w : String) (ts : List Token) : Bool :=
  match skipComments ts with
  | t :: _ => t.isWord w
  | [] => false

def pass (ts : List Token) : List Token := (skipComments ts).drop 1

/-- A function: with a name and a body, or only its signature. -/
def functionStatement (ts : List Token) : Parsed :=
  let rest := if nextIs "async" ts then pass ts else ts
  let rest := pass rest
  let rest := match skipComments rest with
    | t :: more => if t.is "*" then more else t :: more
    | [] => []
  match skipComments rest with
  | n :: after =>
    if n.kind == .name ∨ n.is "(" then
      let (params, after) := if n.is "(" then bracket rest else bracket after
      match signatureEnd (after.length + 1) after with
      | some after => (params, after)
      | none =>
        let (body, after) := bracedDeclaration true after
        (params ++ body, after)
    else
      let (_, after) := bracket rest
      ([faultAt n.start], after)
  | [] => ([faultAt 0], [])
where
  /-- The end of a signature without a body, if there is no brace before it. -/
  signatureEnd : Nat → List Token → Option (List Token)
    | 0, _ => none
    | _ + 1, [] => some []
    | fuel + 1, t :: rest =>
      if t.is ";" then some rest
      else if t.is "\x7b" then none
      else if t.onNewLine && startsNew false (t :: rest) && t.kind != .comment then some (t :: rest)
      else
        match closerOf t with
        | some c => signatureEnd fuel (bracketRest (rest.length + 1) [c] rest).2
        | none => signatureEnd fuel rest

/-- A type alias: its type may be a type in braces, and ends like a statement that needs a
semicolon. -/
def typeStatement (ts : List Token) : Parsed := simpleStatement false ts

mutual

def statement : Nat → List Token → Parsed
  | 0, ts => ([], ts.drop 1)
  | fuel + 1, ts =>
    match ts with
    | [] => ([], [])
    | t :: rest =>
      if t.kind == .comment then statement fuel rest
      else if t.kind == .fault then ([faultAt t.start], rest)
      else if t.is ";" then ([], rest)
      else if t.is "\x7b" then
        let (inner, after) := bracket ts
        (inner, endBlock after)
      else if isCloser t then ([faultAt t.start], rest)
      else if t.is "@" then
        let (args, after) := decorator (rest.length + 1) rest
        let (more, after) := statement fuel after
        (args ++ more, after)
      else if t.kind != .name then simpleStatement true ts
      else if t.text = "function" ∨ (t.text = "async" ∧ nextIs "function" rest) then
        functionStatement ts
      else if t.text = "class" then bracedDeclaration true ts
      else if t.text = "abstract" ∧ nextIs "class" rest then bracedDeclaration false ts
      else if (t.text = "interface" ∨ t.text = "enum") ∧ namedNext rest then
        bracedDeclaration false ts
      else if t.text = "const" ∧ nextIs "enum" rest then bracedDeclaration false ts
      else if t.text = "type" ∧ namedNext rest then typeStatement ts
      else if (t.text = "namespace" ∨ t.text = "module") ∧ opensModule rest then
        bracedDeclaration true ts
      else if t.text = "declare" ∧ namedNext rest then
        if nextIs "global" rest then bracedDeclaration true ts
        else statement fuel (skipComments rest)
      else if t.text = "export" then exportStatement fuel rest
      else if t.text = "const" ∨ t.text = "let" ∨ t.text = "var" then
        match skipComments rest with
        | n :: _ =>
          let (inner, after) := simpleStatement true ts
          (if n.is "=" then faultAt n.start :: inner else inner, after)
        | [] => ([faultAt t.start], [])
      else if t.text = "if" then
        let (cond, after) := bracket rest
        let (body, after) := statement fuel after
        if nextIs "else" after then
          let (more, after) := statement fuel (pass after)
          (cond ++ body ++ more, after)
        else (cond ++ body, after)
      else if t.text = "for" ∨ t.text = "while" ∨ t.text = "with" then
        let rest := if nextIs "await" rest then pass rest else rest
        let (cond, after) := bracket rest
        let (body, after) := statement fuel after
        (cond ++ body, after)
      else if t.text = "do" then
        let (body, after) := statement fuel rest
        let (cond, after) := bracket (pass after)
        (body ++ cond, match endStatement true after with
          | some r => r
          | none => after)
      else if t.text = "switch" then
        let (cond, after) := bracket rest
        let (body, after) := bracket after
        (cond ++ body, after)
      else if t.text = "try" then
        let (body, after) := bracket rest
        let (more, after) := handlers fuel after
        (body ++ more, after)
      else
        match skipComments rest with
        | c :: more => if c.is ":" then statement fuel more else simpleStatement true ts
        | [] => simpleStatement true ts

/-- The handlers of a `try`, and the line of the last block. -/
def handlers : Nat → List Token → Parsed
  | 0, ts => ([], ts)
  | fuel + 1, ts =>
    let after := endBlock ts
    if nextIs "catch" after then
      let (head, r) := match skipComments (pass after) with
        | o :: _ => if o.is "(" then bracket (pass after) else ([], pass after)
        | [] => ([], [])
      let (body, r) := bracket r
      let (more, r) := handlers fuel r
      (head ++ body ++ more, r)
    else if nextIs "finally" after then
      let (body, r) := bracket (pass after)
      (body, endBlock r)
    else ([], after)

/-- What follows the word `export`. -/
def exportStatement : Nat → List Token → Parsed
  | 0, ts => ([], ts)
  | fuel + 1, ts =>
    match skipComments ts with
    | [] => ([faultAt 0], [])
    | t :: rest =>
      if t.isWord "default" then
        let next := skipComments rest
        match next with
        | n :: more =>
          let declares := n.isWord "function" || n.isWord "class" || n.isWord "async" ||
            (n.isWord "abstract" && nextIs "class" more) || n.is "@" ||
            (n.isWord "interface" && namedNext more)
          if n.isWord "class" ∧ !classNamed more then simpleStatement true next
          else if declares then statement fuel next else simpleStatement true next
        | [] => ([faultAt t.start], [])
      else if t.is "*" ∨ t.is "\x7b" ∨ t.is "=" then simpleStatement true (t :: rest)
      else if t.isWord "type" ∧ ((skipComments rest).head?.map (·.is "\x7b")).getD false then
        simpleStatement true (t :: rest)
      else if t.isWord "as" then simpleStatement true rest
      else statement fuel (t :: rest)

def classNamed (rest : List Token) : Bool :=
  match skipComments rest with
  | n :: _ => n.kind == .name && n.text != "extends" && n.text != "implements"
  | [] => false

/-- Whether a module or namespace follows: a name or a string, and then a brace or a dot. -/
def opensModule (rest : List Token) : Bool :=
  match skipComments rest with
  | n :: more => (n.kind == .name || n.kind == .string) && !n.onNewLine &&
    (match skipComments more with
      | o :: _ => o.is "\x7b" || o.is "."
      | [] => false)
  | [] => false

/-- A decorator after its sign: names with dots and arguments. -/
def decorator : Nat → List Token → Parsed
  | 0, ts => ([], ts)
  | _ + 1, [] => ([], [])
  | fuel + 1, t :: rest =>
    if t.kind == .comment ∨ t.is "." ∨ t.is "@" then decorator fuel rest
    else if t.is "(" then
      let (inner, after) := bracket (t :: rest)
      let (more, after) := decorator fuel after
      (inner ++ more, after)
    else if t.kind == .name ∧ !(["class", "abstract", "export"].contains t.text) then
      decorator fuel rest
    else ([], t :: rest)

end

/-- The nodes at the top of a script: comments between statements, and statements. -/
def topLevel : Nat → List Token → List Node
  | 0, _ => []
  | _ + 1, [] => []
  | fuel + 1, t :: rest =>
    if t.kind == .comment then .mk .comment none false t.start t.text [] :: topLevel fuel rest
    else
      let (faults, after) := statement (2 * rest.length + 2) (t :: rest)
      let after := if after.length ≤ rest.length then after else rest
      .mk .other none false t.start "" faults :: topLevel fuel after

/-- The syntax tree of a source. -/
def parse (src : ByteArray) : Node :=
  let ts := tokens src
  .mk .program none false 0 "" (topLevel (ts.length + 1) ts)

end DomainAtlas.Script
