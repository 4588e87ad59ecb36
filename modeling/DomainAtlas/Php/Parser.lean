import DomainAtlas.Php.Token
import DomainAtlas.Syntax.Tree
import DomainAtlas.Text.Casing

/-!
# Syntax trees of PHP

The parser builds as much of a tree as the queries ask about: statements at the top and in the body
of a namespace, so that a comment between two of them is told from a comment inside one; class
declarations at any depth with their attributes, modifiers and name; and qualified names. The rest
of a statement is read as tokens in which brackets pair up.
-/
namespace DomainAtlas.Php

open DomainAtlas.Syntax

/-- A piece of the source that has been parsed: the nodes found and the tokens after it. -/
abbrev Parsed := List Node × List Token

def Token.is (t : Token) (p : String) : Bool := t.kind == .punct && t.text == p

def Token.isWord (t : Token) (w : String) : Bool := t.kind == .name && Text.lowerAscii t.text == w

def skipComments (ts : List Token) : List Token := ts.dropWhile (·.kind == .comment)

def leaf (k : Kind) (f : Option Field) (t : Token) : Node := .mk k f false t.start t.text []

def faultAt (place : Nat) : Node := .mk .fault none false place "" []

/-- A token that the source lacks. -/
def missingAt (place : Nat) : Node := .mk .other none true place "" []

def placeOf (ts : List Token) : Nat :=
  match ts with
  | t :: _ => t.start
  | [] => 0

/-- The tokens that were consumed between two points of the input. -/
def consumed (before after : List Token) : List Token := before.take (before.length - after.length)

/-- The end of the last token consumed, or the start of the first one. -/
def endOf (before after : List Token) : Nat :=
  match (consumed before after).getLast? with
  | some t => t.stop
  | none => placeOf before

/-! ## Names -/

/-- The rest of a path of names after a name: separators and names, each with its last token. A
separator before a brace belongs to a group and ends the path. -/
def pathTail : Nat → Token → List Token → Token × Bool × List Token
  | 0, last, ts => (last, false, ts)
  | fuel + 1, last, ts =>
    match skipComments ts with
    | s :: rest =>
      if s.is "\\" then
        match skipComments rest with
        | n :: more =>
          if n.kind == .name then
            let (l, _, r) := pathTail fuel n more
            (l, true, r)
          else (last, false, ts)
        | [] => (last, false, ts)
      else (last, false, ts)
    | [] => (last, false, ts)

/-- Whether a path goes on with a group in braces. -/
def opensGroup (ts : List Token) : Bool :=
  match skipComments ts with
  | s :: rest =>
    s.is "\\" && (match skipComments rest with
      | b :: _ => b.is "\x7b"
      | [] => false)
  | [] => false

/-- Words of the language, which no path of names starts with. -/
def reservedWords : List String :=
  ["abstract", "and", "array", "as", "break", "callable", "case", "catch", "class", "clone", "const",
    "continue", "declare", "default", "do", "echo", "else", "elseif", "empty", "enddeclare", "endfor",
    "endforeach", "endif", "endswitch", "endwhile", "exit", "extends", "final", "finally", "fn", "for",
    "foreach", "function", "global", "goto", "if", "implements", "include", "include_once",
    "instanceof", "insteadof", "interface", "isset", "list", "match", "new", "or", "print", "private",
    "protected", "public", "require", "require_once", "return", "static", "switch", "throw", "trait",
    "try", "unset", "use", "var", "while", "xor", "yield"]

/-- Words that have a meaning in some places only: a path may start with them, but then its
separator follows at once. -/
def softWords : List String := ["from", "enum", "readonly"]

/-- Whether a path of names can start with a name, whose next token starts at `next`. -/
def startsPath (t : Token) (next : Nat) : Bool :=
  let w := Text.lowerAscii t.text
  !(reservedWords.contains w || (softWords.contains w && t.stop != next))

/-- A path of names at the front: its first and last token, whether it has a separator, whether it
is relative to the current namespace, and what follows. -/
def path? (ts : List Token) : Option (Token × Token × Bool × Bool × List Token) :=
  match ts with
  | [] => none
  | t :: rest =>
    if t.is "\\" then
      match skipComments rest with
      | n :: more =>
        if n.kind == .name then
          let (last, _, after) := pathTail more.length n more
          some (t, last, true, false, after)
        else none
      | [] => none
    else if t.kind == .name then
      let (last, separated, after) :=
        if startsPath t (placeOf rest) then pathTail rest.length t rest else (t, false, rest)
      some (t, last, separated, t.isWord "namespace" && separated, after)
    else none

/-! ## Brackets -/

def closerOf (t : Token) : Option String :=
  match t.kind with
  | .punct =>
    if t.text = "(" then some ")"
    else if t.text = "[" ∨ t.text = "#[" then some "]"
    else if t.text = "\x7b" then some "\x7d"
    else none
  | .stringOpen _ => some "string"
  | _ => none

/-- Whether a token closes what `closer` names. -/
def closes (closer : String) (t : Token) : Bool :=
  if closer = "string" then t.kind == .stringClose else t.is closer

def isCloser (t : Token) : Bool :=
  t.kind == .stringClose || t.is ")" || t.is "]" || t.is "\x7d"

/-- Where a run of tokens ends. -/
inductive Stop where
  /-- Before the token that closes a bracket. -/
  | closer (c : String)
  /-- Before a semicolon or a closing tag. -/
  | statement
  /-- Before an opening brace. -/
  | brace
  /-- Before a comma or a closing bracket. -/
  | item
  deriving DecidableEq, Repr

/-- Whether a run ends before a token. -/
def Stop.before (s : Stop) (t : Token) : Bool :=
  match s with
  | .closer c => closes c t
  | .statement => t.is ";" || t.kind == .closeTag
  | .brace => t.is "\x7b" || t.is ";"
  | .item => t.is "," || isCloser t

/-- Operators that need something after them. -/
def isOpenOperator (t : Token) : Bool :=
  t.kind == .punct && ["=", "+", "-", "*", "/", ".", "%", "==", "===", "!=", "!==", "<", ">", "<=",
    ">=", "&&", "||", "??", "=>", "->", "+=", "-=", "*=", "/=", ".=", "??="].contains t.text

/-- Words that start the rest of a declaration or an expression and so are no names of classes. -/
def notClassNames : List String := ["extends", "implements"]

/-- The words before `class` in a declaration. -/
def classModifiers : List String := ["final", "abstract", "readonly"]

/-- Skips a bracket of any kind whose opening token is at the front; `depth` counts open ones. -/
def skipBracket : Nat → Nat → List Token → List Token
  | 0, _, ts => ts
  | _ + 1, _, [] => []
  | fuel + 1, depth, t :: rest =>
    if (closerOf t).isSome then skipBracket fuel (depth + 1) rest
    else if isCloser t then if depth ≤ 1 then rest else skipBracket fuel (depth - 1) rest
    else skipBracket fuel depth rest

/-- Whether a named class declaration starts here: attributes and modifiers, the word `class` and a
name. -/
def startsClass : Nat → List Token → Bool
  | 0, _ => false
  | fuel + 1, ts =>
    match skipComments ts with
    | [] => false
    | t :: rest =>
      if t.is "#[" then startsClass fuel (skipBracket rest.length 1 rest)
      else if t.kind == .name ∧ classModifiers.contains (Text.lowerAscii t.text) then
        startsClass fuel rest
      else if t.isWord "class" then
        match skipComments rest with
        | n :: _ => n.kind == .name && !notClassNames.contains (Text.lowerAscii n.text)
        | [] => false
      else false

/-- Whether the token before allows a declaration to start. -/
def allowsClass (prev : Option Token) : Bool :=
  match prev with
  | none => true
  | some p => !(p.isWord "new" || p.is "->" || p.is "?->" || p.is "::" || p.isWord "function" ||
      p.isWord "const" || p.is "&")

mutual

/-- The nodes in a run of tokens up to a stop. `prev` is the token before. A closing bracket that
does not fit ends the run with a fault, and so does the end of the source unless a statement may end
there. -/
def run (src : ByteArray) : Nat → Option Token → Stop → List Token → Parsed
  | 0, _, _, ts => ([], ts)
  | _ + 1, prev, stop, [] =>
    match stop with
    | .item => ([], [])
    | .closer "string" => ([], [])
    | _ => ([missingAt ((prev.map Token.stop).getD 0)], [])
  | fuel + 1, prev, stop, t :: rest =>
    if stop.before t then
      match prev with
      | some p => if stop = .statement ∧ isOpenOperator p then ([faultAt p.start], t :: rest) else ([], t :: rest)
      | none => ([], t :: rest)
    else if isCloser t then ([faultAt t.start], t :: rest)
    else if t.kind == .fault then ([faultAt t.start], [])
    else if t.kind == .comment then run src fuel prev stop rest
    else if allowsClass prev && startsClass fuel (t :: rest) then
      let (node, after) := classNode src fuel (t :: rest)
      let (more, after) := run src fuel none stop after
      (node :: more, after)
    else
      match closerOf t with
      | some c =>
        let (inner, after) := run src fuel none (.closer c) rest
        let after := match after with
          | e :: more => if closes c e then more else e :: more
          | [] => []
        let (more, after) := run src fuel (some t) stop after
        (inner ++ more, after)
      | none =>
        match path? (t :: rest) with
        | some (first, last, separated, isRelative, after) =>
          let (more, after') := run src fuel (some last) stop after
          if separated && !isRelative && !opensGroup after then
            (.mk .qualifiedName none false first.start (slice src first.start last.stop) [] :: more,
              after')
          else (more, after')
        | none => run src fuel (some t) stop rest

def classNode (src : ByteArray) : Nat → List Token → Node × List Token
  | 0, ts => (faultAt (placeOf ts), ts)
  | fuel + 1, ts =>
    let (attributes, afterAttributes) := attributeGroups src fuel ts
    let listNode := match attributes with
      | [] => []
      | a :: _ => [Node.mk .attributeList (some .attributes) false a.start "" attributes]
    let (modifiers, afterModifiers) := modifierNodes afterAttributes.length afterAttributes
    match skipComments afterModifiers with
    | _ :: afterClass =>
      match skipComments afterClass with
      | n :: afterName =>
        let (head, afterHead) := run src fuel none .brace afterName
        match afterHead with
        | o :: inBody =>
          if o.is "\x7b" then
            let (body, afterBody) := run src fuel none (.closer "\x7d") inBody
            let rest := match afterBody with
              | e :: more => if e.is "\x7d" then more else afterBody
              | [] => []
            let stop := endOf ts rest
            (.mk .classDeclaration none false (placeOf ts) (slice src (placeOf ts) stop)
              (listNode ++ modifiers ++ leaf .name (some .name) n :: (head ++ body)), rest)
          else (faultAt (placeOf ts), if isCloser o then inBody else afterHead)
        | [] => (faultAt (placeOf ts), [])
      | [] => (faultAt (placeOf ts), [])
    | [] => (faultAt (placeOf ts), [])

def attributeGroups (src : ByteArray) : Nat → List Token → List Node × List Token
  | 0, ts => ([], ts)
  | fuel + 1, ts =>
    match skipComments ts with
    | t :: rest =>
      if t.is "#[" then
        let (items, after) := attributeItems src fuel rest
        let group := Node.mk .attributeGroup none false t.start "" items
        let (more, after) := attributeGroups src fuel after
        (group :: more, after)
      else ([], ts)
    | [] => ([], ts)

/-- The attributes of a group, and what follows its closing bracket. -/
def attributeItems (src : ByteArray) : Nat → List Token → List Node × List Token
  | 0, ts => ([], ts)
  | fuel + 1, ts =>
    match ts with
    | [] => ([missingAt 0], [])
    | t :: rest =>
      if t.is "]" then ([], rest)
      else if t.is "," ∨ t.kind == .comment then attributeItems src fuel rest
      else
        match path? ts with
        | none => ([faultAt t.start], skipBracket ts.length 1 ts)
        | some (first, last, separated, isRelative, after) =>
          let nameNode :=
            if isRelative then Node.mk .other none false first.start "" []
            else if separated then
              .mk .qualifiedName none false first.start (slice src first.start last.stop) []
            else leaf .name none first
          let (args, after) := match skipComments after with
            | o :: inArgs =>
              if o.is "(" then
                let (as, r) := argumentNodes src fuel inArgs
                ([Node.mk .arguments (some .parameters) false o.start "" as], r)
              else ([], after)
            | [] => ([], after)
          let item := Node.mk .attributeItem none false first.start "" (nameNode :: args)
          let (more, after) := attributeItems src fuel after
          (item :: more, after)

/-- Arguments up to and with their closing parenthesis; comments between them are nodes too. -/
def argumentNodes (src : ByteArray) : Nat → List Token → List Node × List Token
  | 0, ts => ([], ts)
  | fuel + 1, ts =>
    match ts with
    | [] => ([missingAt 0], [])
    | t :: rest =>
      if t.is ")" then ([], rest)
      else if t.is "," then argumentNodes src fuel rest
      else if t.kind == .comment then
        let (more, after) := argumentNodes src fuel rest
        (leaf .comment none t :: more, after)
      else if isCloser t then ([faultAt t.start], ts)
      else
        let value := afterArgumentName ts
        let strings := match value with
          | s :: inString => (stringNode? s inString).toList
          | [] => []
        let (inner, after) := run src fuel none .item ts
        let arg := Node.mk .argument none false t.start "" (strings ++ inner)
        let (more, after) := argumentNodes src fuel after
        (arg :: more, after)

/-- The modifiers before `class`; only `final` is told apart. -/
def modifierNodes : Nat → List Token → List Node × List Token
  | 0, ts => ([], ts)
  | fuel + 1, ts =>
    match skipComments ts with
    | t :: rest =>
      if t.kind == .name ∧ classModifiers.contains (Text.lowerAscii t.text) then
        let (more, after) := modifierNodes fuel rest
        if t.isWord "final" then (leaf .finalModifier none t :: more, after) else (more, after)
      else ([], ts)
    | [] => ([], ts)

/-- An argument without its name. -/
def afterArgumentName (ts : List Token) : List Token :=
  match ts with
  | n :: rest =>
    match skipComments rest with
    | c :: more => if n.kind == .name ∧ c.is ":" then skipComments more else ts
    | [] => ts
  | [] => ts

/-- The node of a string literal that is the whole value of an argument. -/
def stringNode? (opening : Token) (inString : List Token) : Option Node :=
  let kind := match opening.kind with
    | .stringOpen .single => some Kind.string
    | .stringOpen .double => some Kind.encapsedString
    | _ => none
  match kind with
  | none => none
  | some k =>
    let after := skipBracket inString.length 1 inString
    let ends := match skipComments after with
      | e :: _ => e.is "," || e.is ")"
      | [] => false
    if ends then
      some (.mk k none false opening.start "" (contentNodes 0 (consumed inString after)))
    else none

/-- The contents of a string itself, not those of strings inside its expressions. -/
def contentNodes : Nat → List Token → List Node
  | _, [] => []
  | depth, t :: rest =>
    if t.kind == .content ∧ depth = 0 then leaf .stringContent none t :: contentNodes depth rest
    else if (closerOf t).isSome then contentNodes (depth + 1) rest
    else if isCloser t then contentNodes (depth - 1) rest
    else contentNodes depth rest

end

/-! ## Statements -/

/-- The nodes of a statement as one node. Declarations of classes and namespaces stand for
themselves. -/
def asStatement (start : Nat) (inner : List Node) : List Node :=
  match inner with
  | [] => []
  | [n] =>
    if n.kind == .classDeclaration || n.kind == .namespaceDefinition || n.kind == .fault then [n]
    else [.mk .other none false start "" [n]]
  | ns => [.mk .other none false start "" ns]

/-- A bracket at the front, comments before it included. -/
def bracket (src : ByteArray) (fuel : Nat) (ts : List Token) : Parsed :=
  match skipComments ts with
  | t :: rest =>
    match closerOf t with
    | some c =>
      let (inner, after) := run src fuel none (.closer c) rest
      match after with
      | e :: more => if closes c e then (inner, more) else (inner, after)
      | [] => (inner, [])
    | none => ([], ts)
  | [] => ([], ts)

/-- A statement that runs to its semicolon. -/
def simpleStatement (src : ByteArray) (fuel : Nat) (ts : List Token) : Parsed :=
  let (inner, after) := run src fuel none .statement ts
  match after with
  | t :: rest => if t.is ";" ∨ t.kind == .closeTag then (inner, rest) else (inner, after)
  | [] => (inner, [])

/-- A declaration that runs to the end of its braces. -/
def bracedDeclaration (src : ByteArray) (fuel : Nat) (ts : List Token) : Parsed :=
  let (head, after) := run src fuel none .brace ts
  match after with
  | t :: rest =>
    if t.is "\x7b" then
      let (body, after) := bracket src fuel after
      (head ++ body, after)
    else (head, rest)
  | [] => (head, [])

/-- Whether a function with a name is declared here. -/
def startsFunction (ts : List Token) : Bool :=
  match skipComments ts with
  | f :: rest =>
    if f.isWord "function" then
      let rest := match skipComments rest with
        | a :: more => if a.is "&" then skipComments more else a :: more
        | [] => []
      match rest with
      | n :: more => n.kind == .name && (match skipComments more with
          | o :: _ => o.is "("
          | [] => false)
      | [] => false
    else false
  | [] => false

/-- Whether an interface, a trait or an enumeration is declared here. -/
def startsBraced (ts : List Token) : Bool :=
  match ts with
  | t :: rest =>
    (t.isWord "interface" || t.isWord "trait" || t.isWord "enum") &&
      (match skipComments rest with
        | n :: _ => n.kind == .name
        | [] => false)
  | [] => false

/-- The words that end the statements of a block without braces. -/
def blockEnds : List String :=
  ["endif", "endwhile", "endfor", "endforeach", "endswitch", "enddeclare", "else", "elseif", "case",
    "default"]

/-- Whether the word at the front of the next token is one of these. -/
def nextIs (ws : List String) (ts : List Token) : Bool :=
  match skipComments ts with
  | t :: _ => t.kind == .name && ws.contains (Text.lowerAscii t.text)
  | [] => false

def pass (ts : List Token) : List Token := (skipComments ts).drop 1

mutual

def statement (src : ByteArray) : Nat → List Token → Parsed
  | 0, ts => ([], ts.drop 1)
  | fuel + 1, ts =>
    match ts with
    | [] => ([], [])
    | t :: rest =>
      if t.kind == .comment then statement src fuel rest
      else if t.is ";" ∨ t.kind == .openTag ∨ t.kind == .closeTag then ([], rest)
      else if t.is "\x7b" then bracket src fuel ts
      else if t.is "\x7d" then ([faultAt t.start], rest)
      else if startsClass ts.length ts then
        let (node, after) := classNode src (2 * ts.length + 2) ts
        ([node], after)
      else if t.isWord "class" then ([faultAt t.start], lostDeclaration rest)
      else if t.is "#[" then
        let (inner, after) := bracket src (2 * ts.length + 2) ts
        let (more, after) := statement src fuel after
        (inner ++ more, after)
      else if t.isWord "namespace" ∧ !((skipComments rest).head?.map (·.is "\\")).getD false then
        namespaceStatement src fuel t rest
      else if startsFunction ts ∨ startsBraced ts then
        bracedDeclaration src (2 * ts.length + 2) ts
      else if t.isWord "if" then
        let (head, after) := bracket src (2 * ts.length + 2) rest
        let (body, after) := ifBody src fuel after
        (head ++ body, after)
      else if t.isWord "while" ∨ t.isWord "for" ∨ t.isWord "foreach" ∨ t.isWord "switch" ∨
          t.isWord "declare" then
        let (head, after) := bracket src (2 * ts.length + 2) rest
        let (body, after) := loopBody src fuel after
        (head ++ body, after)
      else if t.isWord "do" then
        let (body, after) := statement src fuel rest
        let (tail, after) := simpleStatement src (2 * ts.length + 2) after
        (body ++ tail, after)
      else if t.isWord "try" then
        let (body, after) := bracket src (2 * ts.length + 2) rest
        let (more, after) := handlers src fuel after
        (body ++ more, after)
      else if t.kind == .name ∧ ((skipComments rest).head?.map (·.is ":")).getD false ∧
          !blockEnds.contains (Text.lowerAscii t.text) then ([], pass rest)
      else simpleStatement src (2 * ts.length + 2) ts

/-- What is left after a declaration without a name: its brackets are skipped. -/
def lostDeclaration (ts : List Token) : List Token :=
  match skipComments ts with
  | o :: rest => if o.is "\x7b" then skipBracket rest.length 1 rest else ts
  | [] => []

/-- A namespace: the rest of the file, or a body in braces. -/
def namespaceStatement (src : ByteArray) : Nat → Token → List Token → Parsed
  | 0, _, ts => ([], ts)
  | fuel + 1, word, ts =>
    let (nameNodes, after) := match path? (skipComments ts) with
      | some (first, last, _, _, after) =>
        ([Node.mk .namespaceName (some .name) false first.start (slice src first.start last.stop) []],
          after)
      | none => ([], skipComments ts)
    let whole (children : List Node) : List Node :=
      [.mk .namespaceDefinition none false word.start "" children]
    match skipComments after with
    | t :: rest =>
      if t.is ";" ∨ t.kind == .closeTag then
        if nameNodes.isEmpty then ([faultAt word.start], rest) else (whole nameNodes, rest)
      else if t.is "\x7b" then
        let (body, after) := statements src fuel rest
        let (tail, after) := match after with
          | e :: more => if e.is "\x7d" then ([], more) else ([], after)
          | [] => ([missingAt t.stop], [])
        (whole (nameNodes ++
          [.mk .compoundStatement (some .body) false t.start "" (body ++ tail)]), after)
      else (whole (nameNodes ++ [missingAt t.start]), t :: rest)
    | [] => (whole (nameNodes ++ [missingAt word.stop]), [])

/-- What follows the condition of an `if`. -/
def ifBody (src : ByteArray) : Nat → List Token → Parsed
  | 0, ts => ([], ts)
  | fuel + 1, ts =>
    match skipComments ts with
    | t :: rest =>
      if t.is ":" then
        let (body, after) := statements src fuel rest
        alternatives src fuel body after
      else
        let (body, after) := statement src fuel (t :: rest)
        if nextIs ["elseif"] after then
          let (cond, after) := bracket src (2 * after.length + 2) (pass after)
          let (more, after) := ifBody src fuel after
          (body ++ cond ++ more, after)
        else if nextIs ["else"] after then
          let after := pass after
          if nextIs ["if"] after then
            let (cond, after) := bracket src (2 * after.length + 2) (pass after)
            let (more, after) := ifBody src fuel after
            (body ++ cond ++ more, after)
          else
            let (more, after) := statement src fuel after
            (body ++ more, after)
        else (body, after)
    | [] => ([], [])

/-- The further branches of an `if` without braces, up to its end. -/
def alternatives (src : ByteArray) : Nat → List Node → List Token → Parsed
  | 0, body, ts => (body, ts)
  | fuel + 1, body, ts =>
    if nextIs ["elseif"] ts then
      let (cond, after) := bracket src (2 * ts.length + 2) (pass ts)
      let (more, after) := statements src fuel (pass after)
      alternatives src fuel (body ++ cond ++ more) after
    else if nextIs ["else"] ts then
      let (more, after) := statements src fuel (pass (pass ts))
      alternatives src fuel (body ++ more) after
    else
      let (tail, after) := simpleStatement src (2 * ts.length + 2) ts
      (body ++ tail, after)

/-- What follows the head of a loop or a switch. -/
def loopBody (src : ByteArray) : Nat → List Token → Parsed
  | 0, ts => ([], ts)
  | fuel + 1, ts =>
    match skipComments ts with
    | t :: rest =>
      if t.is ":" then
        let (body, after) := branches src fuel rest
        let (tail, after) := simpleStatement src (2 * ts.length + 2) after
        (body ++ tail, after)
      else statement src fuel (t :: rest)
    | [] => ([], [])

/-- Statements with the labels of a switch between them. -/
def branches (src : ByteArray) : Nat → List Token → Parsed
  | 0, ts => ([], ts)
  | fuel + 1, ts =>
    let (body, after) := statements src fuel ts
    if nextIs ["case", "default"] after then
      let (more, after) := branches src fuel (pass after)
      (body ++ more, after)
    else (body, after)

def handlers (src : ByteArray) : Nat → List Token → Parsed
  | 0, ts => ([], ts)
  | fuel + 1, ts =>
    if nextIs ["catch"] ts then
      let (head, after) := bracket src (2 * ts.length + 2) (pass ts)
      let (body, after) := bracket src (2 * ts.length + 2) after
      let (more, after) := handlers src fuel after
      (head ++ body ++ more, after)
    else if nextIs ["finally"] ts then
      bracket src (2 * ts.length + 2) (pass ts)
    else ([], ts)

/-- Statements and the comments between them, up to a closing brace, a word that ends a block, or
the end of the source. -/
def statements (src : ByteArray) : Nat → List Token → Parsed
  | 0, ts => ([], ts)
  | fuel + 1, ts =>
    match ts with
    | [] => ([], [])
    | t :: rest =>
      if t.is "\x7d" then ([], ts)
      else if t.kind == .comment then
        let (more, after) := statements src fuel rest
        (leaf .comment none t :: more, after)
      else if t.kind == .name ∧ blockEnds.contains (Text.lowerAscii t.text) then ([], ts)
      else
        let (inner, after) := statement src fuel ts
        let (more, after) := statements src fuel after
        (asStatement t.start inner ++ more, after)

end

/-- The statements of a whole file; a closing brace without an opening one is a fault. -/
def topLevel (src : ByteArray) : Nat → List Token → List Node
  | 0, _ => []
  | fuel + 1, ts =>
    match statements src (2 * ts.length + 2) ts with
    | (nodes, []) => nodes
    | (nodes, t :: rest) => nodes ++ faultAt t.start :: topLevel src fuel rest

/-- The syntax tree of a source. -/
def parse (src : ByteArray) : Node :=
  let ts := tokens src
  .mk .program none false 0 "" (topLevel src (ts.length + 1) ts)

end DomainAtlas.Php
