import DomainAtlas.Regex.Syntax
import DomainAtlas.Text.Literal
import DomainAtlas.Text.Numeral
import DomainAtlas.Unheld

/-!
# Reading regular expressions

The reader takes an expression apart into characters and escapes, each with its place, and builds
terms from them. `compile` gives the pattern or a fault with its wording and place.
-/
namespace DomainAtlas.Regex

/-- A character of an expression, or an escape with the character it is for. -/
structure Tok where
  text : List Char
  place : Nat
  deriving DecidableEq, Repr

/-- Why an expression cannot be used. -/
inductive Fault where
  /-- It is wrong at a place; faults found after reading have no place. -/
  | wrong (message : String) (place : Option Nat)
  /-- A number has too many digits, or flags exclude one another. -/
  | value (message : String)
  /-- A number is out of range. -/
  | overflow (message : String)
  | unheld (what : Unheld)
  deriving DecidableEq, Repr

/-- Cuts an expression into characters and escapes. A backslash at the end stays alone. -/
def toToks : Nat → List Char → List Tok
  | _, [] => []
  | place, '\\' :: c :: cs => ⟨['\\', c], place⟩ :: toToks (place + 2) cs
  | place, c :: cs => ⟨[c], place⟩ :: toToks (place + 1) cs

/-- What changes the meaning of an expression. -/
structure Flags where
  ignoreCase : Bool
  multiLine : Bool
  dotAll : Bool
  verbose : Bool
  ascii : Bool
  deriving DecidableEq, Repr

def Flags.none : Flags := ⟨false, false, false, false, false⟩

/-- What the reader knows at some point. -/
structure State where
  rest : List Tok
  length : Nat
  /-- The number of the next group. -/
  groups : Nat
  names : List (String × Nat)
  /-- The groups that are closed, with their widths. -/
  closed : List (Nat × Nat × Option Nat)
  /-- The number of the next group where the outermost look-behind started. -/
  behind : Option Nat
  /-- Conditions on groups, with the places where they were asked for first. -/
  asked : List (Nat × Nat)
  flags : Flags
  /-- The letters of the flags for the whole expression. -/
  letters : List Char
  deriving Repr

abbrev Reader (α : Type) := StateT State (Except Fault) α

def State.place (s : State) : Nat :=
  match s.rest with
  | t :: _ => t.place
  | [] => s.length

/-- Fails, the given number of characters before the next token. -/
def failAt {α : Type} (message : String) (back : Nat) : Reader α := fun s =>
  .error (.wrong message (some (s.place - back)))

/-- Refuses a backslash that nothing follows as soon as it comes up. -/
def checkEnd : Reader Unit := fun s =>
  match s.rest with
  | [⟨['\\'], place⟩] => .error (.wrong "bad escape (end of pattern)" (some place))
  | _ => .ok ((), s)

def peek : Reader (Option (List Char)) := fun s => .ok (s.rest.head?.map Tok.text, s)

def tell : Reader Nat := fun s => .ok (s.place, s)

def next : Reader (Option (List Char)) := do
  let t ← peek
  modify fun s => { s with rest := s.rest.drop 1 }
  checkEnd
  return t

/-- Takes the next token if it is this character. -/
def accept (c : Char) : Reader Bool := do
  if (← peek) = some [c] then
    let _ ← next
    return true
  else return false

/-- Takes up to `n` single characters that satisfy `p`. -/
def takeWhile (p : Char → Bool) : Nat → Reader (List Char)
  | 0 => return []
  | n + 1 => do
    match ← peek with
    | some [c] =>
      if p c then
        let _ ← next
        return c :: (← takeWhile p n)
      else return []
    | _ => return []

/-- Takes all up to and with a terminator. -/
def takeUntil (terminator : Char) (what : String) : Nat → List Char → Reader String
  | 0, acc => return String.ofList acc
  | fuel + 1, acc => do
    match ← next with
    | none =>
      if acc.isEmpty then failAt ("missing " ++ what) 0
      else failAt s!"missing {terminator}, unterminated name" acc.length
    | some t =>
      if t = [terminator] then
        if acc.isEmpty then failAt ("missing " ++ what) 1 else return String.ofList acc
      else takeUntil terminator what fuel (acc ++ t)

/-- More than the number of tokens left. -/
def fuelHere : Reader Nat := fun s => .ok (s.rest.length + 1, s)

def isIdentifier (s : String) : Bool :=
  match s.toList with
  | [] => false
  | c :: cs => Text.startsName c && cs.all Text.continuesName

/-- Refuses a name that is no identifier. -/
def checkName (name : String) (offset : Nat) : Reader Unit :=
  if isIdentifier name then return ()
  else failAt ("bad character in group name " ++ Text.literal name) (name.length + offset)

/-! ## Escapes -/

def simpleEscapes : List (Char × Nat) :=
  [('a', 7), ('b', 8), ('f', 12), ('n', 10), ('r', 13), ('t', 9), ('v', 11), ('\\', 92)]

/-- Classes with a name, by the letter of their escape. -/
def categoryOf (ascii : Bool) (c : Char) : Option SetItem :=
  match c with
  | 'd' => some (.category .digit false ascii)
  | 'D' => some (.category .digit true ascii)
  | 's' => some (.category .space false ascii)
  | 'S' => some (.category .space true ascii)
  | 'w' => some (.category .word false ascii)
  | 'W' => some (.category .word true ascii)
  | _ => none

def valueOf (base : Nat) (ds : List Char) : Nat :=
  ds.foldl (fun acc c => acc * base + (Text.hexDigit? c).getD 0) 0

def isOctal (c : Char) : Bool := '0' ≤ c && c ≤ '7'

def isHex (c : Char) : Bool := (Text.hexDigit? c).isSome

/-- An escape of exactly so many hexadecimal digits. -/
def hexEscape (letter : Char) (count : Nat) : Reader Nat := do
  let ds ← takeWhile isHex count
  let whole := '\\' :: letter :: ds
  if ds.length ≠ count then failAt ("incomplete escape " ++ String.ofList whole) whole.length
  else
    let n := valueOf 16 ds
    if 0x80000000 ≤ n then throw (.overflow "Python int too large to convert to C int")
    else if 0x10FFFF < n then failAt ("bad escape " ++ String.ofList whole) whole.length
    else return n

/-- Whether a text may be the name of a character: names are made of letters, digits, spaces and
hyphens. -/
def mayNameCharacter (name : String) : Bool :=
  name.toList.all fun c => c.isAlphanum || c == ' ' || c == '-'

def namedEscape : Reader Nat := do
  if !(← accept '\x7b') then failAt "missing \x7b" 0
  else
    let name ← takeUntil '\x7d' "character name" (← fuelHere) []
    if mayNameCharacter name then throw (.unheld .characterName)
    else failAt ("undefined character name " ++ Text.literal name) (name.length + 4)

/-- An escape that cannot be read. -/
def badEscape {α : Type} (t : List Char) : Reader α :=
  failAt ("bad escape " ++ String.ofList t) t.length

/-- The code point of an escape that is neither a class nor a reference. -/
def codeEscape (c : Char) : Reader Nat :=
  if c = 'x' then hexEscape c 2
  else if c = 'u' then hexEscape c 4
  else if c = 'U' then hexEscape c 8
  else if c = 'N' then namedEscape
  else if c.isAlpha ∨ c.isDigit then badEscape ['\\', c]
  else return c.toNat

/-- A code point out of octal digits. -/
def octal (ds : List Char) : Reader Nat :=
  let n := valueOf 8 ds
  if 0o377 < n then
    failAt s!"octal escape value \\{String.ofList ds} outside of range 0-0o377" (ds.length + 1)
  else return n

def setEscape (c : Char) : Reader SetItem := do
  match simpleEscapes.lookup c, categoryOf (← get).flags.ascii c with
  | some n, _ => return .range n n
  | none, some item => return item
  | none, none =>
    let n ← if isOctal c then do octal (c :: (← takeWhile isOctal 2)) else codeEscape c
    return .range n n

/-- A reference to a closed group. -/
def referTo (index : Nat) : Reader Term := do
  let s ← get
  return .reference index ((s.closed.lookup index).getD (0, none)) s.flags.ignoreCase

/-- Refuses a reference to a group that is still open, also from inside a look-behind. -/
def checkGroup (index back : Nat) : Reader Unit := do
  let s ← get
  if (s.closed.lookup index).isNone then failAt "cannot refer to an open group" back

/-- Refuses a reference inside a look-behind to a group in it. -/
def checkBehind (index : Nat) : Reader Unit := do
  let s ← get
  match s.behind with
  | none => return ()
  | some first =>
    if (s.closed.lookup index).isNone then failAt "cannot refer to an open group" 0
    else if first ≤ index then
      failAt "cannot refer to group defined in the same lookbehind subpattern" 0

/-- A reference to a group, whose number starts with a digit. -/
def referenceEscape (c : Char) : Reader Term := do
  let flags := (← get).flags
  let ds ← match ← peek with
    | some [d] =>
      if d.isDigit then do
        let _ ← next
        pure [c, d]
      else pure [c]
    | _ => pure [c]
  let third ← peek
  match ds, third with
  | [a, b], some [d] =>
    if isOctal a ∧ isOctal b ∧ isOctal d then
      let _ ← next
      return .char (Char.ofNat (← octal [a, b, d])) flags.ignoreCase
    else refer ds
  | _, _ => refer ds
where
  /-- The reference to the group with these digits. -/
  refer (ds : List Char) : Reader Term := do
    let index := valueOf 10 ds
    if index < (← get).groups then
      checkGroup index (ds.length + 1)
      checkBehind index
      referTo index
    else failAt s!"invalid group reference {index}" ds.length

def escape (c : Char) : Reader Term := do
  let flags := (← get).flags
  match categoryOf flags.ascii c with
  | some item => return .set false [item] flags.ignoreCase
  | none =>
    if c = 'A' then return .anchor .textStart
    else if c = 'Z' then return .anchor .textEnd
    else if c = 'b' then return .anchor (.wordEdge flags.ascii)
    else if c = 'B' then return .anchor (.notWordEdge flags.ascii)
    else
      match simpleEscapes.lookup c with
      | some n => return .char (Char.ofNat n) flags.ignoreCase
      | none =>
        if c = '0' then
          return .char (Char.ofNat (valueOf 8 (← takeWhile isOctal 2))) flags.ignoreCase
        else if c.isDigit then referenceEscape c
        else
          let n ← codeEscape c
          -- No character of a text is half of a surrogate pair.
          return if n.isValidChar then .char (Char.ofNat n) flags.ignoreCase
            else .set false [.range n n] flags.ignoreCase

/-! ## Sets -/

def setItem (t : List Char) : Reader SetItem :=
  match t with
  | ['\\', c] => setEscape c
  | c :: _ => return .range c.toNat c.toNat
  | [] => return .range 0 0

/-- The members of a set up to its end; `here` is the place of its bracket. -/
def setItems (here : Nat) : Nat → List SetItem → Reader (List SetItem)
  | 0, acc => return acc.reverse
  | fuel + 1, acc => do
    let unterminated : Reader (List SetItem) := do
      failAt "unterminated character set" ((← tell) - here)
    match ← next with
    | none => unterminated
    | some this =>
      if this = [']'] ∧ !acc.isEmpty then return acc.reverse
      else
        let low ← setItem this
        if ← accept '-' then
          match ← next with
          | none => unterminated
          | some that =>
            if that = [']'] then return (.range 45 45 :: low :: acc).reverse
            else
              let high ← setItem that
              let bad : Reader (List SetItem) := failAt
                s!"bad character range {String.ofList this}-{String.ofList that}"
                (this.length + 1 + that.length)
              match low, high with
              | .range a _, .range b _ =>
                if b < a then bad else setItems here fuel (.range a b :: acc)
              | _, _ => bad
        else setItems here fuel (low :: acc)

/-! ## Flags -/

def Flags.set (f : Flags) (c : Char) (on : Bool) : Flags :=
  match c with
  | 'i' => { f with ignoreCase := on }
  | 'm' => { f with multiLine := on }
  | 's' => { f with dotAll := on }
  | 'x' => { f with verbose := on }
  | 'a' => { f with ascii := on }
  | 'u' => { f with ascii := !on }
  | _ => f

def isFlag (c : Char) : Bool := "iLmsxatu".toList.contains c

/-- Letters of flags that choose what a letter is. -/
def isTypeFlag (c : Char) : Bool := c = 'a' || c = 'u' || c = 'L'

def isLetter (c : Char) : Bool := Text.isWordChar c && !Text.isDecimalDigit c && c != '_'

def single (t : List Char) : Option Char :=
  match t with
  | [c] => some c
  | _ => none

/-- Flags to be set, and the character after them. -/
def flagsOn : Nat → List Char → Char → Reader (List Char × Char)
  | 0, acc, c => return (acc, c)
  | fuel + 1, acc, c => do
    if c = 'L' then failAt "bad inline flags: cannot use 'L' flag with a str pattern" 0
    else if isTypeFlag c ∧ acc.any (fun d => isTypeFlag d && d != c) then
      failAt "bad inline flags: flags 'a', 'u' and 'L' are incompatible" 0
    else
      let acc := c :: acc
      match ← next with
      | none => failAt "missing -, : or )" 0
      | some t =>
        match single t with
        | some d =>
          if d = ')' ∨ d = '-' ∨ d = ':' then return (acc, d)
          else if isFlag d then flagsOn fuel acc d
          else failAt (if isLetter d then "unknown flag" else "missing -, : or )") 1
        | none => failAt "missing -, : or )" t.length

/-- Flags to be taken away, up to the colon. -/
def flagsOff : Nat → List Char → Char → Reader (List Char)
  | 0, acc, _ => return acc
  | fuel + 1, acc, c => do
    if isTypeFlag c then
      failAt "bad inline flags: cannot turn off flags 'a', 'u' and 'L'" 0
    else
      let acc := c :: acc
      match ← next with
      | none => failAt "missing :" 0
      | some t =>
        match single t with
        | some d =>
          if d = ':' then return acc
          else if isFlag d then flagsOff fuel acc d
          else failAt (if isLetter d then "unknown flag" else "missing :") 1
        | none => failAt "missing :" t.length

/-- Flags after a question mark: set for the rest of the expression, or for one group. -/
def inlineFlags (c : Char) : Reader (Option (List Char × List Char)) := do
  let fuel ← fuelHere
  let (on, stop) ← if c = '-' then pure ([], '-') else flagsOn fuel [] c
  if stop = ')' then
    modify fun s => { s with
      flags := on.foldl (fun f c => f.set c true) s.flags
      letters := on ++ s.letters }
    return none
  else if on.contains 't' then failAt "bad inline flags: cannot turn on global flag" 1
  else if stop = '-' then
    match ← next with
    | none => failAt "missing flag" 0
    | some t =>
      match single t with
      | some d =>
        if isFlag d then
          let off ← flagsOff fuel [] d
          if off.contains 't' then failAt "bad inline flags: cannot turn off global flag" 1
          else if on.any off.contains then failAt "bad inline flags: flag turned on and off" 1
          else return some (on, off)
        else failAt (if isLetter d then "unknown flag" else "missing flag") 1
      | none => failAt "missing flag" t.length
  else return some (on, [])

/-! ## Terms -/

/-- Repetitions of this many or more are refused. -/
def maxRepeat : Nat := 4294967295

def bound (ds : List Char) : Reader Nat :=
  if Text.maxDigits < ds.length then throw (.value (Text.tooManyDigits ds.length))
  else if maxRepeat ≤ valueOf 10 ds then throw (.overflow "the repetition number is too large")
  else return valueOf 10 ds

/-- The bounds of a repetition in braces, or none if it is no repetition. -/
def bounds : Reader (Option (Nat × Option Nat)) := do
  let here ← tell
  let fuel ← fuelHere
  let saved ← get
  let lo ← takeWhile Char.isDigit fuel
  let hi ← if ← accept ',' then takeWhile Char.isDigit fuel else pure lo
  if !(← accept '\x7d') then
    set saved
    return none
  else
    let least ← if lo.isEmpty then pure 0 else bound lo
    if hi.isEmpty then return some (least, none)
    else
      let most ← bound hi
      if most < least then failAt "min repeat greater than max repeat" ((← tell) - here)
      else return some (least, some most)

def isRepeat : Term → Bool
  | .repeated .. => true
  | _ => false

def isAnchor : Term → Bool
  | .anchor _ => true
  | _ => false

/-- Reads how a repetition chooses between more and fewer rounds. -/
def manner : Reader Manner := do
  if ← accept '?' then return .lazy
  if ← accept '+' then return .possessive
  return .greedy

/-- Repeats the last of the terms so far, which are held latest first. -/
def repeatLast (here width : Nat) (least : Nat) (most : Option Nat) (acc : List Term) :
    Reader (List Term) := do
  let back := (← tell) - here + width
  match acc with
  | [] => failAt "nothing to repeat" back
  | t :: before =>
    if isAnchor t then failAt "nothing to repeat" back
    else if isRepeat t then failAt "multiple repeat" back
    else
      let body := match t with
        | .group none inner => inner
        | other => [other]
      return .repeated least most (← manner) body :: before

/-- Drops the shell of groups that neither capture nor change flags. -/
def unpack (ts : List Term) : List Term := ts.flatMap fun
  | .group none body => body
  | t => [t]

/-- Opens a group and gives its number. -/
def openGroup (name : Option String) : Reader Nat := do
  let s ← get
  let index := s.groups
  match name with
  | none =>
    set { s with groups := index + 1 }
    return index
  | some n =>
    match s.names.lookup n with
    | some old =>
      failAt s!"redefinition of group name {Text.literal n} as group {index}; was group {old}"
        (n.length + 1)
    | none =>
      set { s with groups := index + 1, names := (n, index) :: s.names }
      return index

/-- What the opening of a group turned out to be. -/
inductive Opening where
  /-- Nothing more is to be read; the terms to add. -/
  | done (ts : List Term)
  | capture (name : Option String)
  | plain (flags : Option Flags)
  | atomic
  | look (ahead negated : Bool)
  | condition (index : Nat)

def skipComment (start : Nat) : Nat → Reader Unit
  | 0 => return ()
  | fuel + 1 => do
    match ← peek with
    | none => failAt "missing ), unterminated comment" ((← tell) - start)
    | some _ => if (← next) = some [')'] then return () else skipComment start fuel

def groupNamed (name : String) : Reader Nat := do
  match (← get).names.lookup name with
  | some index => return index
  | none => failAt ("unknown group name " ++ Text.literal name) (name.length + 1)

/-- Groups have smaller numbers. -/
def maxGroups : Nat := 1073741823

/-- The group a condition asks for. -/
def conditionGroup : Reader Nat := do
  let name ← takeUntil ')' "group name" (← fuelHere) []
  let index ←
    if isIdentifier name then groupNamed name
    else
      let bad : Reader Nat :=
        failAt ("bad character in group name " ++ Text.literal name) (name.length + 1)
      match Text.readInteger 10 name.toList with
      | .error _ => bad
      | .ok number =>
        if number < 0 then bad
        else
          let n := number.toNat
          if n = 0 then failAt "bad group number" (name.length + 1)
          else if maxGroups ≤ n then failAt s!"invalid group reference {n}" (name.length + 1)
          else
            let place := (← tell) - name.length - 1
            modify fun s => if (s.asked.lookup n).isSome then s
              else { s with asked := s.asked ++ [(n, place)] }
            pure n
  checkBehind index
  return index

/-- Reads what follows an opening parenthesis. `atStart` says whether flags for the whole
expression may stand here. -/
def opening (start : Nat) (atStart : Bool) : Reader Opening := do
  if !(← accept '?') then return .capture none
  else
    match ← next with
    | none => failAt "unexpected end of pattern" 0
    | some t =>
      let unknown : Reader Opening := failAt ("unknown extension ?" ++ String.ofList t) (t.length + 1)
      match single t with
      | none => unknown
      | some c =>
        if c = 'P' then
          if ← accept '<' then
            let name ← takeUntil '>' "group name" (← fuelHere) []
            checkName name 1
            return .capture (some name)
          else if ← accept '=' then
            let name ← takeUntil ')' "group name" (← fuelHere) []
            checkName name 1
            let index ← groupNamed name
            checkGroup index (name.length + 1)
            checkBehind index
            return .done [← referTo index]
          else
            match ← next with
            | none => failAt "unexpected end of pattern" 0
            | some u => failAt ("unknown extension ?P" ++ String.ofList u) (u.length + 2)
        else if c = ':' then return .plain none
        else if c = '#' then
          skipComment start (← fuelHere)
          return .done []
        else if c = '=' ∨ c = '!' then return .look true (c = '!')
        else if c = '<' then
          match ← next with
          | none => failAt "unexpected end of pattern" 0
          | some u =>
            if u = ['='] then return .look false false
            else if u = ['!'] then return .look false true
            else failAt ("unknown extension ?<" ++ String.ofList u) (u.length + 2)
        else if c = '(' then return .condition (← conditionGroup)
        else if c = '>' then return .atomic
        else if isFlag c ∨ c = '-' then
          match ← inlineFlags c with
          | none =>
            if atStart then return .done []
            else failAt "global flags not at the start of the expression" ((← tell) - start)
          | some (on, off) =>
            let flags := (← get).flags
            let flags := on.foldl (fun f c => f.set c true) flags
            let flags := off.foldl (fun f c => f.set c false) flags
            return .plain (some flags)
        else unknown

/-- Takes the closing parenthesis of what was opened at `start`. -/
def close (start : Nat) : Reader Unit := do
  if !(← accept ')') then failAt "missing ), unterminated subpattern" ((← tell) - start)

def skipLine : Nat → Reader Unit
  | 0 => return ()
  | fuel + 1 => do
    match ← next with
    | none => return ()
    | some t => if t = ['\n'] then return () else skipLine fuel

mutual

/-- Alternatives up to a closing parenthesis or the end. -/
def alternatives : Nat → Bool → Reader (List Term)
  | 0, _ => return []
  | fuel + 1, outermost => do
    let first ← sequence fuel outermost []
    let rest ← moreBranches fuel
    return if rest.isEmpty then first else [.branch (first :: rest)]

def moreBranches : Nat → Reader (List (List Term))
  | 0 => return []
  | fuel + 1 => do
    if ← accept '|' then
      let b ← sequence fuel false []
      return b :: (← moreBranches fuel)
    else return []

/-- Terms one after the other; `acc` holds those read, latest first. -/
def sequence : Nat → Bool → List Term → Reader (List Term)
  | 0, _, acc => return unpack acc.reverse
  | fuel + 1, atStart, acc => do
    let flags := (← get).flags
    match ← peek with
    | none => return unpack acc.reverse
    | some this =>
      if this = ['|'] ∨ this = [')'] then return unpack acc.reverse
      else
        let place ← tell
        let _ ← next
        match this with
        | ['\\', c] => sequence fuel atStart ((← escape c) :: acc)
        | [c] =>
          if flags.verbose ∧ " \t\n\r\x0b\x0c".toList.contains c then sequence fuel atStart acc
          else if flags.verbose ∧ c = '#' then
            skipLine (← fuelHere)
            sequence fuel atStart acc
          else if c = '[' then
            let negated ← accept '^'
            let items ← setItems place (← fuelHere) []
            sequence fuel atStart (.set negated items flags.ignoreCase :: acc)
          else if c = '*' ∨ c = '+' ∨ c = '?' then
            let here ← tell
            let acc ← repeatLast here 1 (if c = '+' then 1 else 0) (if c = '?' then some 1 else none) acc
            sequence fuel atStart acc
          else if c = '\x7b' then
            if (← peek) = some ['\x7d'] then sequence fuel atStart (.char c flags.ignoreCase :: acc)
            else
              let here ← tell
              match ← bounds with
              | none => sequence fuel atStart (.char c flags.ignoreCase :: acc)
              | some (least, most) => sequence fuel atStart (← repeatLast here 1 least most acc)
          else if c = '.' then sequence fuel atStart (.any flags.dotAll :: acc)
          else if c = '^' then
            sequence fuel atStart (.anchor (if flags.multiLine then .lineStart else .textStart) :: acc)
          else if c = '$' then
            sequence fuel atStart (.anchor (if flags.multiLine then .lineEnd else .lastLineEnd) :: acc)
          else if c = '(' then
            let added ← grouped fuel place (atStart && acc.isEmpty)
            sequence fuel atStart (added.reverse ++ acc)
          else sequence fuel atStart (.char c flags.ignoreCase :: acc)
        | _ => sequence fuel atStart acc

/-- What stands in parentheses that were opened at `start`. -/
def grouped : Nat → Nat → Bool → Reader (List Term)
  | 0, _, _ => return []
  | fuel + 1, start, atStart => do
    let outer := (← get).flags
    match ← opening start atStart with
    | .done ts => return ts
    | .capture name =>
      let index ← openGroup name
      let body ← alternatives fuel false
      close start
      modify fun s => { s with closed := (index, widths body) :: s.closed }
      return [.group (some index) body]
    | .plain flags =>
      match flags with
      | none =>
        let body ← alternatives fuel false
        close start
        return [.group none body]
      | some f =>
        modify fun s => { s with flags := f }
        let body ← alternatives fuel false
        close start
        modify fun s => { s with flags := outer }
        return [.branch [body]]
    | .atomic =>
      let body ← alternatives fuel false
      close start
      return [.atomic body]
    | .look ahead negated =>
      let before := (← get).behind
      if !ahead ∧ before.isNone then modify fun s => { s with behind := some s.groups }
      let body ← alternatives fuel false
      if !ahead ∧ before.isNone then modify fun s => { s with behind := none }
      close start
      return if ahead then [.ahead negated body] else [.behind negated (widths body).1 body]
    | .condition index =>
      let yes ← sequence fuel false []
      let no ← if ← accept '|' then
          let b ← sequence fuel false []
          if (← peek) = some ['|'] then
            failAt "conditional backref with more than two branches" 0
          else pure b
        else pure []
      close start
      return [.ifGroup index yes no]

end

/-- A repetition as it is named where none is allowed. -/
def Manner.label : Manner → String
  | .greedy => "MAX_REPEAT"
  | .lazy => "MIN_REPEAT"
  | .possessive => "POSSESSIVE_REPEAT"

mutual

/-- What is wrong with a term that was read: a repetition where there may be none, or a look-behind
without a fixed width. -/
def Term.defect? (template : Bool) : Term → Option String
  | .behind _ width body =>
    if maxRepeat < width then some "looks too much behind"
    else if (widths body).2 ≠ some width then some "look-behind requires fixed-width pattern"
    else defectIn? template body
  | .repeated _ _ manner body =>
    if template then some ("internal: unsupported template operator " ++ manner.label)
    else defectIn? template body
  | .group _ body => defectIn? template body
  | .branch bs => defectAmong? template bs
  | .ahead _ body => defectIn? template body
  | .ifGroup _ yes no => (defectIn? template yes).or (defectIn? template no)
  | .atomic body => defectIn? template body
  | _ => none

def defectIn? (template : Bool) : List Term → Option String
  | [] => none
  | t :: ts => (t.defect? template).or (defectIn? template ts)

def defectAmong? (template : Bool) : List (List Term) → Option String
  | [] => none
  | b :: bs => (defectIn? template b).or (defectAmong? template bs)

end

def whole : Reader (List Term) := do
  checkEnd
  let terms ← alternatives (4 * (← fuelHere) + 4) true
  let letters := (← get).letters
  if letters.contains 'a' && letters.contains 'u' then
    throw (.value "ASCII and UNICODE flags are incompatible")
  else if (← peek).isSome then failAt "unbalanced parenthesis" 0
  else return terms

/-- The wording of a fault, with its place and, in an expression of several lines, its line. -/
def Fault.render (expression : String) : Fault → String
  | .wrong message none => message
  | .wrong message (some p) =>
    let base := s!"{message} at position {p}"
    let cs := expression.toList
    if cs.contains '\n' then
      let before := cs.take p
      let line := (before.filter (· == '\n')).length + 1
      let column := (before.reverse.takeWhile (· != '\n')).length + 1
      base ++ s!" (line {line}, column {column})"
    else base
  | .value message => message
  | .overflow message => message
  | .unheld what => what.message

def compile (expression : String) : Except Fault Pattern :=
  let toks := toToks 0 expression.toList
  if maxDepth < toks.countP (fun t => t.text == ['(']) then .error (.unheld .deep)
  else
    match whole ⟨toks, expression.length, 1, [], [], none, [], Flags.none, []⟩ with
    | .error f => .error f
    | .ok (terms, s) =>
      match s.asked.find? fun a => s.groups ≤ a.1 with
      | some (index, place) => .error (.wrong s!"invalid group reference {index}" (some place))
      | none =>
        match defectIn? (s.letters.contains 't') terms with
        | some message => .error (.wrong message none)
        | none => .ok ⟨terms, s.groups - 1⟩

end DomainAtlas.Regex
