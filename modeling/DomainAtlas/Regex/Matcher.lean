import DomainAtlas.Regex.Parser
import DomainAtlas.Text.Casing

/-!
# Matching regular expressions

A match is searched by trying alternatives in order and going back when the rest fails. A place in
the text is given by what stands before it, latest first, and what follows. The matcher is handed
what is to be done after a term as a function; the first way that leads to a success counts.

Each call has fuel for the steps on one way through the expression; `search` supplies enough.
-/
namespace DomainAtlas.Regex

/-- A place in the text. -/
structure Place where
  before : List Char
  after : List Char
  deriving Repr

/-- The number of characters before a place. -/
def Place.offset (p : Place) : Nat := p.before.length

/-- The texts of the groups that have taken part so far, by number. -/
abbrev Groups := List (Nat × List Char)

/-- What has been reached: a place and the groups. -/
structure Reached where
  place : Place
  groups : Groups
  deriving Repr

/-- What is to be done next. -/
abbrev Next := Reached → Option Reached

/-- Both characters are the same when case does not matter. -/
def sameFolded (a b : Char) : Bool := a == b || Text.foldChar a == Text.foldChar b

def sameChar (folds : Bool) (a b : Char) : Bool := if folds then sameFolded a b else a == b

/-- Whether a character belongs to a class. -/
def Category.has (c : Category) (ascii : Bool) (x : Char) : Bool :=
  let plain := x.toNat < 128
  match c with
  | .digit => Text.isDecimalDigit x && (plain || !ascii)
  | .space => Text.isBlank x && (if ascii then plain && !(0x1c ≤ x.toNat && x.toNat ≤ 0x1f) else true)
  | .word => Text.isWordChar x && (plain || !ascii)

/-- Whether a character belongs to a member of a set. -/
def SetItem.has (x : Char) : SetItem → Bool
  | .range lo hi => lo ≤ x.toNat && x.toNat ≤ hi
  | .category c negated ascii => c.has ascii x != negated

/-- The other case of a character, as far as it is one character. -/
def casesOf (x : Char) : List Char :=
  match Text.foldChar x with
  | [y] => [x, y, x.toUpper, y.toUpper]
  | _ => [x]

def setHas (negated : Bool) (items : List SetItem) (folds : Bool) (x : Char) : Bool :=
  let found := if folds then (casesOf x).any fun y => items.any (SetItem.has y)
    else items.any (SetItem.has x)
  found != negated

def Anchor.holds (a : Anchor) (p : Place) : Bool :=
  let isWord (ascii : Bool) (c : Option Char) : Bool := (c.map (Category.word.has ascii)).getD false
  let edge (ascii : Bool) : Bool := isWord ascii p.before.head? != isWord ascii p.after.head?
  match a with
  | .textStart => p.before.isEmpty
  | .textEnd => p.after.isEmpty
  | .lineStart => p.before.head?.all (· == '\n')
  | .lineEnd => p.after.head?.all (· == '\n')
  | .lastLineEnd => p.after.isEmpty || p.after == ['\n']
  | .wordEdge ascii => edge ascii
  | .notWordEdge ascii => !edge ascii && !(p.before.isEmpty && p.after.isEmpty)

/-- Takes one character that satisfies a test. -/
def oneChar (test : Char → Bool) (k : Next) (r : Reached) : Option Reached :=
  match r.place.after with
  | [] => none
  | c :: cs => if test c then k { r with place := ⟨c :: r.place.before, cs⟩ } else none

/-- Takes some characters in order. -/
def allChars (folds : Bool) (k : Next) : List Char → Reached → Option Reached
  | [], r => k r
  | d :: ds, r => oneChar (sameChar folds d) (allChars folds k ds) r

/-- Goes back so many characters. -/
def goBack : Nat → Place → Option Place
  | 0, p => some p
  | n + 1, p =>
    match p.before with
    | [] => none
    | c :: cs => goBack n ⟨cs, c :: p.after⟩

mutual

/-- Matches one term and then the rest. -/
def Term.run : Nat → Term → Next → Next
  | 0, _, _ => fun _ => none
  | fuel + 1, t, k => fun r =>
    match t with
    | .char c folds => oneChar (sameChar folds c) k r
    | .any lineEndsToo => oneChar (fun c => lineEndsToo || c != '\n') k r
    | .set negated items folds => oneChar (setHas negated items folds) k r
    | .anchor a => if a.holds r.place then k r else none
    | .group none body => runAll fuel body k r
    | .group (some i) body =>
      let start := r.place.offset
      runAll fuel body (fun e =>
        let inside := (e.place.before.take (e.place.offset - start)).reverse
        k { e with groups := (i, inside) :: e.groups }) r
    | .branch bs => runBranches fuel bs k r
    | .repeated least most manner body =>
      match manner with
      | .possessive =>
        match repeatRun fuel least most true body none 0 some r with
        | some e => k e
        | none => none
      | .greedy => repeatRun fuel least most true body none 0 k r
      | .lazy => repeatRun fuel least most false body none 0 k r
    | .reference i _ folds =>
      match r.groups.lookup i with
      | none => none
      | some cs => allChars folds k cs r
    | .ahead negated body =>
      match runAll fuel body some r with
      | some e => if negated then none else k { r with groups := e.groups }
      | none => if negated then k r else none
    | .behind negated width body =>
      match (goBack width r.place).bind fun p => runAll fuel body some { r with place := p } with
      | some e => if negated then none else k { r with groups := e.groups }
      | none => if negated then k r else none
    | .ifGroup i yes no =>
      if (r.groups.lookup i).isSome then runAll fuel yes k r else runAll fuel no k r
    | .atomic body =>
      match runAll fuel body some r with
      | some e => k e
      | none => none

def runAll : Nat → List Term → Next → Next
  | 0, _, _ => fun _ => none
  | _ + 1, [], k => k
  | fuel + 1, t :: ts, k => fun r => t.run fuel (runAll fuel ts k) r

/-- Tries alternatives in order. -/
def runBranches : Nat → List (List Term) → Next → Next
  | 0, _, _ => fun _ => none
  | _ + 1, [], _ => fun _ => none
  | fuel + 1, b :: bs, k => fun r => (runAll fuel b k r).orElse fun _ => runBranches fuel bs k r

/-- Repeats a body. `count` is how often it has matched; `last` is where its last free match
started, so that a match of nothing is not tried again at the same place. -/
def repeatRun : Nat → Nat → Option Nat → Bool → List Term → Option Nat → Nat → Next → Next
  | 0, _, _, _, _, _, _, _ => fun _ => none
  | fuel + 1, least, most, greedy, body, last, count, k => fun r =>
    if count < least then
      runAll fuel body (repeatRun fuel least most greedy body none (count + 1) k) r
    else
      let again (_ : Unit) : Option Reached :=
        if most.any (· ≤ count) || last == some r.place.offset then none
        else
          runAll fuel body
            (repeatRun fuel least most greedy body (some r.place.offset) (count + 1) k) r
      if greedy then (again ()).orElse fun _ => k r
      else (k r).orElse again

end

/-- Tries to match at a place and then at each later one. -/
def searchFrom (p : Pattern) (fuel : Nat) (before : List Char) : List Char → Option Reached
  | [] => runAll fuel p.terms some ⟨⟨before, []⟩, []⟩
  | c :: cs =>
    match runAll fuel p.terms some ⟨⟨before, c :: cs⟩, []⟩ with
    | some r => some r
    | none => searchFrom p fuel (c :: before) cs

/-- The first match in a text: the text of its first group, if that took part. -/
def Pattern.search (p : Pattern) (text : String) : Option (Option String) :=
  let cs := text.toList
  let fuel := (cs.length + 2) * (weights p.terms + 4) + 16
  (searchFrom p fuel [] cs).map fun r => (r.groups.lookup 1).map String.ofList

end DomainAtlas.Regex
