import DomainAtlas.CommandLine.Syntax
import DomainAtlas.Text.CharSet

/-!
# Help texts

The help of a command shows how it is used, what it does, its options and its subcommands, filled to
the width of the console. Lines may break after a hyphen between letters.
-/
namespace DomainAtlas.CommandLine

def helpWidth (columns : Nat) : Nat := max (min columns 80) 50

/-! ## Filling paragraphs -/

/-- Whether a word may be cut after a hyphen, by what stands before it, latest first, and behind it. -/
def cutsAfterHyphen (before after : List Char) : Bool :=
  (match before with
    | a :: b :: _ => a.isAlpha && b.isAlpha
    | _ => false) &&
  (match after with
    | a :: '-' :: b :: _ => a.isAlpha && b.isAlpha
    | a :: b :: _ => a.isAlpha && b.isAlpha
    | _ => false)

/-- Cuts a word after its hyphens. `before` is the part so far, latest first. -/
def syllables (before : List Char) : List Char → List (List Char)
  | [] => if before.isEmpty then [] else [before.reverse]
  | c :: cs =>
    if c = '-' ∧ cutsAfterHyphen before cs then (c :: before).reverse :: syllables [] cs
    else syllables (c :: before) cs

/-- The pieces of a text: each with whether a space stands before it. -/
def piecesOf (text : String) : List (Bool × List Char) :=
  ((text.splitOn " ").filter (· != "")).flatMap fun w =>
    match syllables [] w.toList with
    | [] => []
    | p :: ps => (true, p) :: ps.map fun q => (false, q)

/-- Fills pieces into lines. `line` is the one so far. -/
def fillFrom (width : Nat) (line : List Char) : List (Bool × List Char) → List (List Char)
  | [] => if line.isEmpty then [] else [line]
  | (spaced, p) :: ps =>
    let gap := if spaced ∧ !line.isEmpty then 1 else 0
    if line.isEmpty then fillFrom width p ps
    else if line.length + gap + p.length ≤ width then
      fillFrom width (line ++ List.replicate gap ' ' ++ p) ps
    else line :: fillFrom width p ps

def fill (width : Nat) (text : String) : List String :=
  (fillFrom width [] (piecesOf text)).map String.ofList

/-! ## Summaries -/

/-- The words of a text up to its first full stop. -/
def firstSentence : List String → List String
  | [] => []
  | w :: ws => if Text.endsWith w "." then [w] else w :: firstSentence ws

/-- As many words as fit in front of an ellipsis. `used` counts the characters so far. -/
def wordsBefore (limit used : Nat) : List String → List String
  | [] => []
  | w :: ws =>
    let next := used + w.length + (if used = 0 then 0 else 1)
    if next + 3 ≤ limit then w :: wordsBefore limit next ws else []

/-- A text in at most `limit` characters: its first sentence, or as much of it as fits. -/
def summary (limit : Nat) (text : String) : String :=
  let words := (text.splitOn " ").filter (· != "")
  let sentence := Text.join " " (firstSentence words)
  if sentence.length ≤ limit then sentence
  else Text.join " " (wordsBefore limit 0 words) ++ "..."

/-! ## Parts of a help text -/

def indented (n : Nat) (s : String) : String := Text.times n " " ++ s

/-- A list of terms with explanations, in two columns. -/
def definitions (width : Nat) (rows : List (String × String)) : List String :=
  let column := min 30 ((rows.map fun r => r.1.length).foldl max 0) + 2
  rows.flatMap fun (term, text) =>
    let lines := fill (max (width - column - 2) 10) text
    let pad (s : String) : String := s ++ Text.times (column - s.length) " "
    match lines with
    | [] => [indented 2 term]
    | first :: rest =>
      let start := if term.length + 2 ≤ column then [indented 2 (pad term ++ first)]
        else [indented 2 term, indented (column + 2) first]
      start ++ rest.map (indented (column + 2))

/-- The names of an option as help shows them, short ones first. -/
def Opt.term (o : Opt) : String :=
  let inOrder (ns : List String) : List String :=
    ns.filter (fun n => !Command.isLong n) ++ ns.filter Command.isLong
  let on := Text.join ", " (inOrder o.names)
  let off := Text.join ", " (inOrder o.offNames)
  let names := if o.offNames.isEmpty then on else on ++ " / " ++ off
  match o.value with
  | some v => names ++ " " ++ v
  | none => names

namespace Command

/-- How a command is used; `path` is what it is called with. -/
def usageLine (c : Command) (path : String) : String :=
  "Usage: " ++ path ++ " [OPTIONS]" ++
    (if c.subcommands.isEmpty then "" else " COMMAND [ARGS]...") ++
    (match c.argument with
      | some a => " " ++ a
      | none => "")

def helpText (c : Command) (path : String) (columns : Nat) : String :=
  let width := helpWidth columns
  let about := c.help.flatMap fun paragraph =>
    "" :: (fill (width - 2) paragraph).map (indented 2)
  let options := ["", "Options:"] ++ definitions width (c.options.map fun o => (o.term, o.help))
  let longest := (c.subcommands.map fun s => s.1.length).foldl max 0
  let rows := c.subcommands.map fun (name, text) => (name, summary (width - 6 - longest) text)
  let commands := if rows.isEmpty then [] else ["", "Commands:"] ++ definitions width rows
  Text.join "\n" (c.usageLine path :: (about ++ options ++ commands)) ++ "\n"

/-- What is said about words that are no proper use of a command. -/
def complaint (c : Command) (path : String) (f : UsageFault) : String :=
  (if f.showsUsage then s!"{c.usageLine path}\nTry '{path} --help' for help.\n\n" else "") ++
    s!"Error: {f.message}\n"

end Command

end DomainAtlas.CommandLine
