import DomainAtlas.Text.Literal
import DomainAtlas.Text.Similarity

/-!
# Arguments of a command

A command has options and at most one argument. An option has long names, which start with two
dashes, or one dash and one letter; some take a value, which follows as the next word, after an equals
sign, or right after the letter. Two dashes alone end the options.

`Command.parse` tells options and arguments apart, in the order in which they are given. Whether they
make sense is decided later.
-/
namespace DomainAtlas.CommandLine

/-- What an option is about. -/
inductive Topic where
  | help
  | version
  | verbose
  | outputDir
  | noCache
  | usages
  | json
  | yes
  deriving DecidableEq, Repr

structure Opt where
  topic : Topic
  names : List String
  /-- Names that switch it off. -/
  offNames : List String
  /-- What its value is called, if it takes one. -/
  value : Option String
  help : String
  deriving DecidableEq, Repr

namespace Opt

def allNames (o : Opt) : List String := o.names ++ o.offNames

end Opt

structure Command where
  name : String
  options : List Opt
  /-- The name of its argument. -/
  argument : Option String
  /-- The names and summaries of its subcommands. -/
  subcommands : List (String × String)
  help : List String
  deriving DecidableEq, Repr

/-- What is wrong with the words on a command line. -/
inductive UsageFault where
  | noSuchOption (name : String) (near : List String)
  | noSuchCommand (name : String) (near : List String)
  | missingCommand
  | missingArgument (name : String)
  | invalid (parameter reason : String)
  | extraArguments (words : List String)
  | needsValue (option : String)
  | takesNoValue (option : String)
  deriving DecidableEq, Repr

namespace UsageFault

def hint : List String → String
  | [] => ""
  | [n] => s!" Did you mean {Text.literal n}?"
  | ns => " (Did you mean one of: " ++ Text.join ", " (ns.map Text.literal) ++ "?)"

def message : UsageFault → String
  | .noSuchOption n near => s!"No such option {Text.literal n}." ++ hint near
  | .noSuchCommand n near => s!"No such command {Text.literal n}." ++ hint near
  | .missingCommand => "Missing command."
  | .missingArgument n => s!"Missing argument '{n}'."
  | .invalid p reason => s!"Invalid value for {p}: {reason}"
  | .extraArguments ws =>
    (if ws.length = 1 then "Got unexpected extra argument (" else "Got unexpected extra arguments (")
      ++ Text.join " " ws ++ ")"
  | .needsValue o => s!"Option {Text.literal o} requires an argument."
  | .takesNoValue o => s!"Option {Text.literal o} does not take a value."

/-- Whether the usage of the command is shown along with a fault. -/
def showsUsage : UsageFault → Bool
  | .needsValue _ => false
  | .takesNoValue _ => false
  | _ => true

end UsageFault

inductive Given where
  | switch (topic : Topic) (on : Bool)
  | value (topic : Topic) (text : String)
  deriving DecidableEq, Repr

def Given.topic : Given → Topic
  | .switch t _ => t
  | .value t _ => t

/-- What a command line says: the options in order, and the other words. -/
structure Words where
  given : List Given
  rest : List String
  deriving DecidableEq, Repr

namespace Command

/-- The option of a name, and whether the name switches it on. -/
def option? (c : Command) (name : String) : Option (Opt × Bool) :=
  (c.options.find? fun o => o.allNames.contains name).map fun o => (o, o.names.contains name)

def isLong (name : String) : Bool := Text.startsWith name "--"

def longNames (c : Command) : List String := (c.options.flatMap Opt.allNames).filter isLong

/-- Takes the value of an option off the words that follow. -/
def takeValue (o : Opt) (name : String) (words : List String) :
    Except UsageFault (Given × List String) :=
  match words with
  | [] => .error (.needsValue name)
  | w :: ws => .ok (.value o.topic w, ws)

/-- Reads the letters after one dash. -/
def letters (c : Command) : List Char → List String → Except UsageFault (List Given × List String)
  | [], words => .ok ([], words)
  | l :: ls, words =>
    let name := String.ofList ['-', l]
    match c.option? name with
    | none => .error (.noSuchOption name [])
    | some (o, on) =>
      if o.value.isSome then
        let words := if ls.isEmpty then words else String.ofList ls :: words
        (takeValue o name words).map fun (g, ws) => ([g], ws)
      else (letters c ls words).map fun (gs, ws) => (.switch o.topic on :: gs, ws)

/-- Reads a word that starts with a dash. -/
def dashed (c : Command) (word : String) (words : List String) :
    Except UsageFault (List Given × List String) :=
  let cs := word.toList
  let name := String.ofList (cs.takeWhile (· != '='))
  let attached : Option String := match cs.dropWhile (· != '=') with
    | _ :: v => some (String.ofList v)
    | [] => none
  if !isLong word then letters c cs.tail words
  else
    match c.option? name with
    | none => .error (.noSuchOption name (Text.similarTo name c.longNames))
    | some (o, on) =>
      if o.value.isSome then
        (takeValue o name (attached.toList ++ words)).map fun (g, ws) => ([g], ws)
      else if attached.isSome then .error (.takesNoValue name)
      else .ok ([.switch o.topic on], words)

/-- Whether the options of a command may stand among its other words. A command with subcommands
leaves everything from the first other word on to the subcommand. -/
def interspersed (c : Command) : Bool := c.subcommands.isEmpty

/-- Tells options and other words apart; `fuel` bounds the number of words. -/
def parseFuel (c : Command) : Nat → List String → Except UsageFault Words
  | 0, words => .ok ⟨[], words⟩
  | _ + 1, [] => .ok ⟨[], []⟩
  | fuel + 1, w :: ws =>
    if w = "--" then .ok ⟨[], ws⟩
    else if Text.startsWith w "-" ∧ w ≠ "-" then do
      let (given, ws) ← c.dashed w ws
      let more ← c.parseFuel fuel ws
      return ⟨given ++ more.given, more.rest⟩
    else if c.interspersed then do
      let more ← c.parseFuel fuel ws
      return ⟨more.given, w :: more.rest⟩
    else .ok ⟨[], w :: ws⟩

/-- Tells options and other words apart. -/
def parse (c : Command) (words : List String) : Except UsageFault Words :=
  c.parseFuel (words.length + 1) words

end Command

namespace Words

/-- Whether a switch is on; the last word on it counts. -/
def isOn (w : Words) (t : Topic) : Option Bool :=
  w.given.foldl (fun acc g =>
    match g with
    | .switch u on => if u = t then some on else acc
    | .value .. => acc) none

/-- The value of an option; the last one counts. -/
def value? (w : Words) (t : Topic) : Option String :=
  w.given.foldl (fun acc g =>
    match g with
    | .value u v => if u = t then some v else acc
    | .switch .. => acc) none

/-- The first of help and version that is asked for. -/
def asksFor? (w : Words) : Option Topic :=
  (w.given.map Given.topic).find? fun t => t == .help || t == .version

end Words

end DomainAtlas.CommandLine
