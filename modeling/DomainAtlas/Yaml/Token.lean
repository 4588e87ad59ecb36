import DomainAtlas.Yaml.Fault

/-!
# Tokens of YAML

A document is a sequence of tokens. Some stand for characters, some for indentation: a block of a
deeper indentation starts with its own token and ends with another.
-/
namespace DomainAtlas.Yaml

/-- A line that starts with a percent sign. -/
inductive Directive where
  | version (major minor : Nat)
  /-- An abbreviation for the start of tags. -/
  | handle (name start : String)
  | other
  deriving DecidableEq, Repr

inductive TokenKind where
  | directive (d : Directive)
  | documentStart
  | documentEnd
  | streamEnd
  | blockSequence
  | blockMapping
  | blockEnd
  | openSequence
  | closeSequence
  | openMapping
  | closeMapping
  | key
  | value
  | entry
  | comma
  | reference (name : String)
  | anchor (name : String)
  /-- A tag: its handle, if it is abbreviated, and the rest. -/
  | tag (handle : Option String) (suffix : String)
  | scalar (text : String) (isPlain : Bool)
  deriving DecidableEq, Repr

def TokenKind.label : TokenKind → String
  | .directive _ => "<directive>"
  | .documentStart => "<document start>"
  | .documentEnd => "<document end>"
  | .streamEnd => "<stream end>"
  | .blockSequence => "<block sequence start>"
  | .blockMapping => "<block mapping start>"
  | .blockEnd => "<block end>"
  | .openSequence => "["
  | .closeSequence => "]"
  | .openMapping => "\x7b"
  | .closeMapping => "\x7d"
  | .key => "?"
  | .value => ":"
  | .entry => "-"
  | .comma => ","
  | .reference _ => "<alias>"
  | .anchor _ => "<anchor>"
  | .tag .. => "<tag>"
  | .scalar .. => "<scalar>"

/-- Whether a token goes into a collection or out of it. -/
inductive Turn where
  | opens
  | closes
  | stays

def TokenKind.turn : TokenKind → Turn
  | .blockSequence => .opens
  | .blockMapping => .opens
  | .openSequence => .opens
  | .openMapping => .opens
  | .blockEnd => .closes
  | .closeSequence => .closes
  | .closeMapping => .closes
  | _ => .stays

structure Token where
  kind : TokenKind
  start : Mark
  stop : Mark
  deriving DecidableEq, Repr

/-- A token that takes no room. -/
def Token.at (kind : TokenKind) (m : Mark) : Token := ⟨kind, m, m⟩

end DomainAtlas.Yaml
