import DomainAtlas.Glob.Pattern

/-!
# Rule sets

The lines of one or more ignore files, taken together. A path that is matched as itself follows
the last line that does so; a path that is matched only through its directories follows the last
of those lines.
-/
namespace DomainAtlas.Glob

/-- A list of compiled lines. -/
structure Ruleset where
  rules : List Rule
  deriving DecidableEq, Repr

/-- Compiles lines in order; the first fault ends it. -/
def compileAll : List String → Except PatternFault (List Rule)
  | [] => .ok []
  | line :: lines =>
    match compile line with
    | .error e => .error e
    | .ok none => compileAll lines
    | .ok (some rule) => (compileAll lines).map (rule :: ·)

def Ruleset.ofLines (lines : List String) : Except PatternFault Ruleset :=
  (compileAll lines).map Ruleset.mk

/-- What the rules have said so far about a path: through the path itself, and through one of its
directories. -/
structure Verdict where
  itself : Option Bool
  byDir : Option Bool
  deriving DecidableEq, Repr

/-- No rule has matched yet. -/
def Verdict.none : Verdict := ⟨.none, .none⟩

/-- Takes in what one rule says. -/
def Verdict.note (path : List Char) (v : Verdict) (r : Rule) : Verdict :=
  match r.shape.run path with
  | .none => v
  | some true => { v with byDir := some r.takes }
  | some false => { v with itself := some r.takes }

/-- The outcome: a match as itself goes before a match through a directory. -/
def Verdict.taken (v : Verdict) : Bool := ((v.itself.orElse fun _ => v.byDir).getD false)

/-- A path without a slash or a dot and a slash at its front. -/
def relative : List Char → List Char
  | '/' :: cs => cs
  | '.' :: '/' :: cs => cs
  | cs => cs

def Ruleset.takes (s : Ruleset) (path : String) : Bool :=
  (s.rules.foldl (Verdict.note (relative path.toList)) Verdict.none).taken

end DomainAtlas.Glob
