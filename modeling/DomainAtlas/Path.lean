import DomainAtlas.Text.Basic

/-!
# Paths

A path is a root (none, one slash or two) and its components. Reading a path drops empty
components and single dots, so two spellings of the same path are equal; two dots are kept, since
what they mean depends on links. `Path.lexical` resolves them for paths without links.
-/
namespace DomainAtlas

/-- A path. -/
structure Path where
  /-- The empty text, one slash or two. -/
  root : String
  parts : List String
  deriving DecidableEq, Repr

namespace Path

/-- The root of a written path: exactly two leading slashes are kept apart. -/
def rootOf (cs : List Char) : String :=
  match cs.takeWhile (· == '/') with
  | [] => ""
  | ['/', '/'] => "//"
  | _ => "/"

/-- Whether a component says something. -/
def isComponent (s : String) : Bool := s != "" && s != "."

def parse (s : String) : Path := ⟨rootOf s.toList, (Text.split '/' s).filter isComponent⟩

def text (p : Path) : String :=
  if p.root = "" ∧ p.parts = [] then "." else p.root ++ Text.join "/" p.parts

/-- Whether a path starts at the root. -/
def isAbsolute (p : Path) : Bool := p.root != ""

/-- The path `q` seen from `p`. -/
def join (p q : Path) : Path := if q.isAbsolute then q else ⟨p.root, p.parts ++ q.parts⟩

instance : Div Path := ⟨join⟩

/-- The path without its last component. -/
def parent (p : Path) : Path := { p with parts := p.parts.dropLast }

/-- Whether a path has a zero character in it. No operation on files takes such a path. -/
def hasZero (p : Path) : Bool := p.parts.any fun part => part.toList.contains '\x00'

def zeroFault : String := "embedded null byte"

def name (p : Path) : String := p.parts.getLast?.getD ""

/-- The ending of a name, from its last dot on. A name that starts or ends with that dot has
none. -/
def suffixOf (name : String) : String :=
  let cs := name.toList
  let tail := (cs.reverse.takeWhile (· ≠ '.')).reverse
  let stem := cs.length - tail.length - 1
  if !cs.contains '.' || stem = 0 || tail.isEmpty then "" else String.ofList ('.' :: tail)

/-- The ending of the last component. -/
def suffix (p : Path) : String := suffixOf p.name

/-- Pushes a component on the components so far, latest first: two dots take the latest away. -/
def push (stack : List String) (part : String) : List String :=
  if part = ".." then stack.tail else part :: stack

/-- The components of an absolute path with two dots resolved, never above the root. -/
def lexical (parts : List String) : List String := (parts.foldl push []).reverse

/-- The components of a path without links, seen from a directory. An absolute one has no two dots. -/
def seenFrom (cwd : List String) (p : Path) : List String :=
  if p.isAbsolute then p.parts else lexical (cwd ++ p.parts)

/-- One step up from a path without links, seen from a directory, never above the root. -/
def ascend (cwd : List String) (p : Path) : Path :=
  if p.isAbsolute || p.parts.getLast?.any (· != "..") then p.parent
  else if p.parts.length < cwd.length then ⟨"", p.parts ++ [".."]⟩
  else p

/-- The absolute path of a path that is seen from a directory. Two dots are resolved as they are
written, whatever links are on the way. -/
def absolute (cwd : List String) (p : Path) : Path :=
  if p.isAbsolute then ⟨p.root, lexical p.parts⟩ else ⟨"/", lexical (cwd ++ p.parts)⟩

theorem isAbsolute_absolute (cwd : List String) (p : Path) : (p.absolute cwd).isAbsolute = true := by
  unfold absolute
  split
  · assumption
  · rfl

end Path

end DomainAtlas
