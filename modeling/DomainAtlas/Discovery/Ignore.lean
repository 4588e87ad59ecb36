import DomainAtlas.Discovery.Pruning
import DomainAtlas.Discovery.Tree
import DomainAtlas.Glob.Ruleset
import DomainAtlas.Text.Utf8

/-!
# Ignore files

The ignore files of a tree are gathered into one list of lines: each line of a nested file is
rewritten so that it applies from the root. A negated plain name in a file at the root also lifts
the default skipping of directories of that name.
-/
namespace DomainAtlas

/-- The name of the program's own ignore files. -/
def ignoreFileName : String := ".archscanignore"

/-- The name of the version-control ignore files. -/
def gitIgnoreFileName : String := ".gitignore"

/-- A line body of the ignore file in the directory `base`, rewritten to apply from the root. -/
def prefixPattern (pattern base : String) : String :=
  if base = "" then pattern
  else if Text.startsWith pattern "/" then "/" ++ base ++ pattern
  else if (Text.trimEndBy (· == '/') pattern.toList).contains '/' then
    "/" ++ base ++ "/" ++ pattern
  else "/" ++ base ++ "/**/" ++ pattern

/-- What the ignore files of a tree say. -/
structure IgnoreLines where
  /-- All lines, rewritten to apply from the root. -/
  patterns : List String
  /-- Names lifted at the root, in order of appearance. -/
  lifted : List String
  /-- The ignore files, from the root. -/
  files : List String
  deriving DecidableEq, Repr

def IgnoreLines.empty : IgnoreLines := ⟨[], [], []⟩

/-- Everything loaded, one after the other. -/
def IgnoreLines.append (a b : IgnoreLines) : IgnoreLines :=
  ⟨a.patterns ++ b.patterns, a.lifted ++ b.lifted, a.files ++ b.files⟩

instance : Append IgnoreLines := ⟨IgnoreLines.append⟩

/-- The name a negated line at the root lifts. -/
def liftedName? (body : String) : Option String :=
  let name := Text.stripChar '/' body
  if name = "" ∨ name.toList.contains '/' ∨ name.toList.contains '*' then none else some name

/-- What one line of an ignore file says. -/
def ignoreLine (base : String) (raw : String) : IgnoreLines :=
  let line := Text.strip raw
  match line.toList with
  | [] => .empty
  | '#' :: _ => .empty
  | '!' :: rest =>
    let body := String.ofList rest
    let lifted := if base = "" then (liftedName? body).toList else []
    ⟨["!" ++ prefixPattern body base], lifted, []⟩
  | _ => ⟨[prefixPattern line base], [], []⟩

/-- What an ignore file says. One that cannot be read says nothing. -/
def ignoreFile (base : String) (content : Option ByteArray) : IgnoreLines :=
  match content with
  | none => .empty
  | some bytes =>
    (Text.lines (Text.unifyBreaks (Text.decodeLossy bytes))).foldl
      (fun acc raw => acc ++ ignoreLine base raw) .empty

/-- A path below a directory, where the empty text is the root. -/
def below (base name : String) : String := if base = "" then name else base ++ "/" ++ name

/-- Loads the ignore file of one name from a directory, if it is there. -/
def loadNamed (base : String) (es : List (String × Tree)) (name : String) : IgnoreLines :=
  match es.lookup name with
  | some (.file content) => ignoreFile base content ++ ⟨[], [], [below base name]⟩
  | _ => .empty

/-- Whether the search for ignore files enters a directory. -/
def searchedDir (name : String) : Bool :=
  !(hardcodedDirs.contains name || defaultPrunableDirs.contains name)

/-- The names of ignore files, in the order in which they are loaded. -/
def ignoreNames (respectGit : Bool) : List String :=
  if respectGit then [gitIgnoreFileName, ignoreFileName] else [ignoreFileName]

/-- The order of entries by name. -/
def entryLe {α : Type} (a b : String × α) : Bool := Text.le a.1 b.1

/-- Loads the ignore files of a directory and then those of its directories, in order of name. -/
def loadTree (names : List String) (base : String) : Tree → IgnoreLines
  | .file _ => .empty
  | .dirLink => .empty
  | .dir es =>
    let own := names.foldl (fun acc name => acc ++ loadNamed base es name) .empty
    let nested := (loadEntries names base es).mergeSort entryLe
    nested.foldl (fun acc e => acc ++ e.2) own
where
  /-- What each directory that is searched says, by its name. -/
  loadEntries (names : List String) (base : String) :
      List (String × Tree) → List (String × IgnoreLines)
    | [] => []
    | (name, t) :: rest =>
      let more := loadEntries names base rest
      if searchedDir name then (name, loadTree names (below base name) t) :: more else more

/-- The checker of a tree: what the ignore files say, with their lines compiled. -/
structure IgnoreChecker where
  lines : IgnoreLines
  rules : Glob.Ruleset
  deriving Repr

namespace IgnoreChecker

/-- Loads all ignore files of a tree. -/
def load (tree : Tree) (respectGit : Bool) : Except Glob.PatternFault IgnoreChecker :=
  let lines := loadTree (ignoreNames respectGit) "" tree
  (Glob.Ruleset.ofLines lines.patterns).map fun rules => ⟨lines, rules⟩

/-- The names lifted at the root, sorted, each once. -/
def lifted (c : IgnoreChecker) : List String := (Text.sort c.lines.lifted).eraseDups

/-- Whether a directory is skipped because of its name. -/
def prunes (c : IgnoreChecker) (name : String) : Bool :=
  if isHardcodedDir name then true
  else if isDefaultPrunable name then !c.lines.lifted.contains name
  else false

/-- The form in which a path is matched: slashes only, and one at the end of a directory. -/
def matchable (path : String) (isDir : Bool) : String :=
  let s := Text.replace path "\\" "/"
  if isDir && !Text.endsWith s "/" then s ++ "/" else s

/-- Whether the ignore files exclude a path. -/
def excludes (c : IgnoreChecker) (path : String) (isDir : Bool) : Bool :=
  c.rules.takes (matchable path isDir)

end IgnoreChecker

end DomainAtlas
