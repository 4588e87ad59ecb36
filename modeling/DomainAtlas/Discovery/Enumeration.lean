import DomainAtlas.Dialect
import DomainAtlas.Discovery.Ignore
import DomainAtlas.Log.Event

/-!
# Enumeration of source files

The source files of a tree are found in a walk that lists the files of each directory in order of
name and then enters its directories in order of name. A directory is skipped because of its name
or because the ignore files exclude it. A file is kept when some dialect knows its ending, an
include glob takes it, no exclude glob does, and no ignore file excludes it.
-/
namespace DomainAtlas

/-- All files of a tree in the order of the walk. `enters` decides from the path and the name of a
directory whether it is entered. -/
def walk (enters : String → String → Bool) (base : String) : Tree → List String
  | .file _ => []
  | .dirLink => []
  | .dir es =>
    let files := (Text.sort (Tree.fileNames es)).map (below base)
    let nested := (walkEntries enters base es).mergeSort entryLe
    files ++ nested.flatMap Prod.snd
where
  /-- The files of each directory that is entered, by its name. -/
  walkEntries (enters : String → String → Bool) (base : String) :
      List (String × Tree) → List (String × List String)
    | [] => []
    | (name, t) :: rest =>
      let more := walkEntries enters base rest
      if enters (below base name) name then (name, walk enters (below base name) t) :: more
      else more

/-- What decides whether a file is kept. -/
structure Enumerator where
  includes : Glob.Ruleset
  excludes : Glob.Ruleset
  ignore : IgnoreChecker
  deriving Repr

/-- Why a file is not kept. -/
inductive Rejection where
  | noDialect
  | notIncluded
  | excludeGlob
  | ignoreFile
  deriving DecidableEq, Repr

namespace Enumerator

def make (tree : Tree) (includeGlobs excludeGlobs : List String) (respectGit : Bool) :
    Except Glob.PatternFault Enumerator :=
  match Glob.Ruleset.ofLines includeGlobs with
  | .error e => .error e
  | .ok includes =>
    match Glob.Ruleset.ofLines excludeGlobs with
    | .error e => .error e
    | .ok excludes => (IgnoreChecker.load tree respectGit).map fun c => ⟨includes, excludes, c⟩

/-- Why a file is not kept; none if it is. -/
def rejection (e : Enumerator) (path : String) : Option Rejection :=
  if (Dialect.ofPath? path).isNone then some .noDialect
  else if !e.includes.takes path then some .notIncluded
  else if e.excludes.takes path then some .excludeGlob
  else if e.ignore.excludes path false then some .ignoreFile
  else none

def accepts (e : Enumerator) (path : String) : Bool := (e.rejection path).isNone

def enters (e : Enumerator) (path name : String) : Bool :=
  !e.ignore.prunes name && !e.ignore.excludes path true

/-- The files the walk comes across. -/
def visited (e : Enumerator) (tree : Tree) : List String := walk e.enters "" tree

/-- The source files of a tree, in the order of the walk. -/
def paths (e : Enumerator) (tree : Tree) : List String := (e.visited tree).filter e.accepts

/-- The event about the ignore files, if there are any. -/
def loadEvents (e : Enumerator) : List Log.Event :=
  if e.ignore.lines.files.isEmpty then []
  else [.plain .debug "ignore_files_loaded" [("files", Json.texts e.ignore.lines.files),
    ("unpruned_dirs", Json.texts e.ignore.lifted)]]

/-- The event about a file that a pattern excludes. -/
def fileEvents (e : Enumerator) (path : String) : List Log.Event :=
  let excluded (reason : String) : List Log.Event :=
    [.plain .debug "file_excluded" [("path", .str path), ("reason", .str reason)]]
  match e.rejection path with
  | some .excludeGlob => excluded "exclude_glob"
  | some .ignoreFile => excluded "ignore_file"
  | _ => []

def walkEvents (e : Enumerator) (tree : Tree) : List Log.Event :=
  (e.visited tree).flatMap e.fileEvents

end Enumerator

end DomainAtlas
