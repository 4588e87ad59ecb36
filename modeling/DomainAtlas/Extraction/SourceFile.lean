import DomainAtlas.Config.Models
import DomainAtlas.Extraction.ClassDefinition
import DomainAtlas.Extraction.ScriptDefinition
import DomainAtlas.Php.Parser
import DomainAtlas.Script.Parser
import DomainAtlas.Problem

/-!
# Source files

From the bytes of a file to what it contributes: a syntax tree, the captures of the definition
query, at most one definition, and the names referred to. The parser is a parameter, since a scan
has to cope with parsers that fail; `parseTree` is the one that works.
-/
namespace DomainAtlas.Extraction

open DomainAtlas.Syntax

/-- What a parser comes back with. -/
inductive ParserOutcome where
  | tree (root : Node)
  /-- It failed, with this report. -/
  | raised (report : String)
  /-- It gave nothing. -/
  | nothing
  /-- There is no grammar for the dialect. -/
  | unavailable

/-- A parser: what it makes of the bytes of a file of some dialect at some path. -/
abbrev SourceParser := Dialect → String → ByteArray → ParserOutcome

def parseTree (d : Dialect) (src : ByteArray) : Node :=
  match d with
  | .php => Php.parse src
  | .script => Script.parse src

/-- The parser that always gives a tree. -/
def standardParser : SourceParser := fun d _ src => .tree (parseTree d src)

/-- The tree a parser gives, or the problem there is without one. -/
def treeOf (d : Dialect) (path : String) : ParserOutcome → Except Problem Node
  | .tree root => .ok root
  | .raised report => .error (.parseFailed path report)
  | .nothing => .error (.parseFailed path "parser returned no tree")
  | .unavailable =>
    .error (.unexpected ("grammar not available: " ++ d.grammar) [("dialect", .str d.name)])

/-- Reads the text of a quoted string of a query, up to its end; none if a quote or a line end
stands in it, or if it ends with an escape. -/
def queryString? : List Char → Option (List Char)
  | [] => some []
  | ['\\'] => none
  | '\\' :: c :: cs =>
    let d := if c = 'n' then '\n' else if c = 'r' then '\r' else if c = 't' then '\t'
      else if c = '0' then '\x00' else c
    (queryString? cs).map (d :: ·)
  | c :: cs => if c = '"' ∨ c = '\n' then none else (queryString? cs).map (c :: ·)

/-- What the extractors look for. -/
structure Extractor where
  /-- The attribute name as it stands in the query. -/
  sentinel : String
  classes : ClassMarkers
  scripts : ScriptMarkers
  deriving Repr

def Extractor.ofMarkers (sentinel : String) (m : MarkersConfig) : Extractor where
  sentinel := sentinel
  classes := ⟨m.classInternalTokens, m.finalToken⟩
  scripts := ⟨m.scriptInternalTokens, match Regex.compile m.packageCommentPattern with
    | .ok p => p
    | .error _ => ⟨[.branch []], 1⟩⟩

namespace Extractor

/-- The captures of the definition query; a problem if the query is not well formed. -/
def captures (x : Extractor) (d : Dialect) (root : Node) : Except Problem (List Capture) :=
  match d with
  | .script => .ok (scriptCaptures root)
  | .php =>
    match queryString? x.sentinel.toList with
    | some s => .ok (phpCaptures (String.ofList s) root)
    | none => .error (.unexpected
        "query does not compile against the installed grammar: Invalid syntax at row 11, column 1"
        [("dialect", .str d.name), ("query", .str "definition")])

def definitionOf (x : Extractor) (d : Dialect) (path : String) (cs : List Capture) :
    Option Definition :=
  match d with
  | .php => classDefinitionOf x.classes cs path
  | .script => some (scriptDefinitionOf x.scripts (cs.map Capture.text) path)

def definition (x : Extractor) (d : Dialect) (path : String) (root : Node) :
    Except Problem (Option Definition) :=
  (x.captures d root).map (x.definitionOf d path)

def usagesOf (d : Dialect) (root : Node) : List String := if d.hasUsageQuery then usages root else []

end Extractor

end DomainAtlas.Extraction
