import DomainAtlas.Json.Value
import DomainAtlas.Path
import DomainAtlas.Regex.Parser
import DomainAtlas.Schema
import DomainAtlas.Text.Numeral

/-!
# Settings

The settings of a run come in four sections: logging, output, scan and markers. Each section reads
itself from data, with its defaults for what is absent, and writes itself as JSON.
-/
namespace DomainAtlas

def logLevels : List String := ["DEBUG", "INFO", "WARNING", "ERROR", "CRITICAL"]

structure Homes where
  own : String
  others : List (String × String)
  deriving DecidableEq, Repr

/-- The home a first path component such as `~` or `~name` stands for. -/
def Homes.expand? (h : Homes) (component : String) : Option String :=
  match component.toList with
  | ['~'] => some h.own
  | '~' :: name => h.others.lookup (String.ofList name)
  | _ => none

/-- A path with its leading home component replaced, or what is wrong with that component. -/
def Homes.expand (h : Homes) (p : Path) : Except IssueKind Path :=
  match p.parts with
  | c :: rest =>
    if p.root = "" ∧ Text.startsWith c "~" then
      if c.toList.contains '\x00' then .error (.refused Path.zeroFault)
      else
        match h.expand? c with
        | some home => .ok (Path.parse home / ⟨"", rest⟩)
        | none => .error .noHome
    else .ok p
  | [] => .ok p

/-- One place where events are written. -/
structure LogOutput where
  format : String
  /-- `stderr`, `stdout` or an absolute path. -/
  destination : String
  level : Option String
  deriving DecidableEq, Repr

namespace LogOutput

/-- Events on the console's error side. -/
def default : LogOutput := ⟨"console", "stderr", none⟩

def isTerminal (destination : String) : Bool := destination == "stderr" || destination == "stdout"

def readDestination (homes : Homes) (d : Datum) : Check String :=
  match Schema.text d with
  | .error is => .error is
  | .ok s =>
    if isTerminal s then .ok s
    else
      match homes.expand (Path.parse s) with
      | .error kind => Check.fail kind d
      | .ok p =>
        if p.isAbsolute then .ok p.text
        else Check.fail (.refused ("File destination must be absolute path: " ++ s)) d

def read (homes : Homes) (d : Datum) : Check LogOutput :=
  match Schema.entries "LogOutputConfig" d with
  | .error is => .error is
  | .ok es =>
    let format := Schema.field es "format" default.format (Schema.choice ["json", "console"])
    let dest := Schema.field es "destination" default.destination (readDestination homes)
    let level := Schema.field es "level" none (Schema.optional (Schema.choice logLevels))
    Check.ap (Check.ap (format.map mk) dest) level

def toJson (o : LogOutput) : Json := .obj [("format", .str o.format),
  ("destination", .str o.destination), ("level", Json.optStr o.level)]

end LogOutput

structure LoggingConfig where
  level : String
  outputs : List LogOutput
  deriving DecidableEq, Repr

namespace LoggingConfig

/-- One console output, from the level of information on. -/
def default : LoggingConfig := ⟨"INFO", [LogOutput.default]⟩

def read (homes : Homes) (d : Datum) : Check LoggingConfig :=
  match Schema.entries "LoggingConfig" d with
  | .error is => .error is
  | .ok es =>
    let level := Schema.field es "level" default.level (Schema.choice logLevels)
    let outputs := Schema.field es "outputs" default.outputs (Schema.list (LogOutput.read homes))
    Check.ap (level.map mk) outputs

def toJson (c : LoggingConfig) : Json :=
  .obj [("level", .str c.level), ("outputs", .arr (c.outputs.map LogOutput.toJson))]

end LoggingConfig

/-- Where the cache and the report are written. -/
structure OutputConfig where
  directory : String
  cacheFile : String
  reportFile : String
  deriving DecidableEq, Repr

namespace OutputConfig

def default : OutputConfig := ⟨"out", "scan-cache.json", "sw-architecture-report.html"⟩

def cachePath (c : OutputConfig) : Path := Path.parse c.directory / Path.parse c.cacheFile

def reportPath (c : OutputConfig) : Path := Path.parse c.directory / Path.parse c.reportFile

def read (d : Datum) : Check OutputConfig :=
  match Schema.entries "OutputConfig" d with
  | .error is => .error is
  | .ok es =>
    let dir := Schema.field es "directory" default.directory Schema.text
    let cache := Schema.field es "cache_file" default.cacheFile Schema.text
    let report := Schema.field es "report_file" default.reportFile Schema.text
    Check.ap (Check.ap (dir.map mk) cache) report

def toJson (c : OutputConfig) : Json := .obj [("directory", .str c.directory),
  ("cache_file", .str c.cacheFile), ("report_file", .str c.reportFile)]

end OutputConfig

/-- What is scanned, and how. -/
structure ScanConfig where
  includeGlobs : List String
  excludeGlobs : List String
  respectGit : Bool
  maxWorkers : Int
  trackUsages : Bool
  deriving DecidableEq, Repr

namespace ScanConfig

/-- All files of the known dialects but test specifications. -/
def default : ScanConfig :=
  ⟨["**/*.php", "**/*.js", "**/*.ts"], ["**/*.spec.js", "**/*.spec.ts"], true, 8, true⟩

/-- Why a number of workers is refused. A number that is too long cannot be named. -/
def workersRefusal (n : Int) : Option String :=
  if 1 ≤ n then none
  else if Text.isWritable n then some s!"max_workers must be >= 1, got {n}"
  else some Text.tooLongToWrite

def readWorkers (d : Datum) : Check Int := (Schema.int d).ensure d workersRefusal

def read (d : Datum) : Check ScanConfig :=
  match Schema.entries "ScanConfig" d with
  | .error is => .error is
  | .ok es =>
    let globs := Schema.list Schema.text
    let includes := Schema.field es "include_globs" default.includeGlobs globs
    let excludes := Schema.field es "exclude_globs" default.excludeGlobs globs
    let git := Schema.field es "respect_gitignore" default.respectGit Schema.bool
    let workers := Schema.field es "max_workers" default.maxWorkers readWorkers
    let usages := Schema.field es "track_usages" default.trackUsages Schema.bool
    Check.ap (Check.ap (Check.ap (Check.ap (includes.map mk) excludes) git) workers) usages

def toJson (c : ScanConfig) : Json := .obj [("include_globs", Json.texts c.includeGlobs),
  ("exclude_globs", Json.texts c.excludeGlobs), ("respect_gitignore", .bool c.respectGit),
  ("max_workers", .int c.maxWorkers), ("track_usages", .bool c.trackUsages)]

end ScanConfig

/-- What is searched for in comments and attributes. -/
structure MarkersConfig where
  packageAttribute : String
  classInternalTokens : List String
  scriptInternalTokens : List String
  finalToken : String
  packageCommentPattern : String
  deriving DecidableEq, Repr

namespace MarkersConfig

def default : MarkersConfig :=
  ⟨"Package", ["@internal"], ["@internal", "@private"], "@final", "@sw-package ([a-zA-Z-@]+)"⟩

/-- Whether a text is an identifier of letters, digits and underscores of ASCII. -/
def isPlainIdentifier (s : String) : Bool :=
  match s.toList with
  | [] => false
  | c :: cs => (c.isAlpha || c == '_') && cs.all fun d => d.isAlphanum || d == '_'

def attributeRefusal (s : String) : Option String :=
  if isPlainIdentifier s then none
  else some ("package_attribute must be a plain identifier, got " ++ Text.literal s)

/-- What is wrong with a pattern for comments: it has to compile and to capture. -/
def patternIssue? (s : String) : Option IssueKind :=
  match Regex.compile s with
  | .error (.overflow why) => some (.overflow why)
  | .error (.unheld what) => some (.unheld what)
  | .error (.value why) => some (.refused why)
  | .error f => some (.refused ("Invalid regex: " ++ f.render s))
  | .ok p =>
    if p.groups < 1 then some (.refused "package_comment_pattern needs one capture group") else none

def readPattern (d : Datum) : Check String :=
  match Schema.text d with
  | .error is => .error is
  | .ok s =>
    match patternIssue? s with
    | none => .ok s
    | some kind => Check.fail kind d

def read (d : Datum) : Check MarkersConfig :=
  match Schema.entries "MarkersConfig" d with
  | .error is => .error is
  | .ok es =>
    let tokens := Schema.list Schema.text
    let name := Schema.field es "package_attribute" default.packageAttribute fun d =>
      (Schema.text d).ensure d attributeRefusal
    let classTokens := Schema.field es "class_internal_tokens" default.classInternalTokens tokens
    let scriptTokens := Schema.field es "script_internal_tokens" default.scriptInternalTokens tokens
    let final := Schema.field es "final_token" default.finalToken Schema.text
    let pattern := Schema.field es "package_comment_pattern" default.packageCommentPattern readPattern
    Check.ap (Check.ap (Check.ap (Check.ap (name.map mk) classTokens) scriptTokens) final) pattern

def toJson (c : MarkersConfig) : Json := .obj [("package_attribute", .str c.packageAttribute),
  ("class_internal_tokens", Json.texts c.classInternalTokens),
  ("script_internal_tokens", Json.texts c.scriptInternalTokens),
  ("final_token", .str c.finalToken), ("package_comment_pattern", .str c.packageCommentPattern)]

end MarkersConfig

/-- All settings. -/
structure Config where
  logging : LoggingConfig
  output : OutputConfig
  scan : ScanConfig
  markers : MarkersConfig
  deriving DecidableEq, Repr

namespace Config

def default : Config :=
  ⟨LoggingConfig.default, OutputConfig.default, ScanConfig.default, MarkersConfig.default⟩

def readSections (homes : Homes) (es : List (Datum × Datum)) : Check Config :=
  let logging := Schema.field es "logging" LoggingConfig.default (LoggingConfig.read homes)
  let output := Schema.field es "output" OutputConfig.default OutputConfig.read
  let scan := Schema.field es "scan" ScanConfig.default ScanConfig.read
  let markers := Schema.field es "markers" MarkersConfig.default MarkersConfig.read
  Check.ap (Check.ap (Check.ap (logging.map mk) output) scan) markers

/-- Reads all settings; other sections are ignored. -/
def read (homes : Homes) (d : Datum) : Check Config :=
  match Schema.entries "ArchScanConfig" d with
  | .error is => .error is
  | .ok es => readSections homes es

def toJson (c : Config) : Json := .obj [("logging", c.logging.toJson), ("output", c.output.toJson),
  ("scan", c.scan.toJson), ("markers", c.markers.toJson)]

end Config

end DomainAtlas
