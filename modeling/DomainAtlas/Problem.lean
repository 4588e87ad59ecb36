import DomainAtlas.Datum

/-!
# Problems with a code

Everything that can go wrong in a scan is reported as a `Problem`: a family, a numbered code, a
message and details. The codes of one family share their thousands. The constructors below are the
only places where messages are worded.
-/
namespace DomainAtlas

/-- The numbered kinds of problems. -/
inductive ErrorCode where
  | configParseError
  | configInvalidValue
  | parseFailed
  | readFailed
  | unsupportedDialect
  | cacheCorrupt
  | cacheStale
  | cacheWriteFailed
  | internalError
  deriving DecidableEq, Repr

namespace ErrorCode

def all : List ErrorCode :=
  [.configParseError, .configInvalidValue, .parseFailed, .readFailed, .unsupportedDialect,
    .cacheCorrupt, .cacheStale, .cacheWriteFailed, .internalError]

def number : ErrorCode → Nat
  | .configParseError => 2001
  | .configInvalidValue => 2002
  | .parseFailed => 3001
  | .readFailed => 3002
  | .unsupportedDialect => 3003
  | .cacheCorrupt => 4001
  | .cacheStale => 4002
  | .cacheWriteFailed => 4003
  | .internalError => 9001

def name : ErrorCode → String
  | .configParseError => "CONFIG_PARSE_ERROR"
  | .configInvalidValue => "CONFIG_INVALID_VALUE"
  | .parseFailed => "PARSE_FAILED"
  | .readFailed => "READ_FAILED"
  | .unsupportedDialect => "UNSUPPORTED_DIALECT"
  | .cacheCorrupt => "CACHE_CORRUPT"
  | .cacheStale => "CACHE_STALE"
  | .cacheWriteFailed => "CACHE_WRITE_FAILED"
  | .internalError => "INTERNAL_ERROR"

def ofNumber? (n : Int) : Option ErrorCode := all.find? fun c => (c.number : Int) == n

end ErrorCode

/-- What part of the work a problem belongs to. -/
inductive Family where
  | general
  | config
  | parse
  | read
  | cache
  | internal
  deriving DecidableEq, Repr

structure Problem where
  family : Family
  code : ErrorCode
  message : String
  details : List (String × Json) := []
  deriving Repr

namespace Problem

def summary (p : Problem) : String := s!"[{p.code.number}] {p.code.name}: {p.message}"

/-- The members of the structured form. -/
def members (p : Problem) : List (String × Json) :=
  [("code", .int p.code.number), ("error", .str p.code.name), ("message", .str p.message),
    ("details", .obj p.details)]

/-- Details that name a path and a reason. -/
def pathReason (path reason : String) : List (String × Json) :=
  [("path", .str path), ("reason", .str reason)]

/-- A settings file that cannot be read as one. -/
def configParse (path reason : String) : Problem :=
  ⟨.config, .configParseError, s!"Failed to parse config at {path}: {reason}",
    pathReason path reason⟩

/-- A setting whose value is refused. -/
def invalidValue (field : String) (value : Datum) (reason : String) : Problem :=
  ⟨.config, .configInvalidValue, s!"Invalid value for '{field}': {reason}",
    [("field", .str field), ("value", .str value.display), ("reason", .str reason)]⟩

/-- A source file that could not be turned into a syntax tree. -/
def parseFailed (path reason : String) : Problem :=
  ⟨.parse, .parseFailed, s!"Error parsing {path}: {reason}", pathReason path reason⟩

/-- A file no dialect is registered for. -/
def unsupported (path : String) : Problem :=
  ⟨.parse, .unsupportedDialect, s!"No dialect registered for {path}", [("path", .str path)]⟩

/-- A source file that could not be read. -/
def readFailed (path reason : String) : Problem :=
  ⟨.read, .readFailed, s!"Failed to read {path}: {reason}", pathReason path reason⟩

def cacheCorrupt (path reason : String) : Problem :=
  ⟨.cache, .cacheCorrupt, s!"Cache at {path} is unreadable: {reason}", pathReason path reason⟩

/-- A cache file of another scan. -/
def cacheStale (path expected : String) (found : Json) : Problem :=
  ⟨.cache, .cacheStale, s!"Cache at {path} belongs to a different scan",
    [("path", .str path), ("expected", .str expected), ("found", found)]⟩

/-- A cache file that could not be written. -/
def cacheWriteFailed (path reason : String) : Problem :=
  ⟨.cache, .cacheWriteFailed, s!"Failed to write cache at {path}: {reason}",
    pathReason path reason⟩

/-- A problem of the program itself. -/
def unexpected (reason : String) (details : List (String × Json)) : Problem :=
  ⟨.internal, .internalError, s!"Internal error: {reason}", details⟩

end Problem

end DomainAtlas
