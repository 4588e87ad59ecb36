import DomainAtlas.Config.Environment
import DomainAtlas.FileSystem
import DomainAtlas.Problem
import DomainAtlas.Yaml.Data

/-!
# Where settings come from

Settings are gathered from four places, each laid over the one before: the file of the user, the file
of the project, environment variables and arguments. What none of them says has its default. The
result is checked as a whole, and the first thing that is wrong is reported.
-/
namespace DomainAtlas

/-- Why there are no settings. -/
inductive ConfigFault where
  | problem (p : Problem)
  /-- The variable of a section or a setting in it should be JSON and is not. -/
  | environment (sectionName : String)
  /-- A section has a name that is no text. -/
  | sectionName
  | noHome
  /-- A number in a pattern is too large. -/
  | overflow (why : String)
  /-- A setting is wrong, and its value has a number in it that is too long to be named. -/
  | longInteger
  | value (f : Yaml.ValueFault)
  /-- A file or a variable says something that cannot be held here. -/
  | unheld (what : Unheld)
  | encoding (f : Text.DecodeFault)
  | os (e : OsError)

def ConfigFault.message : ConfigFault → String
  | .problem p => p.summary
  | .environment name =>
    s!"error parsing value for field \"{name}\" from source \"EnvSettingsSource\""
  | .sectionName => "keywords must be strings"
  | .noHome => IssueKind.noHome.message
  | .overflow why => why
  | .longInteger => Text.tooLongToWrite
  | .value f => f.message
  | .unheld what => what.message
  | .encoding e => e.message
  | .os e => e.message

/-- The fault that variables are. -/
def ConfigFault.ofVariables : Environment.Fault → ConfigFault
  | .notJson name => .environment name
  | .unheld what => .unheld what

/-- A file that may hold settings; nothing when it is not there. -/
structure SettingsFile where
  path : String
  content : Except OsError (Option ByteArray)

namespace SettingsFile

def absent (path : String) : SettingsFile := ⟨path, .ok none⟩

def projectName : String := "archscan.yaml"

def ofPath (fs : FileSystem) (cwd : List String) (p : Path) : SettingsFile :=
  ⟨p.text, if fs.exists? cwd p then (fs.read cwd p).map some else .ok none⟩

/-- Whether a document says nothing. -/
def isVoid : Datum → Bool
  | .null => true
  | .bool b => !b
  | .int n => n == 0
  | .float x => x.isInt 0
  | .text s => s == ""
  | .bytes bs => bs.isEmpty
  | .list ds => ds.isEmpty
  | .tuple ds => ds.isEmpty
  | .set ds => ds.isEmpty
  | .map es => es.isEmpty
  | .date _ => false
  | .moment _ => false

def entriesOf (path : String) (d : Datum) : Except ConfigFault (List (Datum × Datum)) :=
  if isVoid d then .ok []
  else
    match d with
    | .map es => .ok es
    | _ => .error (.problem (.configParse path "top level must be a mapping"))

def parse (path text : String) : Except ConfigFault (List (Datum × Datum)) :=
  match Yaml.load (Text.unifyBreaks text) with
  | .ok d => entriesOf path d
  | .error (.value f) => .error (.value f)
  | .error (.unheld what) => .error (.unheld what)
  | .error f => .error (.problem (.configParse path (f.message path)))

def read (f : SettingsFile) : Except ConfigFault (List (Datum × Datum)) :=
  match f.content with
  | .error e => .error (.os e)
  | .ok none => .ok []
  | .ok (some bytes) =>
    match Text.decode bytes with
    | .error e => .error (.encoding e)
    | .ok text => parse f.path text

end SettingsFile

/-- The places settings come from. -/
structure SettingsSources where
  homes : Homes
  user : SettingsFile
  project : SettingsFile
  environment : List (String × String)
  /-- The arguments, by section. -/
  arguments : List (Datum × Datum)

namespace Config

def sectionNames : List String := Section.all.map Section.name

/-- An argument's section in any case, as it is written elsewhere. -/
def properSection (d : Datum) : Datum :=
  match d with
  | .text name =>
    .text ((sectionNames.find? fun n => n == Text.lowerAscii name).getD name)
  | other => other

/-- The arguments with their sections in proper case. -/
def properArguments (es : List (Datum × Datum)) : List (Datum × Datum) :=
  es.foldl (fun acc e => Datum.setEntry (properSection e.1) e.2 acc) []

/-- Whether an entry belongs to a section. -/
def isSection (e : Datum × Datum) : Bool :=
  match e.1 with
  | .text name => sectionNames.contains name
  | _ => false

/-- The complaints about entries that belong to no section. -/
def extras (es : List (Datum × Datum)) : List Issue :=
  (es.filter fun e => !isSection e).map fun e => ⟨[.field e.1.display], .extraField, e.2⟩

/-- Reads all settings; other sections are refused. -/
def readStrict (homes : Homes) (es : List (Datum × Datum)) : Check Config :=
  match extras es with
  | [] => readSections homes es
  | more => .error ((readSections homes es).issues ++ more)

/-- The report of an issue, which shows the value it is about. -/
def reported (i : Issue) : ConfigFault :=
  if i.input.isWritable then
    .problem (.invalidValue (Text.join "." (i.place.map Place.text)) i.input i.kind.message)
  else .longInteger

/-- The fault that a kind of issue is, if it ends the whole check. -/
def ending? : IssueKind → Option ConfigFault
  | .noHome => some .noHome
  | .overflow why => some (.overflow why)
  | .unheld what => some (.unheld what)
  | _ => none

/-- The report of some issues: the first one that ends the whole check, or the first of all. -/
def firstProblem (is : List Issue) : ConfigFault :=
  match is.findSome? fun i => ending? i.kind with
  | some f => f
  | none =>
    match is with
    | [] => .sectionName
    | i :: _ => reported i

def hasTextKey (e : Datum × Datum) : Bool :=
  match e.1 with
  | .text _ => true
  | _ => false

/-- The settings of all files, variables and arguments, laid over one another. -/
def gather (s : SettingsSources) : Except ConfigFault (List (Datum × Datum)) := do
  let user ← s.user.read
  let project ← s.project.read
  let files := overlayEntries user project
  match Environment.read s.environment with
  | .error f => throw (.ofVariables f)
  | .ok env => return overlayEntries files (overlayEntries env (properArguments s.arguments))

/-- The settings that result from all sources. -/
def load (s : SettingsSources) : Except ConfigFault Config := do
  let es ← gather s
  if !es.all hasTextKey then throw .sectionName
  else
    match readStrict s.homes es with
    | .ok c => return c
    | .error is => throw (firstProblem is)

end Config

end DomainAtlas
