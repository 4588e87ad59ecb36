import DomainAtlas.CommandLine.Clear
import DomainAtlas.CommandLine.Help
import DomainAtlas.CommandLine.Survey

/-!
# The program

`cli scan ROOT` surveys a tree, `cli clear` removes the cache. Words that ask for help or for the
version are answered before anything else is looked at; the settings are loaded before the words of
a subcommand are.
-/
namespace DomainAtlas.CommandLine

open DomainAtlas.CommandLine.Action

/-! ## Commands -/

def programName : String := "cli"

/-- The name under which the program tells its version. -/
def productName : String := "archscan"

def helpOption : Opt := ⟨.help, ["--help"], [], none, "Show this message and exit."⟩

def scanCommand : Command where
  name := "scan"
  options := [
    ⟨.outputDir, ["--output-dir", "-o"], [], some "DIRECTORY",
      "Where to write the cache and the report (default: ./out)"⟩,
    ⟨.noCache, ["--no-cache"], [], none, "Ignore an existing cache and rescan"⟩,
    ⟨.usages, ["--usages"], ["--no-usages"], none,
      "Track qualified-name references (default from config)"⟩,
    ⟨.json, ["--json"], [], none, "Print the domain summary as JSON"⟩,
    helpOption]
  argument := some "ROOT"
  subcommands := []
  help := ["Scan ROOT for PHP classes and JS/TS files and report their domains.",
    "Results are cached in the output directory. A later run for the same ROOT " ++
      "reuses the cache without reading any source file; pass --no-cache or run " ++
      "'archscan clear' to rescan."]

def clearCommand : Command where
  name := "clear"
  options := [
    ⟨.outputDir, ["--output-dir", "-o"], [], some "DIRECTORY",
      "Output directory holding the cache (default: ./out)"⟩,
    ⟨.yes, ["--yes", "-y"], [], none, "Skip confirmation prompt"⟩,
    helpOption]
  argument := none
  subcommands := []
  help := ["Remove cached scan results, forcing the next scan to re-read sources."]

def subcommands : List Command := [clearCommand, scanCommand]

def mainCommand : Command where
  name := programName
  options := [⟨.version, ["--version"], [], none, "Show the version and exit."⟩,
    ⟨.verbose, ["-v", "--verbose"], [], none, "Enable debug logging"⟩, helpOption]
  argument := none
  subcommands := subcommands.map fun c => (c.name, c.help.head?.getD "")
  help := ["archscan - domain ownership report for PHP and JS/TS source trees."]

/-! ## Words -/

/-- Ends the command because of its words. -/
def misuse {α : Type} (c : Command) (path : String) (f : UsageFault) : Action α :=
  throw (.misused (c.complaint path f))

/-- Prints something on the output and ends the command. -/
def answer {α : Type} (text : String) : Action α := do
  write fun w => w.print text
  throw .done

/-- Reads the words of a command, and answers those that ask for help or the version. -/
def wordsOf (c : Command) (path : String) (args : List String) : Action Words := do
  match c.parse args with
  | .error f => misuse c path f
  | .ok w =>
    match w.asksFor? with
    | some .help => answer (c.helpText path (← read).columns)
    | some _ => answer s!"{productName}, version {toolVersion}\n"
    | none => return w

/-- What stands at a path as it is written; a path that ends with a slash leads to a directory. -/
def standingAt (fs : FileSystem) (cwd : List String) (written : String) : Option FileNode :=
  if written = "" then none
  else
    match fs.lookup cwd (Path.parse written) with
    | some (.file bytes) =>
      if Text.endsWith written "/" || Text.endsWith written "/." then none else some (.file bytes)
    | other => other

/-- Checks that a written path can be a directory; `required` if it has to be one. -/
def directoryOf (c : Command) (path parameter : String) (required : Bool) (written : String) :
    Action Path := do
  let refuse (reason : String) : Action Path :=
    misuse c path (.invalid parameter s!"Directory {Text.literal written} {reason}")
  match standingAt (← files) (← read).cwd written with
  | some (.file _) => refuse "is a file."
  | some _ => return Path.parse written
  | none => if required then refuse "does not exist." else return Path.parse written

def outputDirectory (c : Command) (path : String) (w : Words) : Action (Option Path) := do
  match w.value? .outputDir with
  | none => return none
  | some written =>
    return some (← directoryOf c path "'--output-dir' / '-o'" false written)

def withOutput (config : Config) (directory : Option Path) : Config :=
  match directory with
  | none => config
  | some p => { config with output := { config.output with directory := p.text } }

/-- Refuses words that are left over. -/
def refuseRest (c : Command) (path : String) (rest : List String) : Action Unit :=
  if rest.isEmpty then pure () else misuse c path (.extraArguments rest)

/-! ## The subcommands -/

/-- The survey that the words of the scan command ask for. -/
def surveyOf (config : Config) (path : String) (args : List String) : Action Survey := do
  let w ← wordsOf scanCommand path args
  let directory ← outputDirectory scanCommand path w
  match w.rest with
  | [] => misuse scanCommand path (.missingArgument "ROOT")
  | written :: rest =>
    let root ← directoryOf scanCommand path "'ROOT'" true written
    refuseRest scanCommand path rest
    let config := withOutput config directory
    return ⟨root, config, (w.isOn .usages).getD config.scan.trackUsages,
      !(w.isOn .noCache).getD false, (w.isOn .json).getD false⟩

def runScan (config : Config) (path : String) (args : List String) : Action Unit := do
  (← surveyOf config path args).run

def runClear (config : Config) (path : String) (args : List String) : Action Unit := do
  let w ← wordsOf clearCommand path args
  let directory ← outputDirectory clearCommand path w
  refuseRest clearCommand path w.rest
  let cachePath := (withOutput config directory).output.cachePath
  let yes := (w.isOn .yes).getD false
  let gone ← clearCache cachePath yes
  if !gone && yes && (← files).exists? (← read).cwd cachePath then
    throw (.refused s!"Failed to clear {cachePath.text}")

/-! ## The whole program -/

/-- The places the settings of a run come from. -/
def settingsSources (s : Surroundings) (fs : FileSystem) : SettingsSources where
  homes := s.homes
  user := .ofPath fs s.cwd s.userSettings
  project := .ofPath fs s.cwd (Path.mk "/" s.cwd / Path.parse SettingsFile.projectName)
  environment := s.environment
  arguments := []

/-- The settings of a run, with the level of detail that is asked for. -/
def loadSettings (verbose : Bool) : Action Config := do
  match Config.load (settingsSources (← read) (← files)) with
  | .error (.problem p) => throw (.refused p.summary)
  | .error f => crash (.config f)
  | .ok c =>
    return if verbose then { c with logging := { c.logging with level := "DEBUG" } } else c

def configureLogging (c : LoggingConfig) : Action Unit := do
  let (routing, fs, e) := Log.Routing.configure (← read).cwd c (← files)
  setFiles fs
  change fun d => { d with routing := routing }
  match e with
  | some e => crash (.os e)
  | none => pure ()

/-- The subcommand of a name. A name that looks like an option is read as one before it is refused. -/
def subcommandOf (name : String) (args : List String) : Action Command := do
  match subcommands.find? fun c => c.name == name with
  | some c => return c
  | none =>
    if Text.startsWith name "-" then
      let _ ← wordsOf mainCommand programName (name :: args)
    misuse mainCommand programName
      (.noSuchCommand name (Text.similarTo name (subcommands.map Command.name)))

def program (args : List String) : Action Unit := do
  if args.isEmpty then
    throw (.misused (mainCommand.helpText programName (← read).columns))
  let w ← wordsOf mainCommand programName args
  match w.rest with
  | [] => misuse mainCommand programName .missingCommand
  | name :: rest =>
    let c ← subcommandOf name rest
    let config ← loadSettings ((w.isOn .verbose).getD false)
    configureLogging config.logging
    let path := programName ++ " " ++ c.name
    if c.name = scanCommand.name then runScan config path rest else runClear config path rest

end DomainAtlas.CommandLine
