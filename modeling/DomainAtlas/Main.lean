import DomainAtlas.CommandLine.Program
import DomainAtlas.FileSystem.Difference
import Std.Time.DateTime.Timestamp

/-!
# The executable

The program is a function of the files it may look at and of its surroundings. What stands here takes
both from the machine, runs the program, and then makes the disk, the output and the error output
agree with the result. Nothing is decided here.
-/
namespace DomainAtlas.Executable

open CommandLine

/-- Files as they were found. -/
structure Snapshot where
  fs : FileSystem
  /-- The files that cannot be read. -/
  locked : List (List String)

/-- The path of a key on the disk. -/
def diskPath (key : List String) : String := (Path.mk "/" key).text

/-- Takes what stands at a path into a snapshot; with `deep`, what is below it and what links lead to. -/
partial def collect (deep : Bool) (found : Snapshot) (key : List String) : IO Snapshot := do
  if (found.fs.at? key).isSome && key != [] then return found
  let path := (← IO.currentDir) / diskPath key
  let put (n : FileNode) : Snapshot := { found with fs := found.fs.put key n }
  match ← path.symlinkMetadata.toBaseIO with
  | .error _ => return found
  | .ok data =>
    match data.type with
    | .dir =>
      if !deep then return put .dir
      match ← path.readDir.toBaseIO with
      | .error _ => return put .dir
      | .ok entries => entries.foldlM (fun s e => collect deep s (key ++ [e.fileName])) (put .dir)
    | .symlink =>
      match ← (IO.FS.realPath path).toBaseIO with
      | .error _ => return put (.link "")
      | .ok target => collect deep (put (.link target.toString)) (Path.parse target.toString).parts
    | _ =>
      match ← (IO.FS.readBinFile path).toBaseIO with
      | .ok bytes => return put (.file bytes)
      | .error _ => return { put (.file .empty) with locked := key :: found.locked }

/-- Takes the directories and links on the way to a path into a snapshot. -/
def approach (found : Snapshot) (key : List String) : IO Snapshot :=
  ((List.range key.length).map fun n => key.take n).foldlM (collect false) found

/-- Takes some paths with all that is below them into a snapshot. -/
def observe (found : Snapshot) (keys : List (List String)) : IO Snapshot := do
  let found ← keys.foldlM (collect true) found
  (found.fs.nodes.map Prod.fst ++ keys).foldlM approach found

/-- The key of a path that is seen from a directory. -/
def keyOf (cwd : List String) (p : Path) : List String :=
  Path.lexical (if p.isAbsolute then p.parts else cwd ++ p.parts)

/-- The paths that words may speak of: the words, and what follows an equals sign in them. -/
def mentioned (args : List String) : List Path :=
  args.flatMap fun a =>
    [Path.parse a, Path.parse (String.ofList ((a.toList.dropWhile (· != '=')).drop 1))]

/-- The variables of the environment, as the system lists them. -/
def environment : IO (List (String × String)) := do
  match ← (IO.FS.readBinFile "/proc/self/environ").toBaseIO with
  | .error _ => return []
  | .ok bytes =>
    return (Text.split '\x00' (Text.decodeLossy bytes)).map fun entry =>
      let name := entry.toList.takeWhile (· != '=')
      (String.ofList name, String.ofList (entry.toList.drop (name.length + 1)))

/-- The homes of the users the system knows. -/
def knownHomes : IO (List (String × String)) := do
  match ← (IO.FS.readBinFile "/etc/passwd").toBaseIO with
  | .error _ => return []
  | .ok bytes =>
    return (Text.split '\n' (Text.decodeLossy bytes)).map fun line =>
      let fields := Text.split ':' line
      (fields.getD 0 "", fields.getD 5 "")

/-- A name for files beside others. -/
def freshToken : IO String := do
  let letters := "abcdefghijklmnopqrstuvwxyz0123456789_".toList
  let picks ← (List.range 8).mapM fun _ => IO.rand 0 (letters.length - 1)
  return String.ofList (picks.map fun n => letters.getD n 'a')

/-- The surroundings before any file has been looked at. -/
def surroundings : IO Surroundings := do
  let named ← environment
  let own := (named.lookup "HOME").getD "/"
  let now ← Std.Time.Timestamp.now
  return {
    cwd := (Path.parse (← IO.currentDir).toString).parts
    homes := ⟨own, ← knownHomes⟩
    environment := named
    userSettings := Path.parse own / Path.parse ".config/archscan/config.yaml"
    columns := ((named.lookup "COLUMNS").bind String.toNat?).getD 80
    terminal := ← (← IO.getStderr).isTty
    moment := .ofSeconds now.toSecondsSinceUnixEpoch.val.toNat
    elapsed := .ofInt 0
    token := ← freshToken
    room := ⟨960, by decide⟩
    read := fun fs p => fs.read [] p
    parser := Extraction.standardParser
    saveFails := fun _ => none
    clearFails := none
    consents := false }

def Snapshot.read (found : Snapshot) (cwd : List String) (fs : FileSystem) (p : Path) :
    Except OsError ByteArray :=
  match fs.resolve cwd true p with
  | .ok (key, _) =>
    if found.locked.contains key then .error (.at .permission p.text) else fs.read cwd p
  | .error _ => fs.read cwd p

/-- The paths that settings speak of. -/
def places (c : Config) : List Path :=
  [c.output.cachePath.parent, c.output.reportPath.parent] ++
    (Log.Routing.ofConfig c.logging).logFile.toList.map Path.parent

/-- Brings a change to the disk. Files are written beside and then moved, so that no reader sees a part
of one. -/
def carryOut (token : String) (c : FileChange) : IO Unit := do
  let path := diskPath c.key
  match c.node with
  | none => IO.FS.removeFile path
  | some .dir => IO.FS.createDirAll path
  | some (.file bytes) =>
    IO.FS.createDirAll (diskPath c.key.dropLast)
    IO.FS.writeBinFile (path ++ "." ++ token) bytes
    IO.FS.rename (path ++ "." ++ token) path
  | some (.link _) => pure ()

/-- Asks the user a question. -/
def confirm (question : String) : IO Bool := do
  (← IO.getStdout).putStr s!"? {question} (y/N) "
  (← IO.getStdout).flush
  let reply ← (← IO.getStdin).getLine
  return ["y", "yes"].contains (Text.lowerAscii (Text.strip reply))

/-- Runs the program on the machine. -/
def run (args : List String) : IO UInt32 := do
  let start ← IO.monoMsNow
  let s ← surroundings
  let spoken := (mentioned args).map (keyOf s.cwd)
  let found ← observe ⟨.empty, []⟩ (s.cwd :: keyOf s.cwd s.userSettings :: spoken)
  let found ← match Config.load (settingsSources s found.fs) with
    | .ok c => observe found ((places c).map (keyOf s.cwd))
    | .error _ => pure found
  let spent := Double.ofRatio false ((← IO.monoMsNow) - start) 1000
  let s := { s with read := found.read s.cwd, elapsed := spent }
  let attempt (consents : Bool) : Outcome :=
    (program args).run { s with consents := consents } (.ofFiles found.fs)
  let outcome ← match (attempt false).desk.asked with
    | [] => pure (attempt false)
    | question :: _ => attempt <$> confirm question
  let written := outcome.desk.written
  (found.fs.changes written.fs).forM (carryOut s.token)
  (← IO.getStdout).putStr written.output
  (← IO.getStderr).putStr written.error
  match outcome.crash with
  | some c => (← IO.getStderr).putStrLn c.message
  | none => pure ()
  return outcome.exitCode.toUInt32

end DomainAtlas.Executable

/-- Surveys a tree, or removes what an earlier survey left. -/
def main (args : List String) : IO UInt32 := DomainAtlas.Executable.run args
