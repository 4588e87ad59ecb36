import DomainAtlas.Discovery.Tree
import DomainAtlas.Path
import DomainAtlas.Text.Literal

/-!
# A file system as a value

A file system maps the components of an absolute path to a file, a link or a directory; the root
is always a directory. Every operation is a function from one file system to the next, or to the
reason why it failed.

`FileSystem.resolve` follows links the way an operating system does: the links on the way always,
the last one only when asked to.
-/
namespace DomainAtlas

inductive FileNode where
  | file (bytes : ByteArray)
  | link (target : String)
  | dir

/-- Reasons for which an operation fails. -/
inductive OsFault where
  | notFound
  | busy
  | exists
  | notDirectory
  | isDirectory
  | nameTooLong
  | tooManyLinks
  | permission
  deriving DecidableEq, Repr

def OsFault.number : OsFault → Nat
  | .notFound => 2
  | .permission => 13
  | .busy => 16
  | .exists => 17
  | .notDirectory => 20
  | .isDirectory => 21
  | .nameTooLong => 36
  | .tooManyLinks => 40

def OsFault.text : OsFault → String
  | .notFound => "No such file or directory"
  | .permission => "Permission denied"
  | .busy => "Device or resource busy"
  | .exists => "File exists"
  | .notDirectory => "Not a directory"
  | .isDirectory => "Is a directory"
  | .nameTooLong => "File name too long"
  | .tooManyLinks => "Too many levels of symbolic links"

/-- A failed operation: the reason, the path it was about and, for a renaming, the new path; or a
failure that is known by its text only. -/
inductive OsError where
  | at (fault : OsFault) (path : String)
  | between (fault : OsFault) (path target : String)
  | told (message : String)
  /-- A path with a zero character was given. -/
  | zero
  deriving DecidableEq, Repr

/-- The wording of a failed operation. -/
def OsError.message : OsError → String
  | .at f p => s!"[Errno {f.number}] {f.text}: {Text.literal p}"
  | .between f p t => s!"[Errno {f.number}] {f.text}: {Text.literal p} -> {Text.literal t}"
  | .told m => m
  | .zero => Path.zeroFault

/-- Why a path has no absolute form. -/
inductive PathFault where
  /-- There is a zero character in it. -/
  | zero
  /-- Links on the way lead back to themselves. -/
  | circle (path : String)
  deriving DecidableEq, Repr

def PathFault.message : PathFault → String
  | .zero => Path.zeroFault
  | .circle path => "Symlink loop from " ++ Text.literal path

/-- A file system: what each absolute path leads to. -/
structure FileSystem where
  nodes : List (List String × FileNode)

namespace FileSystem

/-- The file system with nothing but its root. -/
def empty : FileSystem := ⟨[]⟩

/-- What stands at a path, links not followed. -/
def at? (fs : FileSystem) (key : List String) : Option FileNode :=
  if key = [] then some .dir else fs.nodes.lookup key

/-- Puts something at a path, in place of what is there. -/
def put (fs : FileSystem) (key : List String) (n : FileNode) : FileSystem :=
  ⟨(key, n) :: fs.nodes.filter fun e => e.1 != key⟩

/-- Takes away what stands at a path. -/
def erase (fs : FileSystem) (key : List String) : FileSystem :=
  ⟨fs.nodes.filter fun e => e.1 != key⟩

/-- Takes away what stands at a path and everything below it. -/
def eraseAll (fs : FileSystem) (key : List String) : FileSystem :=
  ⟨fs.nodes.filter fun e => !key.isPrefixOf e.1⟩

/-- At most this many links are followed on one way. -/
def maxLinks : Nat := 40

/-- The longest name of a file, in bytes. -/
def maxName : Nat := 255

/-- Where a path leads, and what stands there. `here` is the way so far. A last component that does
not exist is not a failure. -/
def resolveFrom (fs : FileSystem) (follow : Bool) (links : Nat) (here todo : List String) :
    Except OsFault (List String × Option FileNode) :=
  match todo with
  | [] => .ok (here, fs.at? here)
  | c :: rest =>
    if c = ".." then resolveFrom fs follow links here.dropLast rest
    else if maxName < c.utf8ByteSize then .error .nameTooLong
    else
      let next := here ++ [c]
      match fs.at? next with
      | none => if rest = [] then .ok (next, none) else .error .notFound
      | some (.file bytes) =>
        if rest = [] then .ok (next, some (.file bytes)) else .error .notDirectory
      | some .dir => resolveFrom fs follow links next rest
      | some (.link target) =>
        if rest = [] ∧ follow = false then .ok (next, some (.link target))
        else
          match links with
          | 0 => .error .tooManyLinks
          | n + 1 =>
            let t := Path.parse target
            if target = "" then .error .notFound
            else resolveFrom fs follow n (if t.isAbsolute then [] else here) (t.parts ++ rest)
termination_by (links, todo.length)

/-- Where a path leads, seen from the directory `cwd`. -/
def resolve (fs : FileSystem) (cwd : List String) (follow : Bool) (p : Path) :
    Except OsFault (List String × Option FileNode) :=
  resolveFrom fs follow maxLinks (if p.isAbsolute then [] else cwd) p.parts

/-- What a path leads to, links followed. -/
def lookup (fs : FileSystem) (cwd : List String) (p : Path) : Option FileNode :=
  match fs.resolve cwd true p with
  | .ok (_, n) => n
  | .error _ => none

def exists? (fs : FileSystem) (cwd : List String) (p : Path) : Bool := (fs.lookup cwd p).isSome

def isFile (fs : FileSystem) (cwd : List String) (p : Path) : Bool :=
  match fs.lookup cwd p with
  | some (.file _) => true
  | _ => false

def isDir (fs : FileSystem) (cwd : List String) (p : Path) : Bool :=
  match fs.lookup cwd p with
  | some .dir => true
  | _ => false

def read (fs : FileSystem) (cwd : List String) (p : Path) : Except OsError ByteArray :=
  let fail (f : OsFault) : Except OsError ByteArray := .error (.at f p.text)
  if p.hasZero then .error .zero
  else
    match fs.resolve cwd true p with
    | .error f => fail f
    | .ok (_, none) => fail .notFound
    | .ok (_, some .dir) => fail .isDirectory
    | .ok (_, some (.link _)) => fail .tooManyLinks
    | .ok (_, some (.file bytes)) => .ok bytes

/-- Writes a file, whatever bytes it held. -/
def write (fs : FileSystem) (cwd : List String) (p : Path) (bytes : ByteArray) :
    Except OsError FileSystem :=
  match fs.resolve cwd true p with
  | .error f => .error (.at f p.text)
  | .ok (_, some .dir) => .error (.at .isDirectory p.text)
  | .ok (key, _) => .ok (fs.put key (.file bytes))

/-- The files after an operation that changes nothing when it fails, and why it failed. -/
def attempt (fs : FileSystem) : Except OsError FileSystem → FileSystem × Option OsError
  | .ok fs => (fs, none)
  | .error e => (fs, some e)

/-- Makes one directory whose parent is there. -/
def mkdirOne (fs : FileSystem) (cwd : List String) (p : Path) : Except OsFault FileSystem :=
  match fs.resolve cwd false p with
  | .error f => .error f
  | .ok (_, some _) => .error .exists
  | .ok (key, none) => .ok (fs.put key .dir)

/-- Makes a file that is not there yet, without content. -/
def createNew (fs : FileSystem) (cwd : List String) (p : Path) : Except OsError FileSystem :=
  match fs.resolve cwd false p with
  | .error f => .error (.at f p.text)
  | .ok (_, some _) => .error (.at .exists p.text)
  | .ok (key, none) => .ok (fs.put key (.file ByteArray.empty))

/-- Makes a directory with its parents; one that is there already is left alone. Parents that were
made stay when a later directory cannot be made. `fuel` bounds the number of components. -/
def mkdirsFuel (cwd : List String) : Nat → FileSystem → Path → FileSystem × Option OsError
  | fuel, fs, p =>
    let orThere (fs : FileSystem) (f : OsFault) : FileSystem × Option OsError :=
      (fs, if fs.isDir cwd p then none else some (.at f p.text))
    match fs.mkdirOne cwd p with
    | .ok fs => (fs, none)
    | .error .notFound =>
      match fuel with
      | 0 => (fs, some (.at .notFound p.text))
      | fuel + 1 =>
        if p.parent = p then (fs, some (.at .notFound p.text))
        else
          match mkdirsFuel cwd fuel fs p.parent with
          | (fs, some e) => (fs, some e)
          | (fs, none) =>
            match fs.mkdirOne cwd p with
            | .ok fs => (fs, none)
            | .error f => orThere fs f
    | .error f => orThere fs f

/-- Makes a directory with its parents: the file system after it, and why it stopped. -/
def mkdirs (fs : FileSystem) (cwd : List String) (p : Path) : FileSystem × Option OsError :=
  mkdirsFuel cwd (p.parts.length + 1) fs p

/-- Moves the file at `source` to a path, in place of a file or link that is there. -/
def replace (fs : FileSystem) (cwd : List String) (source target : Path) :
    Except OsError FileSystem :=
  let fail (f : OsFault) : Except OsError FileSystem := .error (.between f source.text target.text)
  match fs.resolve cwd false source with
  | .error f => fail f
  | .ok (_, none) => fail .notFound
  | .ok (from', some node) =>
    if target.parts.getLast?.all (· == "..") then fail .busy
    else
      match fs.resolve cwd false target with
      | .error f => fail f
      | .ok (_, some .dir) => fail .isDirectory
      | .ok (key, _) => .ok ((fs.erase from').put key node)

/-- Removes a file or a link. -/
def unlink (fs : FileSystem) (cwd : List String) (p : Path) : Except OsError FileSystem :=
  match fs.resolve cwd false p with
  | .error f => .error (.at f p.text)
  | .ok (_, none) => .error (.at .notFound p.text)
  | .ok (_, some .dir) => .error (.at .isDirectory p.text)
  | .ok (key, some _) => .ok (fs.erase key)

/-- The links of a file system in every way they can be written without a detour: absolute, or seen from
the directory `cwd` with some steps up. -/
def spellings (fs : FileSystem) (cwd : List String) : List Path :=
  fs.nodes.flatMap fun e =>
    match e.2 with
    | .link _ => ⟨"/", e.1⟩ :: (List.range (cwd.length + 1)).filterMap fun up =>
        let top := cwd.take (cwd.length - up)
        if top.isPrefixOf e.1 then some ⟨"", List.replicate up ".." ++ e.1.drop top.length⟩ else none
    | _ => []

/-- Where a path leads in which links are followed as far as it exists; what does not exist is taken as it
is written. `closed` holds the spellings of the links that are not being followed. At a link that leads
back to itself the way ends, with what is left of it. -/
def realpathFrom (fs : FileSystem) (cwd : List String) (closed : List Path) (here : Path)
    (todo : List String) : Except Path Path :=
  match todo with
  | [] => .ok here
  | c :: rest =>
    if c = ".." then realpathFrom fs cwd closed (here.ascend cwd) rest
    else
      let next : Path := ⟨here.root, here.parts ++ [c]⟩
      match fs.at? (next.seenFrom cwd) with
      | some (.link target) =>
        if next ∈ closed then
          let t := Path.parse target
          match realpathFrom fs cwd (closed.erase next) (if t.isAbsolute then ⟨"/", []⟩ else here)
              t.parts with
          | .ok place => realpathFrom fs cwd closed place rest
          | .error stuck => .error ⟨stuck.root, stuck.parts ++ rest⟩
        else .error ⟨next.root, next.parts ++ rest⟩
      | _ => realpathFrom fs cwd closed next rest
termination_by (closed.length, todo.length)
decreasing_by
  all_goals first
    | exact Prod.Lex.right _ (Nat.lt_succ_self _)
    | exact Prod.Lex.left _ _ (by
        rw [List.length_erase_of_mem ‹_›]
        exact Nat.sub_lt (List.length_pos_of_mem ‹_›) Nat.one_pos)

/-- The absolute path a path stands for. Where links lead back to themselves, what is left of the way
is taken as it is written. -/
def realpath (fs : FileSystem) (cwd : List String) (p : Path) : Path :=
  match fs.realpathFrom cwd (fs.spellings cwd) ⟨if p.isAbsolute then "/" else "", []⟩ p.parts with
  | .ok place => ⟨"/", place.seenFrom cwd⟩
  | .error stuck => stuck.absolute cwd

/-- Why a path stands for no absolute path, if it does not. Links that lead back to themselves do no harm
when what is left of the way avoids them. -/
def pathFault? (fs : FileSystem) (cwd : List String) (p : Path) : Option PathFault :=
  if p.hasZero then some .zero
  else
    let place := fs.realpath cwd p
    match fs.resolve [] true place with
    | .error .tooManyLinks => some (.circle place.text)
    | _ => none

/-- The entries of a directory, in no particular order. -/
def children (fs : FileSystem) (key : List String) : List (String × FileNode) :=
  fs.nodes.filterMap fun (k, n) =>
    match k.getLast? with
    | some name => if k.dropLast = key then some (name, n) else none
    | none => none

/-- The directory at a path as a tree; `fuel` bounds its depth. -/
def treeAt (fs : FileSystem) : Nat → List String → Tree
  | 0, _ => .dir []
  | fuel + 1, key => .dir <| (fs.children key).map fun (name, n) =>
    match n with
    | .file bytes => (name, .file (some bytes))
    | .dir => (name, fs.treeAt fuel (key ++ [name]))
    | .link _ =>
      match fs.lookup key ⟨"", [name]⟩ with
      | some .dir => (name, .dirLink)
      | some (.file bytes) => (name, .file (some bytes))
      | _ => (name, .file none)

/-- The longest path. -/
def depth (fs : FileSystem) : Nat := (fs.nodes.map fun e => e.1.length).foldl max 0

/-- What a walk sees at a path; nothing where there is no directory. -/
def tree (fs : FileSystem) (cwd : List String) (p : Path) : Tree :=
  match fs.resolve cwd true p with
  | .ok (key, some .dir) => fs.treeAt (fs.depth + 1) key
  | _ => .dir []

end FileSystem

end DomainAtlas
