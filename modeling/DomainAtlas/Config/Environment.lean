import DomainAtlas.Config.Merge
import DomainAtlas.Config.Models
import DomainAtlas.Json.Reader

/-!
# Settings in environment variables

`ARCHSCAN__SCAN__MAX_WORKERS` sets `max_workers` in the section `scan`; names count in any case. The
variable of a whole section, and those of settings that are lists, hold JSON. A section's variable comes
first and those of its settings are laid over it.
-/
namespace DomainAtlas

/-- A section of the settings: its name, its settings, and those of them that are lists. -/
structure Section where
  name : String
  settings : List String
  lists : List String

namespace Section

def all : List Section := [
  ⟨"logging", ["level", "outputs"], ["outputs"]⟩,
  ⟨"output", ["directory", "cache_file", "report_file"], []⟩,
  ⟨"scan", ["include_globs", "exclude_globs", "respect_gitignore", "max_workers", "track_usages"],
    ["include_globs", "exclude_globs"]⟩,
  ⟨"markers", ["package_attribute", "class_internal_tokens", "script_internal_tokens",
    "final_token", "package_comment_pattern"], ["class_internal_tokens", "script_internal_tokens"]⟩]

end Section

namespace Environment

/-- What separates the parts of a name. -/
def separator : String := "__"

/-- What the names of settings start with, in small letters. -/
def leader : String := "archscan__"

/-- The variables with their names in small letters; of two spellings the later counts. -/
def normalized (env : List (String × String)) : List (String × String) :=
  env.foldl (fun acc v => put (Text.lowerAscii v.1) v.2 acc) []
where
  /-- Sets a variable, in place if it is there. -/
  put (name value : String) : List (String × String) → List (String × String)
  | [] => [(name, value)]
  | (n, v) :: rest => if n = name then (n, value) :: rest else (n, v) :: put name value rest

/-- Cuts a name at its separators; `part` is what has been read of the present part, reversed. -/
def cutName (part : List Char) : List Char → List String
  | [] => [String.ofList part.reverse]
  | '_' :: '_' :: rest => String.ofList part.reverse :: cutName [] rest
  | c :: rest => cutName (c :: part) rest

/-- Sets a value deep in a mapping. Mappings on the way are made; a value in the way stays. -/
def setDeep (value : Datum) : List String → List (Datum × Datum) → List (Datum × Datum)
  | [], es => es
  | [last], es => Datum.setEntry (.text last) value es
  | key :: more, es =>
    match Datum.entry? key es with
    | none => Datum.setEntry (.text key) (.map (setDeep value more [])) es
    | some (.map inner) => Datum.setEntry (.text key) (.map (setDeep value more inner)) es
    | some _ => es

/-- The value of a variable for a setting: JSON where the setting is a list, unless it is empty. -/
def settingValue (s : Section) (keys : List String) (value : String) : Except Json.Refusal Datum :=
  match keys with
  | [key] =>
    if s.lists.contains key ∧ value ≠ "" then (Json.parse maxDepth value).map Datum.ofJson
    else .ok (.text value)
  | _ => .ok (.text value)

/-- The settings of a section that have variables of their own. -/
def scattered (s : Section) : List (String × String) → List (Datum × Datum) →
    Except Json.Refusal (List (Datum × Datum))
  | [], es => .ok es
  | (name, value) :: rest, es =>
    match Text.dropStart? (leader ++ s.name ++ separator).toList name.toList with
    | none => scattered s rest es
    | some tail =>
      let keys := cutName [] tail
      match settingValue s keys value with
      | .error r => .error r
      | .ok d => scattered s rest (setDeep d keys es)

/-- The name of a setting of a section, in any case, as the section writes it. -/
def properName (s : Section) : Datum → Datum
  | .text name =>
    .text ((s.settings.find? fun n => n == Text.lowerAscii name).getD name)
  | other => other

/-- The entries of a section with the names of its settings in their proper case. -/
def properNames (s : Section) (es : List (Datum × Datum)) : List (Datum × Datum) :=
  es.foldl (fun acc e => Datum.setEntry (properName s e.1) e.2 acc) []

/-- What the variables say about a section: nothing, or a value. -/
def sectionValue (s : Section) (env : List (String × String)) :
    Except Json.Refusal (Option Datum) :=
  match env.lookup (leader ++ s.name) with
  | none =>
    match scattered s env [] with
    | .error r => .error r
    | .ok [] => .ok none
    | .ok es => .ok (some (.map (properNames s es)))
  | some text =>
    match Json.parse maxDepth text with
    | .error r => .error r
    | .ok .null => .ok none
    | .ok (.obj ms) =>
      match scattered s env [] with
      | .error r => .error r
      | .ok es =>
        .ok (some (.map (properNames s (overlayEntries (Datum.ofJsonMembers ms) es))))
    | .ok other => .ok (some (Datum.ofJson other))

/-- Why the variables are not read. -/
inductive Fault where
  /-- The variable of a section or a setting in it should be JSON and is not. -/
  | notJson (sectionName : String)
  | unheld (what : Unheld)

/-- The fault of a section with a text that is not read. -/
def Fault.ofRefusal (s : Section) : Json.Refusal → Fault
  | .wrong _ => .notJson s.name
  | .nested _ => .unheld .deep
  | .unheld what => .unheld what

def sections (env : List (String × String)) : List Section → Except Fault (List (Datum × Datum))
  | [] => .ok []
  | s :: ss =>
    match sectionValue s env with
    | .error r => .error (.ofRefusal s r)
    | .ok found =>
      match sections env ss with
      | .error f => .error f
      | .ok rest => .ok ((found.map fun d => (.text s.name, d)).toList ++ rest)

/-- The settings that variables hold. -/
def read (env : List (String × String)) : Except Fault (List (Datum × Datum)) :=
  sections (normalized env) Section.all

end Environment

end DomainAtlas
