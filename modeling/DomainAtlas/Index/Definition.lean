import DomainAtlas.Schema

/-!
# Definitions

A definition holds what a scan finds out about one class declaration, or about one script file,
which has no class. It is written as JSON with seven members, and read back leniently: member names
may be written in two ways, further members are ignored.
-/
namespace DomainAtlas

/-- The facts about one declaration or script file. -/
structure Definition where
  qualifiedKey : String
  namespaceName : Option String
  className : Option String
  fileName : String
  domain : Option String
  isInternal : Bool
  isFinal : Option Bool
  deriving DecidableEq, Repr

namespace Definition

def modelName : String := "DefinitionRecord"

/-- What a listing is sorted by: the namespace, or the file name where there is none. -/
def sortKey (d : Definition) : String := d.namespaceName.getD d.fileName

/-- A truth value that may be missing, as JSON. -/
def optBool : Option Bool → Json
  | some b => .bool b
  | none => .null

def toJson (d : Definition) : Json := .obj [
  ("qualifiedKey", .str d.qualifiedKey),
  ("namespace", Json.optStr d.namespaceName),
  ("className", Json.optStr d.className),
  ("fileName", .str d.fileName),
  ("domain", Json.optStr d.domain),
  ("isInternal", .bool d.isInternal),
  ("isFinal", optBool d.isFinal)]

/-- A member that may be written in two ways, the first of which wins. -/
def either (es : List (Datum × Datum)) (first second : String) : Option Datum :=
  (Datum.entry? first es).orElse fun _ => Datum.entry? second es

def required {α : Type} (whole : Datum) (es : List (Datum × Datum)) (first second : String)
    (read : Datum → Check α) : Check α :=
  Check.under (.field first) <|
    match either es first second with
    | none => Check.fail .missing whole
    | some d => read d

/-- A member that may be absent. -/
def withDefault {α : Type} (es : List (Datum × Datum)) (first second : String) (default : α)
    (read : Datum → Check α) : Check α :=
  match either es first second with
  | none => .ok default
  | some d => Check.under (.field first) (read d)

/-- A domain of white space only counts as none. -/
def readDomain (d : Datum) : Check (Option String) :=
  match d with
  | .text s => .ok (if s.toList.all Text.isBlank then none else some s)
  | _ => Schema.optional Schema.text d

/-- Why a definition is refused: a namespace needs a class name. -/
def refusal (d : Definition) : Option String :=
  match d.namespaceName, d.className with
  | none, _ => none
  | some _, some name => if name = "" then some (complaint d) else none
  | some _, none => some (complaint d)
where
  /-- The wording. -/
  complaint (d : Definition) : String :=
    s!"record {Text.literal d.qualifiedKey} has a namespace but no class name"

def read (raw : Datum) : Check Definition :=
  match Schema.entries modelName raw with
  | .error is => .error is
  | .ok es =>
    let key := required raw es "qualifiedKey" "qualified_key" Schema.text
    let space := withDefault es "namespace" "namespace" none (Schema.optional Schema.text)
    let name := withDefault es "className" "class_name" none (Schema.optional Schema.text)
    let file := required raw es "fileName" "file_name" Schema.text
    let domain := withDefault es "domain" "domain" none readDomain
    let internal := withDefault es "isInternal" "is_internal" false Schema.bool
    let final := withDefault es "isFinal" "is_final" none (Schema.optional Schema.bool)
    let whole := Check.ap (Check.ap (Check.ap (Check.ap (Check.ap (Check.ap
      (key.map mk) space) name) file) domain) internal) final
    whole.ensure raw refusal

def ofJson (raw : Json) : Check Definition := read (Datum.ofJson raw)

end Definition

end DomainAtlas
