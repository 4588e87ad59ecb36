import DomainAtlas.Index.Store
import DomainAtlas.Json.Writer

/-!
# The cached form of a scan

A scan is kept as one JSON object: the number of the format, the key of the scan, the definitions with
their keys and, when they were collected, the usages. `Envelope.encode` writes it and
`Envelope.decode` reads it back, checking every part; a value that is no envelope is refused with the
first thing that is wrong with it.
-/
namespace DomainAtlas

/-- A scan as it comes out of the cache. -/
structure CachedScan where
  definitions : Store
  usages : Option UsageIndex
  /-- The key it was stored under; a foreign file may hold anything there. -/
  cacheKey : Json

/-- What is wrong with a value that should be an envelope. -/
inductive EnvelopeFault where
  | notObject
  | format (found : Json)
  /-- A value that has no items. -/
  | notIterable (kind : String)
  /-- A value that should be a pair and has no items. -/
  | notUnpackable (kind : String)
  | tooFew (count : Nat)
  | tooMany
  /-- A definition that is refused, with the number of its issues. -/
  | record (issues : Nat)
  | keyMismatch (key : Json) (actual : String)
  | usageEntry (name : Json)

namespace EnvelopeFault

def message : EnvelopeFault → String
  | .notObject => "envelope is not an object"
  | .format found => "unsupported cache format " ++ (Datum.ofJson found).literal
  | .notIterable kind => s!"'{kind}' object is not iterable"
  | .notUnpackable kind => s!"cannot unpack non-iterable {kind} object"
  | .tooFew count => s!"not enough values to unpack (expected 2, got {count})"
  | .tooMany => "too many values to unpack (expected 2)"
  | .record 1 => s!"1 validation error for {Definition.modelName}"
  | .record n => s!"{n} validation errors for {Definition.modelName}"
  | .keyMismatch key actual =>
    s!"entry key {(Datum.ofJson key).literal} does not match record {Text.literal actual}"
  | .usageEntry name => "malformed usage entry for " ++ (Datum.ofJson name).literal

end EnvelopeFault

namespace Envelope

def version : Nat := 1

def definitionEntry (e : String × Definition) : Json := .arr [.str e.1, e.2.toJson]

def usageEntry (e : String × List String) : Json := .arr [.str e.1, Json.texts e.2]

/-- The envelope of a scan. -/
def encode (store : Store) (usages : Option UsageIndex) (key : String) : Json :=
  .obj ([("format", .int version), ("cacheKey", .str key),
    ("definitions", .arr (store.items.map definitionEntry))] ++
    (match usages with
      | some u => [("usages", .arr (u.items.map usageEntry))]
      | none => []))

def text (store : Store) (usages : Option UsageIndex) (key : String) : String :=
  (encode store usages key).render

def kindName : Json → String
  | .null => "NoneType"
  | .bool _ => "bool"
  | .int _ => "int"
  | .float _ => "float"
  | .str _ => "str"
  | .arr _ => "list"
  | .obj _ => "dict"

/-- The items of a value: those of an array, the names in an object, the characters of a text. -/
def itemsOf? : Json → Option (List Json)
  | .arr xs => some xs
  | .obj ms => some (ms.map fun m => .str m.1)
  | .str s => some (s.toList.map fun c => .str (String.singleton c))
  | _ => none

def itemsOf (v : Json) : Except EnvelopeFault (List Json) :=
  match itemsOf? v with
  | some xs => .ok xs
  | none => .error (.notIterable (kindName v))

/-- The two items of a value. -/
def pairOf (v : Json) : Except EnvelopeFault (Json × Json) :=
  match itemsOf? v with
  | none => .error (.notUnpackable (kindName v))
  | some [a, b] => .ok (a, b)
  | some xs => .error (if xs.length < 2 then .tooFew xs.length else .tooMany)

def isText (v : Json) (s : String) : Bool :=
  match v with
  | .str t => t == s
  | _ => false

def readDefinition (entry : Json) : Except EnvelopeFault Definition :=
  match pairOf entry with
  | .error f => .error f
  | .ok (key, raw) =>
    match Definition.ofJson raw with
    | .error issues => .error (.record issues.length)
    | .ok d => if isText key d.qualifiedKey then .ok d else .error (.keyMismatch key d.qualifiedKey)

def readDefinitions (store : Store) : List Json → Except EnvelopeFault Store
  | [] => .ok store
  | e :: es =>
    match readDefinition e with
    | .error f => .error f
    | .ok d => readDefinitions (store.insert d) es

/-- Reads a name with its files, each taken as a text. -/
def readUsage (entry : Json) : Except EnvelopeFault (String × List String) :=
  match pairOf entry with
  | .error f => .error f
  | .ok (.str name, .arr files) => .ok (name, files.map fun f => (Datum.ofJson f).display)
  | .ok (name, _) => .error (.usageEntry name)

def addFiles (u : UsageIndex) (name : String) (files : List String) : UsageIndex :=
  files.foldl (fun u f => u.add name f) u

def readUsages (index : UsageIndex) : List Json → Except EnvelopeFault UsageIndex
  | [] => .ok index
  | e :: es =>
    match readUsage e with
    | .error f => .error f
    | .ok (name, files) => readUsages (addFiles index name files) es

/-- Whether a value is the number of the format; a truth value or a whole double counts as a
number. -/
def isVersion (v : Json) : Bool := (Datum.ofJson v).whole? == some (version : Int)

def decodeUsages (envelope : Json) : Except EnvelopeFault (Option UsageIndex) :=
  match envelope.member? "usages" with
  | none => .ok none
  | some v =>
    match itemsOf v with
    | .error f => .error f
    | .ok entries => (readUsages .empty entries).map some

/-- Reads an envelope. -/
def decode (envelope : Json) : Except EnvelopeFault CachedScan :=
  match envelope with
  | .obj _ =>
    let format := (envelope.member? "format").getD .null
    if !isVersion format then .error (.format format)
    else
      match itemsOf ((envelope.member? "definitions").getD (.arr [])) with
      | .error f => .error f
      | .ok entries =>
        match readDefinitions .empty entries with
        | .error f => .error f
        | .ok store =>
          match decodeUsages envelope with
          | .error f => .error f
          | .ok usages => .ok ⟨store, usages, (envelope.member? "cacheKey").getD .null⟩
  | _ => .error .notObject

end Envelope

end DomainAtlas
