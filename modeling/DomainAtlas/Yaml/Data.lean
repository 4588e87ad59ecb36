import DomainAtlas.Text.Casing
import DomainAtlas.Yaml.Node

/-!
# Data of YAML documents

A node becomes a datum as its tag says. Faults are met in order of depth: first those of the
document's own node, then those of its children, and so on. Mappings may take in the entries of others
under a merge key; their own entries come after those and win.
-/
namespace DomainAtlas.Yaml

/-- The tag of merge keys. -/
def mergeTag : String := standardTag "merge"

/-- The tag of keys that hold the value of a mapping used as a scalar. -/
def valueTag : String := standardTag "value"

/-- The complaint about a node that is none of the expected kind. -/
def unexpectedNode (context : Option (String × Mark)) (expected : String) (n : Node) : Fault :=
  let problem := s!"expected {expected}, but found {n.label}"
  match context with
  | some (c, m) => .during c m problem n.place
  | none => .plain problem n.place

/-- The context of complaints about entries of a mapping. -/
def inMapping (m : Mark) : Option (String × Mark) := some ("while constructing a mapping", m)

/-- The key of an entry, with a value key taken as a text. -/
def textualKey (k : Node) : Node :=
  match k with
  | .scalar tag text m => .scalar (if tag = valueTag then standardTag "str" else tag) text m
  | other => other

mutual

/-- The entries of a mapping with those it takes in: they come first. -/
def flatten : Node → Except Fault (List (Node × Node))
  | .mapping _ entries m => (flattenEntries m entries).map fun (merged, own) => merged ++ own
  | _ => .ok []

/-- The entries taken in and the own ones. -/
def flattenEntries (place : Mark) :
    List (Node × Node) → Except Fault (List (Node × Node) × List (Node × Node))
  | [] => .ok ([], [])
  | (k, v) :: rest =>
    if k.tag = mergeTag then
      match mergedEntries place v with
      | .error f => .error f
      | .ok merged => (flattenEntries place rest).map fun (ms, own) => (merged ++ ms, own)
    else (flattenEntries place rest).map fun (ms, own) => (ms, (textualKey k, v) :: own)

/-- The entries under a merge key. -/
def mergedEntries (place : Mark) : Node → Except Fault (List (Node × Node))
  | .mapping tag entries m => flatten (.mapping tag entries m)
  | .sequence _ items _ => flattenItems place items
  | .cycle _ => .error (.unheld .endless)
  | other =>
    .error (unexpectedNode (inMapping place) "a mapping or list of mappings for merging" other)

/-- The entries of several mappings: the first mapping's come last. -/
def flattenItems (place : Mark) : List Node → Except Fault (List (Node × Node))
  | [] => .ok []
  | .mapping tag entries m :: rest =>
    match flatten (.mapping tag entries m) with
    | .error f => .error f
    | .ok es => (flattenItems place rest).map fun more => more ++ es
  | .cycle _ :: _ => .error (.unheld .endless)
  | other :: _ => .error (unexpectedNode (inMapping place) "a mapping for merging" other)

end

/-- The text of a node as a scalar: a mapping may name one with a value key. -/
def scalarText : Node → Except Fault String
  | .scalar _ text _ => .ok text
  | .mapping tag entries m => entryText (.mapping tag entries m) entries
  | other => .error (unexpectedNode none "a scalar node" other)
where
  /-- The text of the first value key. -/
  entryText (whole : Node) : List (Node × Node) → Except Fault String
  | [] => .error (unexpectedNode none "a scalar node" whole)
  | (k, v) :: rest =>
    if k.tag = valueTag then
      match v with
      | .scalar _ text _ => .ok text
      | other => .error (unexpectedNode none "a scalar node" other)
    else entryText whole rest

def collectionTags : List String := ["seq", "map", "set", "omap", "pairs"].map standardTag

def isCollection (n : Node) : Bool := collectionTags.contains n.tag

/-- The value of a letter of base 64. -/
def sextet? (c : Char) : Option Nat :=
  if 'A' ≤ c ∧ c ≤ 'Z' then some (c.toNat - 65)
  else if 'a' ≤ c ∧ c ≤ 'z' then some (c.toNat - 71)
  else if c.isDigit then some (c.toNat + 4)
  else if c = '+' then some 62
  else if c = '/' then some 63
  else none

/-- The bytes of groups of sextets; a last group of two or three gives one or two bytes. -/
def sextetBytes : List Nat → List UInt8
  | a :: b :: c :: d :: rest =>
    let n := ((a * 64 + b) * 64 + c) * 64 + d
    UInt8.ofNat (n / 65536) :: UInt8.ofNat (n / 256) :: UInt8.ofNat n :: sextetBytes rest
  | [a, b, c] =>
    let n := (a * 64 + b) * 64 + c
    [UInt8.ofNat (n / 1024), UInt8.ofNat (n / 4)]
  | [a, b] => [UInt8.ofNat ((a * 64 + b) / 16)]
  | _ => []

/-- Reads letters of base 64 up to the padding that completes a group; other characters are passed
over. `pads` counts padding since the last letter. -/
def base64 : (sextets : List Nat) → (pads : Nat) → List Char → Except String (List Nat)
  | sextets, _, [] =>
    if sextets.length % 4 = 0 then .ok sextets.reverse
    else if sextets.length % 4 = 1 then
      .error (s!"Invalid base64-encoded string: number of data characters ({sextets.length}) " ++
        "cannot be 1 more than a multiple of 4")
    else .error "Incorrect padding"
  | sextets, pads, c :: cs =>
    if c = '=' then
      if 2 ≤ sextets.length % 4 ∧ 4 ≤ sextets.length % 4 + (pads + 1) then .ok sextets.reverse
      else base64 sextets (pads + 1) cs
    else
      match sextet? c with
      | some d => base64 (d :: sextets) 0 cs
      | none => base64 sextets pads cs

/-- The complaint about the characters outside of ASCII at the front of a text, `before` characters
into it. -/
def notAscii (before : Nat) (run : List Char) : String :=
  let what := match run with
    | [c] =>
      let n := c.toNat
      let code := if n ≤ 0xFF then 'x' :: Text.hexPadded 2 n
        else if n ≤ 0xFFFF then 'u' :: Text.hexPadded 4 n
        else 'U' :: Text.hexPadded 8 n
      s!"character '\\{String.ofList code}' in position {before}"
    | _ => s!"characters in position {before}-{before + run.length - 1}"
  s!"'ascii' codec can't encode {what}: ordinal not in range(128)"

/-- The bytes a text in base 64 stands for. -/
def bytesValue (place : Mark) (text : String) : Except Fault Datum :=
  let isAscii (c : Char) : Bool := c.toNat < 128
  let plain := text.toList.takeWhile isAscii
  let rest := text.toList.dropWhile isAscii
  if !rest.isEmpty then
    .error (.plain ("failed to convert base64 data into ascii: " ++
      notAscii plain.length (rest.takeWhile fun c => !isAscii c)) place)
  else
    match base64 [] 0 text.toList with
    | .ok sextets => .ok (.bytes (sextetBytes sextets))
    | .error why => .error (.plain ("failed to decode base64 data: " ++ why) place)

def truthValue (text : String) : Except ValueFault Bool :=
  match truthWords.lookup (Text.lower text) with
  | some b => .ok b
  | none => .error (.truthWord (Text.lower text))

def dateData (n : Node) (text : String) : Except ValueFault Datum :=
  match n with
  | .scalar .. => dateValue text
  | _ => .error .dateNode

def scalarData (n : Node) : Except Fault Datum :=
  let valued {α : Type} (f : String → Except ValueFault α) (g : α → Datum) : Except Fault Datum :=
    match scalarText n with
    | .error e => .error e
    | .ok text =>
      match f text with
      | .ok a => .ok (g a)
      | .error e => .error (.value e)
  match n with
  | .cycle _ => .error (.unheld .endless)
  | _ =>
    if n.tag = standardTag "null" then (scalarText n).map fun _ => .null
    else if n.tag = standardTag "bool" then valued truthValue .bool
    else if n.tag = standardTag "int" then valued intValue .int
    else if n.tag = standardTag "float" then valued floatValue .float
    else if n.tag = standardTag "timestamp" then valued (dateData n) id
    else if n.tag = standardTag "binary" then
      match scalarText n with
      | .error e => .error e
      | .ok text => bytesValue n.place text
    else if n.tag = standardTag "str" then (scalarText n).map .text
    else
      .error (.plain ("could not determine a constructor for the tag " ++ Text.literal n.tag) n.place)

/-- Looks at a node: whether it is a collection, which waits for its turn, or a fault. -/
def visit (n : Node) : Except Fault (List Node) :=
  if isCollection n then .ok [n] else (scalarData n).map fun _ => []

/-- The parts of a list of pairs: every item is a mapping of one entry. -/
def pairOf (context : String) (place : Mark) (n : Node) : Except Fault (Node × Node) :=
  match n with
  | .mapping _ [e] _ => .ok e
  | .mapping _ entries m =>
    .error (.during context place
      s!"expected a single mapping item, but found {entries.length} items" m)
  | .cycle _ => .error (.unheld .endless)
  | other => .error (unexpectedNode (some (context, place)) "a mapping of length 1" other)

/-- Looks at some nodes in order. -/
def visitAll : List Node → Except Fault (List Node)
  | [] => .ok []
  | n :: ns => do
    let first ← visit n
    let rest ← visitAll ns
    return first ++ rest

/-- Looks at the entries of a mapping in order; a collection is no key. -/
def visitEntries (place : Mark) : List (Node × Node) → Except Fault (List Node)
  | [] => .ok []
  | (k, v) :: rest => do
    let asKey ← visit k
    if !asKey.isEmpty then
      .error (.during "while constructing a mapping" place "found unhashable key" k.place)
    else
      let first ← visit v
      let more ← visitEntries place rest
      return first ++ more

/-- Looks at the items of a list of pairs in order. -/
def visitPairs (context : String) (place : Mark) : List Node → Except Fault (List Node)
  | [] => .ok []
  | n :: ns => do
    let (k, v) ← pairOf context place n
    let first ← visitAll [k, v]
    let rest ← visitPairs context place ns
    return first ++ rest

/-- What complaints about a list of pairs start with. -/
def pairContext (tag : String) : String :=
  if tag = standardTag "omap" then "while constructing an ordered map" else "while constructing pairs"

/-- Opens a collection: the collections in it, or the first fault among its parts. -/
def openCollection (n : Node) : Except Fault (List Node) :=
  let isPairs := n.tag = standardTag "omap" ∨ n.tag = standardTag "pairs"
  if n.tag = standardTag "seq" then
    match n with
    | .sequence _ items _ => visitAll items
    | other => .error (unexpectedNode none "a sequence node" other)
  else if isPairs then
    match n with
    | .sequence _ items m => visitPairs (pairContext n.tag) m items
    | other => .error (unexpectedNode (some (pairContext n.tag, n.place)) "a sequence" other)
  else
    match n with
    | .mapping .. =>
      match flatten n with
      | .error f => .error f
      | .ok entries => visitEntries n.place entries
    | other => .error (unexpectedNode none "a mapping node" other)

def openAll : List Node → Except Fault (List Node)
  | [] => .ok []
  | n :: ns => do
    let first ← openCollection n
    let rest ← openAll ns
    return first ++ rest

/-- Opens collections level by level; `fuel` bounds the depth. -/
def openLevels : Nat → List Node → Except Fault Unit
  | 0, _ => .ok ()
  | fuel + 1, level =>
    match openAll level with
    | .error f => .error f
    | .ok [] => .ok ()
    | .ok next => openLevels fuel next

/-- The value of an attempt that is known to succeed. -/
def orNull : Except Fault Datum → Datum
  | .ok d => d
  | .error _ => .null

/-- The datum of a node without faults; `fuel` bounds the depth. -/
def dataOf : Nat → Node → Datum
  | 0, _ => .null
  | fuel + 1, n =>
    if !isCollection n then orNull (scalarData n)
    else
      let entries := match flatten n with
        | .ok es => es
        | .error _ => []
      match n with
      | .sequence tag items _ =>
        if tag = standardTag "seq" then .list (items.map (dataOf fuel))
        else
          .list (items.filterMap fun item =>
            match item with
            | .mapping _ [(k, v)] _ => some (.tuple [dataOf fuel k, dataOf fuel v])
            | _ => none)
      | _ =>
        let pairs := entries.foldl (fun acc e =>
          Datum.setEntry (dataOf fuel e.1) (dataOf fuel e.2) acc) []
        if n.tag = standardTag "set" then .set (pairs.map Prod.fst) else .map pairs

/-- Whether a character may stand in a document. -/
def isAllowed (c : Char) : Bool :=
  let n := c.toNat
  n == 0x9 || n == 0xA || n == 0xD || (0x20 ≤ n && n ≤ 0x7E) || n == 0x85 ||
    (0xA0 ≤ n && n ≤ 0xFFFD) || 0x10000 ≤ n

def documentData (n : Node) : Except Fault Datum :=
  if maxDepth < n.depth then .error (.unheld .deep)
  else
    match visit n with
    | .error f => .error f
    | .ok level =>
      match openLevels (n.depth + 1) level with
      | .error f => .error f
      | .ok () => .ok (dataOf (n.depth + 1) n)

/-- The data of a text that holds at most one document. -/
def load (text : String) : Except Fault Datum :=
  let cs := text.toList
  match cs.zipIdx.find? fun ch => !isAllowed ch.1 with
  | some (ch, i) => .error (.character ch.toNat i)
  | none =>
    let tokens := Tokens.ofChars cs
    if maxDepth < nesting 0 tokens.list then .error (.unheld .deep)
    else
      match NodeReader.document tokens with
      | .error f => .error f
      | .ok none => .ok .null
      | .ok (some n) => documentData n

end DomainAtlas.Yaml
