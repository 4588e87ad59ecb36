import DomainAtlas.Yaml.Layout
import DomainAtlas.Yaml.Plain

/-!
# Nodes of YAML

A document is a tree of scalars, sequences and mappings, each with a tag and a place. Aliases are
replaced by the node they refer to; an alias inside its own node is kept as a `cycle`.

The reader takes tokens one at a time and reports the first thing that is out of place; a fault of the
tokens themselves is met where the next token would be needed.
-/
namespace DomainAtlas.Yaml

inductive Node where
  | scalar (tag text : String) (place : Mark)
  | sequence (tag : String) (items : List Node) (place : Mark)
  | mapping (tag : String) (entries : List (Node × Node)) (place : Mark)
  /-- A reference to a node that is not finished. -/
  | cycle (place : Mark)

namespace Node

def place : Node → Mark
  | .scalar _ _ m => m
  | .sequence _ _ m => m
  | .mapping _ _ m => m
  | .cycle m => m

def tag : Node → String
  | .scalar t _ _ => t
  | .sequence t _ _ => t
  | .mapping t _ _ => t
  | .cycle _ => ""

/-- What a node is called in a report. -/
def label : Node → String
  | .scalar .. => "scalar"
  | .sequence .. => "sequence"
  | .mapping .. => "mapping"
  | .cycle _ => "node"

mutual

/-- How deep a node is nested. -/
def depth : Node → Nat
  | .sequence _ items _ => 1 + depthOf items
  | .mapping _ entries _ => 1 + depthOfEntries entries
  | _ => 1

def depthOf : List Node → Nat
  | [] => 0
  | n :: ns => max (depth n) (depthOf ns)

def depthOfEntries : List (Node × Node) → Nat
  | [] => 0
  | (k, v) :: es => max (max (depth k) (depth v)) (depthOfEntries es)

end

def empty (m : Mark) : Node := .scalar (tagOfPlain "") "" m

end Node

/-- An anchored node: where it started, and the node itself once it is finished. -/
structure Anchor where
  name : String
  start : Mark
  node : Option Node

structure NodeReader where
  tokens : List Token
  fault : Option Fault
  anchors : List Anchor
  /-- The handles that tags may start with, and what they stand for. -/
  handles : List (String × String)

namespace NodeReader

def standardHandles : List (String × String) := [("!", "!"), ("!!", standardTags)]

def peek (r : NodeReader) : Except Fault Token :=
  match r.tokens, r.fault with
  | t :: _, _ => .ok t
  | [], some f => .error f
  | [], none => .ok (.at .streamEnd default)

def next (r : NodeReader) : NodeReader := { r with tokens := r.tokens.tail }

def sees (r : NodeReader) (p : TokenKind → Bool) : Except Fault Bool := r.peek.map fun t => p t.kind

/-- The tags and anchors in front of a node. -/
structure Properties where
  anchor : Option String
  tag : Option (Option String × String)
  start : Option Mark
  tagPlace : Option Mark
  stop : Option Mark

def anchorHere (r : NodeReader) : Except Fault (Option (String × Token) × NodeReader) := do
  let t ← r.peek
  match t.kind with
  | .anchor name => return (some (name, t), r.next)
  | _ => return (none, r)

def tagHere (r : NodeReader) :
    Except Fault (Option ((Option String × String) × Token) × NodeReader) := do
  let t ← r.peek
  match t.kind with
  | .tag handle suffix => return (some ((handle, suffix), t), r.next)
  | _ => return (none, r)

/-- Reads what stands in front of a node: a tag and an anchor in either order. -/
def properties (r : NodeReader) : Except Fault (Properties × NodeReader) := do
  let (a, r) ← r.anchorHere
  match a with
  | some (name, t) =>
    let (g, r) ← r.tagHere
    match g with
    | some (tag, u) => return (⟨some name, some tag, some t.start, some u.start, some u.stop⟩, r)
    | none => return (⟨some name, none, some t.start, none, some t.stop⟩, r)
  | none =>
    let (g, r) ← r.tagHere
    match g with
    | none => return (⟨none, none, none, none, none⟩, r)
    | some (tag, u) =>
      let (a, r) ← r.anchorHere
      match a with
      | some (name, t) => return (⟨some name, some tag, some u.start, some u.start, some t.stop⟩, r)
      | none => return (⟨none, some tag, some u.start, some u.start, some u.stop⟩, r)

def wholeTag (r : NodeReader) (p : Properties) : Except Fault (Option String) :=
  match p.tag with
  | none => .ok none
  | some (none, suffix) => .ok (some suffix)
  | some (some handle, suffix) =>
    match r.handles.lookup handle with
    | some start => .ok (some (start ++ suffix))
    | none =>
      let place := p.tagPlace.getD default
      .error (.during "while parsing a node" (p.start.getD place)
        ("found undefined tag handle " ++ Text.literal handle) place)

/-- The tag of a scalar: a given one, one by the form of a plain text, or that of texts. -/
def scalarTag (tag : Option String) (isPlain : Bool) (text : String) : String :=
  match tag with
  | none => if isPlain then tagOfPlain text else standardTag "str"
  | some "!" => tagOfPlain text
  | some t => t

def collectionTag (tag : Option String) (default : String) : String :=
  match tag with
  | none => standardTag default
  | some "!" => standardTag default
  | some t => t

/-- Notes that a node with an anchor starts; a name can be used once. -/
def startAnchor (r : NodeReader) (name : Option String) (m : Mark) : Except Fault NodeReader :=
  match name with
  | none => .ok r
  | some n =>
    match r.anchors.find? fun a => a.name == n with
    | some a =>
      .error (.marked (some ("found duplicate anchor " ++ Text.literal n ++ "; first occurrence"))
        (some a.start) "second occurrence" m)
    | none => .ok { r with anchors := ⟨n, m, none⟩ :: r.anchors }

def finishAnchor (r : NodeReader) (name : Option String) (node : Node) : NodeReader :=
  match name with
  | none => r
  | some n => { r with anchors := r.anchors.map fun a =>
      if a.name = n then { a with node := some node } else a }

def referred (r : NodeReader) (name : String) (m : Mark) : Except Fault Node :=
  match r.anchors.find? fun a => a.name == name with
  | none => .error (.plain ("found undefined alias " ++ Text.literal name) m)
  | some a => .ok (a.node.getD (.cycle m))

/-- The complaint about a token that is out of place. -/
def outOfPlace (context : String) (start : Mark) (expected : String) (t : Token) : Fault :=
  .during context start (expected ++ Text.literal t.kind.label) t.start

/-- Where a node may stand, which decides how it can be written. -/
inductive Site where
  | block
  /-- A value of a block mapping: a sequence need not be indented. -/
  | blockValue
  | flow
  deriving DecidableEq, Repr

mutual

/-- Reads a node; `fuel` bounds the tokens. -/
def node : Nat → Site → NodeReader → Except Fault (Node × NodeReader)
  | 0, _, r => do
    let t ← r.peek
    return (.empty t.start, r)
  | fuel + 1, site, r => do
    let t ← r.peek
    match t.kind with
    | .reference name =>
      let n ← r.referred name t.start
      return (n, r.next)
    | _ =>
      let (p, r) ← r.properties
      let tag ← r.wholeTag p
      let t ← r.peek
      let start := p.start.getD t.start
      let open' (r : NodeReader) : Except Fault NodeReader := r.startAnchor p.anchor start
      let finish (n : Node) (r : NodeReader) : Except Fault (Node × NodeReader) :=
        .ok (n, r.finishAnchor p.anchor n)
      match t.kind with
      | .scalar text isPlain =>
        let r ← open' r.next
        finish (.scalar (scalarTag tag isPlain text) text start) r
      | .openSequence =>
        let (items, r) ← flowItems fuel true t.start (← open' r.next)
        finish (.sequence (collectionTag tag "seq") items start) r
      | .openMapping =>
        let (entries, r) ← flowEntries fuel true t.start (← open' r.next)
        finish (.mapping (collectionTag tag "map") entries start) r
      | kind =>
        if kind = .entry ∧ site = .blockValue then
          let (items, r) ← flatItems fuel (← open' r)
          finish (.sequence (collectionTag tag "seq") items start) r
        else if kind = .blockSequence ∧ site ≠ .flow then
          let (items, r) ← blockItems fuel t.start (← open' r.next)
          finish (.sequence (collectionTag tag "seq") items start) r
        else if kind = .blockMapping ∧ site ≠ .flow then
          let (entries, r) ← blockEntries fuel t.start (← open' r.next)
          finish (.mapping (collectionTag tag "map") entries start) r
        else if p.anchor.isSome ∨ tag.isSome then
          let r ← open' r
          finish (.scalar (scalarTag tag (tag.isNone) "") "" start) r
        else
          let style := if site = .flow then "flow" else "block"
          .error (outOfPlace s!"while parsing a {style} node" start
            "expected the node content, but found " t)

/-- Reads a node, or an empty scalar at a place if the next token cannot start one. -/
def nodeUnless (stops : TokenKind → Bool) (empty : Mark) :
    Nat → Site → NodeReader → Except Fault (Node × NodeReader)
  | 0, _, r => .ok (.empty empty, r)
  | fuel + 1, site, r => do
    if ← r.sees stops then return (.empty empty, r) else node fuel site r

/-- Reads the entries of a block sequence that started at a place. -/
def blockItems : Nat → Mark → NodeReader → Except Fault (List Node × NodeReader)
  | 0, _, r => .ok ([], r)
  | fuel + 1, start, r => do
    let t ← r.peek
    match t.kind with
    | .entry =>
      let stops (k : TokenKind) : Bool := k == .entry || k == .blockEnd
      let (n, r) ← nodeUnless stops t.stop fuel .block r.next
      let (ns, r) ← blockItems fuel start r
      return (n :: ns, r)
    | .blockEnd => return ([], r.next)
    | _ =>
      .error (outOfPlace "while parsing a block collection" start
        "expected <block end>, but found " t)

/-- Reads the entries of a sequence that is not indented. -/
def flatItems : Nat → NodeReader → Except Fault (List Node × NodeReader)
  | 0, r => .ok ([], r)
  | fuel + 1, r => do
    let t ← r.peek
    match t.kind with
    | .entry =>
      let stops (k : TokenKind) : Bool :=
        k == .entry || k == .key || k == .value || k == .blockEnd
      let (n, r) ← nodeUnless stops t.stop fuel .block r.next
      let (ns, r) ← flatItems fuel r
      return (n :: ns, r)
    | _ => return ([], r)

/-- Reads the value of an entry: after a colon, or an empty scalar where there is none. -/
def entryValue (stops : TokenKind → Bool) :
    Nat → Site → NodeReader → Except Fault (Node × NodeReader)
  | 0, _, r => do
    let t ← r.peek
    return (.empty t.start, r)
  | fuel + 1, site, r => do
    let t ← r.peek
    match t.kind with
    | .value => nodeUnless stops t.stop fuel site r.next
    | _ => return (.empty t.start, r)

/-- Reads the entries of a block mapping that started at a place. -/
def blockEntries : Nat → Mark → NodeReader → Except Fault (List (Node × Node) × NodeReader)
  | 0, _, r => .ok ([], r)
  | fuel + 1, start, r => do
    let t ← r.peek
    let stops (k : TokenKind) : Bool := k == .key || k == .value || k == .blockEnd
    match t.kind with
    | .key =>
      let (k, r) ← nodeUnless stops t.stop fuel .blockValue r.next
      let (v, r) ← entryValue stops fuel .blockValue r
      let (es, r) ← blockEntries fuel start r
      return ((k, v) :: es, r)
    | .blockEnd => return ([], r.next)
    | _ =>
      .error (outOfPlace "while parsing a block mapping" start
        "expected <block end>, but found " t)

/-- Reads the items of a bracketed sequence that started at a place; before all but the first there
is a comma. An item with a key is a mapping of one entry. -/
def flowItems : Nat → Bool → Mark → NodeReader → Except Fault (List Node × NodeReader)
  | 0, _, _, r => .ok ([], r)
  | fuel + 1, isFirst, start, r => do
    let t ← r.peek
    if t.kind = .closeSequence then return ([], r.next)
    else if !isFirst && t.kind != .comma then
      .error (outOfPlace "while parsing a flow sequence" start "expected ',' or ']', but got " t)
    else
      let r := if isFirst then r else r.next
      let t ← r.peek
      match t.kind with
      | .closeSequence => return ([], r.next)
      | .key =>
        let stops (k : TokenKind) : Bool := k == .comma || k == .closeSequence
        let (k, r) ← nodeUnless (fun k => k == .value || stops k) t.stop fuel .flow r.next
        let (v, r) ← entryValue stops fuel .flow r
        let (ns, r) ← flowItems fuel false start r
        return (.mapping (standardTag "map") [(k, v)] t.start :: ns, r)
      | _ =>
        let (n, r) ← node fuel .flow r
        let (ns, r) ← flowItems fuel false start r
        return (n :: ns, r)

/-- Reads the entries of a bracketed mapping that started at a place. An item without a key token is
a key without a value. -/
def flowEntries : Nat → Bool → Mark → NodeReader → Except Fault (List (Node × Node) × NodeReader)
  | 0, _, _, r => .ok ([], r)
  | fuel + 1, isFirst, start, r => do
    let t ← r.peek
    if t.kind = .closeMapping then return ([], r.next)
    else if !isFirst && t.kind != .comma then
      .error (outOfPlace "while parsing a flow mapping" start "expected ',' or '\x7d', but got " t)
    else
      let r := if isFirst then r else r.next
      let t ← r.peek
      match t.kind with
      | .closeMapping => return ([], r.next)
      | .key =>
        let stops (k : TokenKind) : Bool := k == .comma || k == .closeMapping
        let (k, r) ← nodeUnless (fun k => k == .value || stops k) t.stop fuel .flow r.next
        let (v, r) ← entryValue stops fuel .flow r
        let (es, r) ← flowEntries fuel false start r
        return ((k, v) :: es, r)
      | _ =>
        let (k, r) ← node fuel .flow r
        let t ← r.peek
        let (es, r) ← flowEntries fuel false start r
        return ((k, .empty t.start) :: es, r)

end

/-! ## Documents -/

/-- What the directives of a document have said so far. -/
structure Prolog where
  version : Bool
  handles : List (String × String)

/-- Reads the directives of a document; `fuel` bounds the tokens. -/
def directives : Nat → Prolog → NodeReader → Except Fault (Prolog × NodeReader)
  | 0, p, r => .ok (p, r)
  | fuel + 1, p, r => do
    let t ← r.peek
    match t.kind with
    | .directive (.version major _) =>
      if p.version then .error (.plain "found duplicate YAML directive" t.start)
      else if major ≠ 1 then
        .error (.plain "found incompatible YAML document (version 1.* is required)" t.start)
      else directives fuel { p with version := true } r.next
    | .directive (.handle name start) =>
      if (p.handles.lookup name).isSome then
        .error (.plain ("duplicate tag handle " ++ Text.literal name) t.start)
      else directives fuel { p with handles := p.handles ++ [(name, start)] } r.next
    | .directive .other => directives fuel p r.next
    | _ => return (p, r)

/-- Moves past ends of documents; `fuel` bounds the tokens. -/
def skipEnds : Nat → NodeReader → Except Fault NodeReader
  | 0, r => .ok r
  | fuel + 1, r => do
    if ← r.sees (· == .documentEnd) then skipEnds fuel r.next else return r

/-- Reads the start of a document: none at the end of the text, otherwise where it starts. -/
def documentStart (fuel : Nat) (r : NodeReader) : Except Fault (Option Mark × NodeReader) := do
  let r ← skipEnds fuel r
  let t ← r.peek
  if t.kind = .streamEnd then return (none, r)
  else
    let (p, r) ← directives fuel ⟨false, []⟩ r
    let d ← r.peek
    if d.kind ≠ .documentStart then
      .error (.plain ("expected '<document start>', but found " ++ Text.literal d.kind.label) d.start)
    else
      let standard := standardHandles.filter fun h => (p.handles.lookup h.1).isNone
      return (some t.start, { r.next with handles := p.handles ++ standard })

/-- Whether a token shows that a document starts with more than its content. -/
def startsProlog : TokenKind → Bool
  | .directive _ => true
  | .documentStart => true
  | .streamEnd => true
  | _ => false

def endsContent (k : TokenKind) : Bool := startsProlog k || k == .documentEnd

/-- Reads the first document: none if there is none. -/
def firstDocument (fuel : Nat) (r : NodeReader) : Except Fault (Option Node × NodeReader) := do
  if ← r.sees startsProlog then
    let (found, r) ← documentStart fuel r
    match found with
    | none => return (none, r)
    | some _ =>
      let t ← r.peek
      if endsContent t.kind then return (some (.empty t.start), r)
      else
        let (n, r) ← node fuel .block r
        return (some n, r)
  else
    let (n, r) ← node fuel .block { r with handles := standardHandles }
    return (some n, r)

/-- Reads the only document of a text. -/
def document (tokens : Tokens) : Except Fault (Option Node) := do
  let fuel := 4 * tokens.list.length + 8
  let (n, r) ← firstDocument fuel ⟨tokens.list, tokens.fault, [], []⟩
  match n with
  | none => return none
  | some n =>
    let r := if ← r.sees (· == .documentEnd) then r.next else r
    let (more, _) ← documentStart fuel { r with anchors := [] }
    match more with
    | none => return some n
    | some place =>
      .error (.during "expected a single document in the stream" n.place
        "but found another document" place)

end NodeReader

end DomainAtlas.Yaml
