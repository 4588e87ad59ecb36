import DomainAtlas.Index.Store

/-!
# Views of a store

What a report shows: how the definitions spread over domains, the listing that keeps a namespace
together, and the names referred to most.
-/
namespace DomainAtlas

def unknownDomain : String := "unknown"

/-- The domain a definition is counted under. -/
def Definition.effectiveDomain (d : Definition) : String :=
  match d.domain with
  | none => unknownDomain
  | some s => if s = "" then unknownDomain else s

/-- The definitions of one domain. -/
structure Bucket where
  domain : String
  count : Nat
  /-- The share of all definitions in percent. -/
  percentage : Double
  deriving DecidableEq, Repr

/-- Adds one to the count of a name. -/
def tally (counts : List (String × Nat)) (name : String) : List (String × Nat) :=
  putEntry name ((counts.lookup name).getD 0 + 1) counts

/-- Larger counts first, then names in order. -/
def byCount (a b : Nat × String) : Bool :=
  if a.1 = b.1 then Text.le a.2 b.2 else decide (b.1 < a.1)

/-- The share of `count` in `total` in percent, rounded to a double. -/
def percentOf (count total : Nat) : Double := Double.ofRatio false (count * 100) total

/-- The definitions by domain, largest group first. -/
def domainBuckets (s : Store) : List Bucket :=
  let counts := (s.definitions.map Definition.effectiveDomain).foldl tally []
  let buckets := counts.map fun (d, n) => Bucket.mk d n (percentOf n s.size)
  buckets.mergeSort fun a b => byCount (a.count, a.domain) (b.count, b.domain)

/-- The key a listing is ordered by: folded sort key, folded class name, qualified key. -/
def listingKey (d : Definition) : String × String × String :=
  (Text.foldCase d.sortKey, Text.foldCase (d.className.getD ""), d.qualifiedKey)

/-- The order of three texts, one after the other. -/
def leKeys (a b : String × String × String) : Bool :=
  if a.1 = b.1 then
    if a.2.1 = b.2.1 then Text.le a.2.2 b.2.2 else Text.le a.2.1 b.2.1
  else Text.le a.1 b.1

/-- All definitions by namespace, whatever the case of its letters. -/
def sortedByNamespace (s : Store) : List Definition :=
  let keyed := s.definitions.map fun d => (listingKey d, d)
  (keyed.mergeSort fun a b => leKeys a.1 b.1).map Prod.snd

def namespaceSeparator : Char := '\\'

/-- The definition a name refers to: the one with that key, or with that key after one leading
separator. -/
def resolveUsage (name : String) (s : Store) : Option Definition :=
  match s.get? name with
  | some d => some d
  | none =>
    match name.toList with
    | c :: rest => if c = namespaceSeparator then s.get? (String.ofList rest) else none
    | [] => none

/-- A name that files refer to. -/
structure UsageEntry where
  name : String
  count : Nat
  files : List String
  definition : Option Definition
  deriving DecidableEq, Repr

/-- The names referred to, most frequent first. -/
def usageFrequency (u : UsageIndex) (s : Store) : List UsageEntry :=
  let entries := u.items.map fun (name, files) =>
    UsageEntry.mk name files.length files (resolveUsage name s)
  entries.mergeSort fun a b => byCount (a.count, a.name) (b.count, b.name)

end DomainAtlas
