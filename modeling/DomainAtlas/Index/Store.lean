import DomainAtlas.Index.Definition

/-!
# Stores of a scan

`Store` maps qualified keys to definitions: the last write wins, and an overwritten key keeps its
place. `UsageIndex` maps the names that files refer to, as written, to the files, one entry per
reference.
-/
namespace DomainAtlas

/-- Sets the value at a key: in place when the key is present, at the end otherwise. -/
def putEntry {α : Type} (key : String) (value : α) : List (String × α) → List (String × α)
  | [] => [(key, value)]
  | (k, v) :: rest => if k = key then (k, value) :: rest else (k, v) :: putEntry key value rest

/-- Definitions by qualified key, in order of first insertion. -/
structure Store where
  items : List (String × Definition)
  deriving DecidableEq, Repr

namespace Store

def empty : Store := ⟨[]⟩

def get? (s : Store) (key : String) : Option Definition := s.items.lookup key

/-- Inserts or overwrites. -/
def insert (s : Store) (d : Definition) : Store := ⟨putEntry d.qualifiedKey d s.items⟩

/-- Inserts or overwrites: the definition that stood at the key before, and the store after. -/
def exchange (s : Store) (d : Definition) : Option Definition × Store :=
  (s.get? d.qualifiedKey, s.insert d)

def ofList (ds : List Definition) : Store := ds.foldl insert empty

def definitions (s : Store) : List Definition := s.items.map Prod.snd

def keys (s : Store) : List String := s.items.map Prod.fst

def contains (s : Store) (key : String) : Bool := (s.get? key).isSome

def size (s : Store) : Nat := s.items.length

end Store

/-- Files by the names they refer to, in order of first reference. -/
structure UsageIndex where
  items : List (String × List String)
  deriving DecidableEq, Repr

namespace UsageIndex

def empty : UsageIndex := ⟨[]⟩

/-- The files that refer to a name, one per reference. -/
def filesFor (u : UsageIndex) (name : String) : List String := (u.items.lookup name).getD []

def add (u : UsageIndex) (name file : String) : UsageIndex :=
  ⟨putEntry name (u.filesFor name ++ [file]) u.items⟩

def extend (u : UsageIndex) (names : List String) (file : String) : UsageIndex :=
  names.foldl (fun u name => u.add name file) u

def count (u : UsageIndex) (name : String) : Nat := (u.filesFor name).length

def contains (u : UsageIndex) (name : String) : Bool := (u.items.lookup name).isSome

def size (u : UsageIndex) : Nat := u.items.length

end UsageIndex

end DomainAtlas
