import DomainAtlas.Proofs.FileSystem
import DomainAtlas.Proofs.Index.Envelope
import Mathlib.Data.List.Forall2

/-!
# Which envelopes are accepted

Loading takes an envelope as a whole or not at all. When its definitions and usages are arrays of
arrays, a scan comes out exactly if every row is as it should be and the key is the expected one: one
bad row at the end discards all that was read before. What comes out is then made of all rows, in their
order.

Results:
* `Envelope.readDefinitions_rows`, `Envelope.readUsages_rows`: the rows that are read, and what they
  make.
* `Envelope.decode_eq_ok_iff`: the same for the whole envelope.
* `ScanCache.load_all_or_nothing`: which cache files give a scan, and which scan.
-/
namespace DomainAtlas

/-- A list of which every item has a partner. -/
theorem exists_forall₂_iff {α β : Type} {R : α → β → Prop} {xs : List α} :
    (∃ ys, List.Forall₂ R xs ys) ↔ ∀ x ∈ xs, ∃ y, R x y := by
  induction xs with
  | nil => simp
  | cons x xs ih =>
    rw [List.forall_mem_cons, ← ih]
    constructor
    · rintro ⟨ys, h⟩
      obtain ⟨y, ys, hy, hys, rfl⟩ := List.forall₂_cons_left_iff.mp h
      exact ⟨⟨y, hy⟩, ys, hys⟩
    · rintro ⟨⟨y, hy⟩, ys, hys⟩
      exact ⟨y :: ys, .cons hy hys⟩

namespace Envelope

/-- An array of arrays. -/
def table (rows : List (List Json)) : Json := .arr (rows.map .arr)

/-- The row of a definition: its key, and raw data that is accepted as a definition with this key. -/
def DefinitionRow (row : List Json) (d : Definition) : Prop :=
  ∃ raw, row = [.str d.qualifiedKey, raw] ∧ Definition.ofJson raw = .ok d

/-- The row of a name: the name and an array, whose items are the files, each taken as a text. -/
def UsageRow (row : List Json) (u : String × List String) : Prop :=
  ∃ files, row = [.str u.1, .arr files] ∧ u.2 = files.map fun f => (Datum.ofJson f).display

/-! ## Rows -/

theorem isText_iff {v : Json} {s : String} : isText v s = true ↔ v = .str s := by
  cases v <;> simp [isText]

theorem pairOf_arr {row : List Json} {a b : Json} : pairOf (.arr row) = .ok (a, b) ↔ row = [a, b] := by
  unfold pairOf itemsOf?
  split
  · next h => cases h
  · next x y h =>
    obtain rfl := Option.some.inj h
    simp
  · next xs pair h =>
    obtain rfl := Option.some.inj h
    simp only [reduceCtorEq, false_iff]
    rintro rfl
    exact pair a b rfl

theorem readDefinition_arr {row : List Json} {d : Definition} :
    readDefinition (.arr row) = .ok d ↔ DefinitionRow row d := by
  unfold readDefinition
  constructor
  · intro h
    split at h
    · cases h
    · next key raw pair =>
      split at h
      · cases h
      · next accepted =>
        split at h
        · next same =>
          obtain rfl := Except.ok.inj h
          rw [isText_iff.mp same] at pair
          exact ⟨raw, pairOf_arr.mp pair, accepted⟩
        · cases h
  · rintro ⟨raw, pair, accepted⟩
    simp only [pairOf_arr.mpr pair, accepted, isText_iff.mpr, if_true]

/-- The row of a sound definition gives this definition only. -/
theorem definitionRow_toJson_iff {d e : Definition} (h : d.Sound) :
    DefinitionRow [.str d.qualifiedKey, d.toJson] e ↔ e = d := by
  constructor
  · rintro ⟨raw, pair, accepted⟩
    obtain ⟨-, rfl⟩ : Json.str d.qualifiedKey = .str e.qualifiedKey ∧ d.toJson = raw := by
      simpa only [List.cons.injEq, and_true] using pair
    rw [Definition.ofJson_toJson h] at accepted
    exact (Except.ok.inj accepted).symm
  · rintro rfl
    exact ⟨_, rfl, Definition.ofJson_toJson h⟩

/-- The definitions of all rows go into the store in order, or none does. -/
theorem readDefinitions_rows {rows : List (List Json)} {store s : Store} :
    readDefinitions store (rows.map .arr) = .ok s ↔
      ∃ ds, List.Forall₂ DefinitionRow rows ds ∧ s = ds.foldl Store.insert store := by
  induction rows generalizing store with
  | nil => simp [readDefinitions, eq_comm]
  | cons row rows ih =>
    rw [List.map_cons, readDefinitions]
    constructor
    · intro h
      split at h
      · cases h
      · next d read =>
        obtain ⟨ds, all, rfl⟩ := ih.mp h
        exact ⟨d :: ds, .cons (readDefinition_arr.mp read) all, rfl⟩
    · rintro ⟨ds, all, rfl⟩
      obtain ⟨d, rest, first, more, rfl⟩ := List.forall₂_cons_left_iff.mp all
      simp only [readDefinition_arr.mpr first]
      exact ih.mpr ⟨rest, more, rfl⟩

theorem readUsage_arr {row : List Json} {u : String × List String} :
    readUsage (.arr row) = .ok u ↔ UsageRow row u := by
  unfold readUsage
  constructor
  · intro h
    split at h
    · cases h
    · next name files pair =>
      obtain rfl := Except.ok.inj h
      exact ⟨files, pairOf_arr.mp pair, rfl⟩
    · cases h
  · rintro ⟨files, pair, items⟩
    simp only [pairOf_arr.mpr pair, ← items]

/-- A row of this form gives its files only. -/
theorem usageRow_iff {name : String} {files : List Json} {u : String × List String} :
    UsageRow [.str name, .arr files] u ↔
      u = (name, files.map fun f => (Datum.ofJson f).display) := by
  constructor
  · rintro ⟨own, pair, items⟩
    obtain ⟨rfl, rfl⟩ : name = u.1 ∧ files = own := by
      simpa only [List.cons.injEq, Json.str.injEq, Json.arr.injEq, and_true] using pair
    rw [← items]
  · rintro rfl
    exact ⟨files, rfl, rfl⟩

/-- Rows give definitions exactly if each of them is a key with raw data accepted under this key. -/
theorem exists_definitionRows_iff {rows : List (List Json)} :
    (∃ ds, List.Forall₂ DefinitionRow rows ds) ↔
      ∀ row ∈ rows, ∃ key raw d, row = [.str key, raw] ∧ Definition.ofJson raw = .ok d ∧
        d.qualifiedKey = key := by
  rw [exists_forall₂_iff]
  refine forall₂_congr fun row _ => ?_
  constructor
  · rintro ⟨d, raw, pair, accepted⟩
    exact ⟨d.qualifiedKey, raw, d, pair, accepted, rfl⟩
  · rintro ⟨key, raw, d, pair, accepted, rfl⟩
    exact ⟨d, raw, pair, accepted⟩

/-- Rows give names with files exactly if each of them is a text with an array. -/
theorem exists_usageRows_iff {rows : List (List Json)} :
    (∃ us, List.Forall₂ UsageRow rows us) ↔
      ∀ row ∈ rows, ∃ name files, row = [.str name, .arr files] := by
  rw [exists_forall₂_iff]
  refine forall₂_congr fun row _ => ?_
  constructor
  · rintro ⟨u, files, pair, -⟩
    exact ⟨u.1, files, pair⟩
  · rintro ⟨name, files, pair⟩
    exact ⟨(name, _), files, pair, rfl⟩

/-- The references of some names, one call for each file. -/
def calls (us : List (String × List String)) : List UsageCall :=
  us.flatMap fun u => u.2.map (.add u.1)

theorem addFiles_eq (index : UsageIndex) (name : String) (files : List String) :
    addFiles index name files = (files.map (.add name)).foldl UsageIndex.call index := by
  rw [List.foldl_map]
  rfl

/-- The files of all rows go into the index in order, or none does. -/
theorem readUsages_rows {rows : List (List Json)} {index v : UsageIndex} :
    readUsages index (rows.map .arr) = .ok v ↔
      ∃ us, List.Forall₂ UsageRow rows us ∧ v = (calls us).foldl UsageIndex.call index := by
  induction rows generalizing index with
  | nil => simp [readUsages, calls, eq_comm]
  | cons row rows ih =>
    have joined (u : String × List String) (us : List (String × List String)) :
        (calls (u :: us)).foldl UsageIndex.call index =
          (calls us).foldl UsageIndex.call (addFiles index u.1 u.2) := by
      rw [addFiles_eq, ← List.foldl_append]
      rfl
    rw [List.map_cons, readUsages]
    constructor
    · intro h
      split at h
      · cases h
      · next name files read =>
        obtain ⟨us, all, rfl⟩ := ih.mp h
        exact ⟨(name, files) :: us, .cons (readUsage_arr.mp read) all, (joined (name, files) us).symm⟩
    · rintro ⟨us, all, rfl⟩
      obtain ⟨u, rest, first, more, rfl⟩ := List.forall₂_cons_left_iff.mp all
      simp only [readUsage_arr.mpr first]
      exact ih.mpr ⟨rest, more, joined u rest⟩

/-! ## Envelopes -/

section Members

variable {members : List (String × Json)} {rows references : Option (List (List Json))}

/-- **What an envelope gives**, when its definitions and usages are arrays of arrays. -/
theorem decode_eq_ok_iff (format : isVersion ((members.lookup "format").getD .null) = true)
    (definitions : members.lookup "definitions" = rows.map table)
    (usages : members.lookup "usages" = references.map table) {scan : CachedScan} :
    decode (.obj members) = .ok scan ↔
      ∃ ds us, List.Forall₂ DefinitionRow (rows.getD []) ds ∧
        List.Forall₂ UsageRow (references.getD []) us ∧
        scan = ⟨Store.ofList ds, references.map fun _ => UsageIndex.ofCalls (calls us),
          (members.lookup "cacheKey").getD .null⟩ := by
  have entries : itemsOf ((members.lookup "definitions").getD (.arr [])) =
      .ok ((rows.getD []).map .arr) := by
    rw [definitions]
    cases rows <;> rfl
  have indexed {found : Option UsageIndex} : decodeUsages (.obj members) = .ok found ↔
      ∃ us, List.Forall₂ UsageRow (references.getD []) us ∧
        found = references.map fun _ => UsageIndex.ofCalls (calls us) := by
    rw [decodeUsages, Json.member?, usages]
    cases references with
    | none => simp [eq_comm]
    | some rows =>
      simp only [Option.map_some, table, itemsOf, itemsOf?, Option.getD_some]
      cases read : readUsages .empty (rows.map .arr) with
      | error f =>
        simp only [Except.map, reduceCtorEq, false_iff]
        rintro ⟨us, all, -⟩
        cases read.symm.trans (readUsages_rows.mpr ⟨us, all, rfl⟩)
      | ok v =>
        obtain ⟨us, all, rfl⟩ := readUsages_rows.mp read
        simp only [Except.map, Except.ok.injEq]
        constructor
        · rintro rfl
          exact ⟨us, all, rfl⟩
        · rintro ⟨us', all', rfl⟩
          exact congrArg some (Except.ok.inj (read.symm.trans (readUsages_rows.mpr ⟨us', all', rfl⟩)))
  simp only [decode, Json.member?, format, Bool.not_true, Bool.false_eq_true, if_false, entries]
  constructor
  · intro h
    split at h
    · cases h
    · next store read =>
      obtain ⟨ds, all, rfl⟩ := readDefinitions_rows.mp read
      split at h
      · cases h
      · next found readUsages =>
        obtain ⟨us, allUsages, rfl⟩ := indexed.mp readUsages
        exact ⟨ds, us, all, allUsages, (Except.ok.inj h).symm⟩
  · rintro ⟨ds, us, all, allUsages, rfl⟩
    rw [readDefinitions_rows.mpr ⟨ds, all, rfl⟩]
    simp only [indexed.mpr ⟨us, allUsages, rfl⟩]
    rfl

end Members

/-- The calls of some usages add to a name the files of all its rows. -/
theorem filesFor_calls (us : List (String × List String)) (name : String) :
    (UsageIndex.ofCalls (calls us)).filesFor name =
      (us.filter fun u => u.1 = name).flatMap fun u => u.2 := by
  rw [UsageIndex.filesFor_ofCalls]
  induction us with
  | nil => rfl
  | cons u us ih =>
    have own : (u.2.map (UsageCall.add u.1)).flatMap (UsageCall.filesOf name) =
        if u.1 = name then u.2 else [] := by
      rw [List.flatMap_map]
      by_cases same : u.1 = name
      · simp [UsageCall.filesOf, same]
      · simp [UsageCall.filesOf, same]
    rw [calls, List.flatMap_cons, List.flatMap_append, own, ← calls, ih]
    by_cases same : u.1 = name
    · rw [if_pos same, List.filter_cons_of_pos (by simpa using same), List.flatMap_cons]
    · rw [if_neg same, List.filter_cons_of_neg (by simpa using same), List.nil_append]

end Envelope

/-- A scan that is made of some definitions and, if it has an index at all, of some names with files. -/
structure CachedScan.MadeOf (scan : CachedScan) (ds : List Definition)
    (us : List (String × List String)) : Prop where
  inserted : scan.definitions = Store.ofList ds
  /-- A repeated key keeps its first place. -/
  keys : scan.definitions.keys = (ds.map Definition.qualifiedKey).eraseDups
  /-- A repeated key has its last definition. -/
  last : ∀ key, scan.definitions.get? key = (ds.filter fun d => d.qualifiedKey = key).getLast?
  /-- A name has the files of all its entries, in order. -/
  files : ∀ index, scan.usages = some index → ∀ name,
    index.filesFor name = (us.filter fun u => u.1 = name).flatMap fun u => u.2
  /-- A name without files is not there. -/
  absent : ∀ index, scan.usages = some index → ∀ name,
    index.contains name = true ↔ index.filesFor name ≠ []

open Envelope in
/-- What is built from all rows is made of what they say. -/
theorem CachedScan.madeOf_rows (ds : List Definition) (us : List (String × List String))
    (references : Option (List (List Json))) (key : Json) :
    CachedScan.MadeOf
      ⟨Store.ofList ds, references.map fun _ => UsageIndex.ofCalls (calls us), key⟩ ds us := by
  have index {found : UsageIndex} (h : (references.map fun _ => UsageIndex.ofCalls (calls us)) =
      some found) : found = UsageIndex.ofCalls (calls us) := by
    cases references with
    | none => cases h
    | some rows => exact (Option.some.inj h).symm
  refine ⟨rfl, Store.keys_ofList ds, Store.get?_ofList ds, fun found h name => ?_,
    fun found h name => ?_⟩
  · rw [index h, filesFor_calls]
  · rw [index h]
    exact UsageIndex.contains_iff (UsageIndex.proper_ofCalls _) name

namespace LoadOutcome

/-- A value gives a scan if it decodes to one whose key is the expected one. -/
theorem scan?_ofValue_eq_some_iff {expected : Option String} {v : Json} {scan : CachedScan} :
    (ofValue expected v).scan? = some scan ↔
      Envelope.decode v = .ok scan ∧ ∀ key, expected = some key → scan.cacheKey = .str key := by
  unfold ofValue
  cases Envelope.decode v with
  | error f => simp [scan?]
  | ok found =>
    cases expected with
    | none => simp [scan?]
    | some key =>
      by_cases same : Envelope.isText found.cacheKey key = true
      · have own := Envelope.isText_iff.mp same
        simp only [same, if_true, scan?, Option.some.injEq, Except.ok.injEq]
        constructor
        · rintro rfl
          exact ⟨rfl, fun k h => h ▸ own⟩
        · exact And.left
      · simp only [same, if_false, scan?, reduceCtorEq, Except.ok.injEq, false_iff, not_and]
        rintro rfl h
        exact same (Envelope.isText_iff.mpr (h key rfl))

/-- A text that is read as a value in some room gives what the value gives, or nothing at all where there
is less room than that. -/
theorem ofText_of_parse {ample : Nat} (room : Json.Room) (expected : Option String) {text : String}
    {v : Json} (h : Json.parse ample (Text.unifyBreaks text) = .ok v) :
    (room.depth < ample ∧ ∃ message, ofText room expected text = .error (.nested message)) ∨
      ofText room expected text = .ok (ofValue expected v) := by
  have given (read : Json.parse room.depth (Text.unifyBreaks text) = .ok v) :
      ofText room expected text = .ok (ofValue expected v) := by rw [ofText, read]
  rcases Nat.lt_or_ge room.depth ample with little | enough
  · rcases Json.parse_of_le (Nat.le_of_lt little) h with read | ⟨message, deep⟩
    · exact .inr (given read)
    · exact .inl ⟨little, message, by rw [ofText, deep]⟩
  · exact .inr (given (Json.parse_mono enough h))

end LoadOutcome

open Envelope in
/-- **Loading is all or nothing.** The cache file holds an object of format 1 whose definitions and
usages, if they are there, are arrays of arrays. Where there is less room than reading the text takes,
loading may fail because the text is too deep. Otherwise loading gives a scan exactly if every row of a
definition is a key with raw data that is accepted under this key, every row of a name is a text with an
array, and the key is the expected one, if one is expected. The scan is then made of all rows, in
order. -/
theorem ScanCache.load_all_or_nothing (c : ScanCache) (room : Json.Room) (fs : FileSystem)
    (expected : Option String) {ample : Nat} {text : String} {members : List (String × Json)}
    {rows references : Option (List (List Json))}
    (read : fs.read c.cwd c.path = .ok text.toUTF8)
    (object : Json.parse ample (Text.unifyBreaks text) = .ok (.obj members))
    (format : isVersion ((members.lookup "format").getD .null) = true)
    (definitions : members.lookup "definitions" = rows.map table)
    (usages : members.lookup "usages" = references.map table) :
    (room.depth < ample ∧ ∃ message, c.load room fs expected = .error (.nested message)) ∨
    ∃ outcome, c.load room fs expected = .ok outcome ∧
      (outcome.scan?.isSome ↔
        (∀ row ∈ rows.getD [], ∃ key raw d, row = [.str key, raw] ∧ Definition.ofJson raw = .ok d ∧
          d.qualifiedKey = key) ∧
        (∀ row ∈ references.getD [], ∃ name files, row = [.str name, .arr files]) ∧
        ∀ key, expected = some key → members.lookup "cacheKey" = some (.str key)) ∧
      ∀ scan, outcome.scan? = some scan →
        scan.usages.isSome = references.isSome ∧
        ∃ ds us, List.Forall₂ DefinitionRow (rows.getD []) ds ∧
          List.Forall₂ UsageRow (references.getD []) us ∧ scan.MadeOf ds us := by
  have load : c.load room fs expected = LoadOutcome.ofText room expected text := by
    rw [ScanCache.load, read, LoadOutcome.ofRead, Text.decode_toUTF8]
  rw [load]
  refine (LoadOutcome.ofText_of_parse room expected object).imp_right fun outcome => ?_
  have loaded {scan : CachedScan} :
      (LoadOutcome.ofValue expected (.obj members)).scan? = some scan ↔
        decode (.obj members) = .ok scan ∧
          ∀ key, expected = some key → scan.cacheKey = .str key :=
    LoadOutcome.scan?_ofValue_eq_some_iff
  have decoded (scan : CachedScan) := @decode_eq_ok_iff members rows references format definitions
    usages scan
  have key {k : String} : (members.lookup "cacheKey").getD .null = .str k ↔
      members.lookup "cacheKey" = some (.str k) := by
    cases members.lookup "cacheKey" <;> simp
  refine ⟨_, outcome, ?_, ?_⟩
  · rw [Option.isSome_iff_exists, ← exists_definitionRows_iff, ← exists_usageRows_iff]
    constructor
    · rintro ⟨scan, h⟩
      obtain ⟨ds, us, allDs, allUs, rfl⟩ := (decoded _).mp (loaded.mp h).1
      exact ⟨⟨ds, allDs⟩, ⟨us, allUs⟩, fun k e => key.mp ((loaded.mp h).2 k e)⟩
    · rintro ⟨⟨ds, allDs⟩, ⟨us, allUs⟩, same⟩
      exact ⟨_, loaded.mpr ⟨(decoded _).mpr ⟨ds, us, allDs, allUs, rfl⟩, fun k e => key.mpr (same k e)⟩⟩
  · intro scan h
    obtain ⟨ds, us, allDs, allUs, rfl⟩ := (decoded _).mp (loaded.mp h).1
    refine ⟨Option.isSome_map, ds, us, allDs, allUs, CachedScan.madeOf_rows ds us references _⟩

/-! ## A file with repeated rows -/

def shopClass (name file : String) : Definition :=
  ⟨"Shop\\" ++ name, some "Shop", some name, file, none, false, none⟩

/-- The rows of three definitions, the last with the key of the first. -/
def shelfRows : List (List Json) :=
  [shopClass "Cart" "old.php", shopClass "Till" "till.php", shopClass "Cart" "new.php"].map fun d =>
    [.str d.qualifiedKey, d.toJson]

/-- Names with files that are not all texts, with no files, and once more. -/
def shelfUsages : List (List Json) :=
  [[.str "Cart", .arr [.str "a", .int 1, .null]], [.str "Till", .arr []],
    [.str "Cart", .arr [.str "b"]]]

/-- An object with these rows. -/
def shelfMembers : List (String × Json) :=
  [("format", .int 1), ("cacheKey", .str "k"), ("definitions", Envelope.table shelfRows),
    ("usages", Envelope.table shelfUsages)]

def filesWith (members : List (String × Json)) : FileSystem :=
  ⟨[(["c.json"], .file (Json.obj members).render.toUTF8)]⟩

/-- A cache file with this object. -/
def shelfFiles : FileSystem := filesWith shelfMembers

def shelfCache : ScanCache := ⟨[], ⟨"/", ["c.json"]⟩⟩

/-- Just the room that this object takes. -/
def shelfRoom : Json.Room := .least

theorem sound_shopClass {name file : String} (named : name ≠ "") : (shopClass name file).Sound :=
  ⟨by simp [shopClass], by simp [Definition.refusal, shopClass, named]⟩

theorem exact_shelfMembers : (Json.obj shelfMembers).Exact 4 := by
  have rows : (Envelope.table shelfRows).Exact 3 := by
    refine .arr fun v hv => ?_
    obtain ⟨row, hr, rfl⟩ := List.mem_map.mp hv
    obtain ⟨d, -, rfl⟩ := List.mem_map.mp hr
    exact .arr (by simp [Json.Exact.str, Envelope.exact_toJson])
  have usages : (Envelope.table shelfUsages).Exact 3 := by
    have one : (Json.int 1).Exact 0 := .int (by decide)
    refine .arr ?_
    simp only [shelfUsages, List.map_cons, List.map_nil, List.forall_mem_cons]
    refine ⟨.arr ?_, .arr ?_, .arr ?_, by simp⟩ <;> simp only [List.forall_mem_cons]
    · refine ⟨.str _, .arr ?_, by simp⟩
      simp only [List.forall_mem_cons]
      exact ⟨.str _, one, .null, by simp⟩
    · exact ⟨.str _, .arr (by simp), by simp⟩
    · exact ⟨.str _, .arr (by simp [Json.Exact.str]), by simp⟩
  refine .obj (by simp [shelfMembers]) ?_
  simp only [shelfMembers, List.forall_mem_cons]
  exact ⟨.int (by decide), .str _, rows, usages, by simp⟩

theorem read_filesWith (members : List (String × Json)) :
    (filesWith members).read shelfCache.cwd shelfCache.path =
      .ok (Json.obj members).render.toUTF8 := by
  have there : (filesWith members).resolve [] true ⟨"/", ["c.json"]⟩ =
      .ok (["c.json"], some (.file (Json.obj members).render.toUTF8)) :=
    FileSystem.resolveFrom_file _ true FileSystem.maxLinks [] (by decide) (by decide) [] rfl
  exact FileSystem.read_eq_ok_iff.2 ⟨by decide, _, there⟩

theorem parse_members {room : Nat} {members : List (String × Json)}
    (exact : (Json.obj members).Exact room) :
    Json.parse room (Text.unifyBreaks (Json.obj members).render) = .ok (.obj members) := by
  rw [Text.unifyBreaks_render exact, Json.parse_render exact]

/-- The definitions of the rows. -/
theorem forall₂_shelfRows {ds : List Definition} :
    List.Forall₂ Envelope.DefinitionRow shelfRows ds ↔
      ds = [shopClass "Cart" "old.php", shopClass "Till" "till.php", shopClass "Cart" "new.php"] := by
  have only (name file : String) (named : name ≠ "") {e : Definition} :=
    @Envelope.definitionRow_toJson_iff _ e (@sound_shopClass name file named)
  simp [shelfRows, List.forall₂_cons_left_iff, only]

/-- The names of the rows and their files. -/
theorem forall₂_shelfUsages {us : List (String × List String)} :
    List.Forall₂ Envelope.UsageRow shelfUsages us ↔
      us = [("Cart", ["a", "1", "None"]), ("Till", []), ("Cart", ["b"])] := by
  have display : [Json.str "a", .int 1, .null].map (fun f => (Datum.ofJson f).display) =
      ["a", "1", "None"] := by decide
  have plain : [Json.str "b"].map (fun f => (Datum.ofJson f).display) = ["b"] := rfl
  simp only [shelfUsages, List.forall₂_cons_left_iff, List.forall₂_nil_left_iff, Envelope.usageRow_iff,
    display, plain, List.map_nil, exists_and_left, exists_eq_left]

/-- The repeated class keeps its first place and has its last file; the files of the repeated name are
joined; under another key there is nothing. -/
theorem load_shelfFiles :
    ∃ scan index outcome,
      shelfCache.load shelfRoom shelfFiles (some "k") = .ok (.loaded scan) ∧
      scan.definitions.keys = ["Shop\\Cart", "Shop\\Till"] ∧
      scan.definitions.get? "Shop\\Cart" = some (shopClass "Cart" "new.php") ∧
      scan.usages = some index ∧ index.filesFor "Cart" = ["a", "1", "None", "b"] ∧
      index.contains "Till" = false ∧
      shelfCache.load shelfRoom shelfFiles (some "l") = .ok outcome ∧
      outcome.scan? = none := by
  have definitions : shelfMembers.lookup "definitions" = (some shelfRows).map Envelope.table := rfl
  have usages : shelfMembers.lookup "usages" = (some shelfUsages).map Envelope.table := rfl
  have load (expected : Option String) :=
    (ScanCache.load_all_or_nothing shelfCache shelfRoom shelfFiles expected
      (read_filesWith shelfMembers) (parse_members exact_shelfMembers) rfl definitions usages).resolve_left
      fun little => Nat.lt_irrefl 4 little.1
  obtain ⟨outcome, loaded, accepts, made⟩ := load (some "k")
  obtain ⟨other, loadedOther, acceptsOther, -⟩ := load (some "l")
  have rows := Envelope.exists_definitionRows_iff.mp ⟨_, forall₂_shelfRows.mpr rfl⟩
  have names := Envelope.exists_usageRows_iff.mp ⟨_, forall₂_shelfUsages.mpr rfl⟩
  have scanned : outcome.scan?.isSome := by
    refine accepts.mpr ⟨rows, names, fun key expected => ?_⟩
    obtain rfl := Option.some.inj expected
    rfl
  obtain ⟨scan, hs⟩ := Option.isSome_iff_exists.mp scanned
  obtain ⟨indexed, ds, us, allDs, allUs, whole⟩ := made scan hs
  obtain ⟨index, hi⟩ := Option.isSome_iff_exists.mp indexed
  obtain rfl := forall₂_shelfRows.mp allDs
  obtain rfl := forall₂_shelfUsages.mp allUs
  refine ⟨scan, index, other, ?_, ?_, ?_, hi, ?_, ?_, loadedOther, ?_⟩
  · cases outcome with
    | loaded found => exact Option.some.inj hs ▸ loaded
    | _ => cases hs
  · exact whole.keys.trans (by decide)
  · exact (whole.last _).trans (by decide)
  · exact (whole.files index hi _).trans rfl
  · rw [Bool.eq_false_iff, ne_eq, whole.absent index hi, whole.files index hi]
    simp
  · rw [← Option.not_isSome_iff_eq_none, acceptsOther]
    rintro ⟨-, -, same⟩
    have found : some (Json.str "k") = some (.str "l") := same "l" rfl
    simp at found

/-! ## A file that is too deep -/

def nestedArrays : Nat → Json
  | 0 => .null
  | depth + 1 => .arr [nestedArrays depth]

theorem exact_nestedArrays (depth : Nat) : (nestedArrays depth).Exact depth := by
  induction depth with
  | zero => exact .null
  | succ depth ih => exact .arr (by simpa using ih)

theorem le_of_within_nestedArrays {depth room : Nat} (h : (nestedArrays depth).Within room) :
    depth ≤ room := by
  induction depth generalizing room with
  | zero => omega
  | succ depth ih =>
    cases h with
    | arr inner =>
      have := ih (inner _ List.mem_cons_self)
      omega

/-- A scan without definitions, and a member that nobody reads. -/
def pitMembers (depth : Nat) : List (String × Json) :=
  [("format", .int 1), ("note", nestedArrays depth)]

theorem not_within_pitMembers (room : Nat) : ¬ (Json.obj (pitMembers room)).Within room := by
  intro h
  cases h with
  | @obj room _ inner =>
    have : room + 1 ≤ room :=
      le_of_within_nestedArrays (inner ("note", nestedArrays (room + 1)) (by simp [pitMembers]))
    omega

theorem exact_pitMembers (depth : Nat) : (Json.obj (pitMembers depth)).Exact (depth + 1) := by
  refine .obj (by simp [pitMembers]) ?_
  simp only [pitMembers, List.forall_mem_cons]
  exact ⟨.int (by decide), exact_nestedArrays depth, by simp⟩

/-- In little room such a member is too deep, though nobody reads it. -/
theorem deep_pitMembers (room : Nat) : ∃ message,
    Json.parse room (Text.unifyBreaks (Json.obj (pitMembers room)).render) =
      .error (.nested message) := by
  have object := parse_members (exact_pitMembers room)
  exact (Json.parse_of_le (Nat.le_succ room) object).resolve_left
    fun read => not_within_pitMembers room (Json.within_of_parse read)

/-- Whatever room there is, such a member can be deep enough to make loading fail. In a little more room
the same file gives a scan. -/
theorem load_pitMembers (room : Json.Room) :
    (∃ message, shelfCache.load room (filesWith (pitMembers room.depth)) none =
      .error (.nested message)) ∧
    ∃ scan, shelfCache.load ⟨room.depth + 1, Nat.le_succ_of_le room.ample⟩
      (filesWith (pitMembers room.depth)) none = .ok (.loaded scan) := by
  have load (room' : Json.Room) :
      shelfCache.load room' (filesWith (pitMembers room.depth)) none =
        LoadOutcome.ofText room' none (Json.obj (pitMembers room.depth)).render := by
    rw [ScanCache.load, read_filesWith, LoadOutcome.ofRead, Text.decode_toUTF8]
  constructor
  · obtain ⟨message, deep⟩ := deep_pitMembers room.depth
    exact ⟨message, by rw [load, LoadOutcome.ofText, deep]⟩
  · rw [load, LoadOutcome.ofText, parse_members (exact_pitMembers room.depth)]
    exact ⟨_, rfl⟩

/-- A cache file with four arrays in one another, in the room that an envelope takes and in more. -/
theorem load_pitFiles :
    (∃ message, shelfCache.load shelfRoom (filesWith (pitMembers 4)) none =
      .error (.nested message)) ∧
    ∃ scan, shelfCache.load ⟨5, by decide⟩ (filesWith (pitMembers 4)) none = .ok (.loaded scan) :=
  load_pitMembers shelfRoom

end DomainAtlas
