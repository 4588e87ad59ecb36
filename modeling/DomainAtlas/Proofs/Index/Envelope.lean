import DomainAtlas.Proofs.Index.Definition
import DomainAtlas.Proofs.Index.Saving
import DomainAtlas.Proofs.Index.Store
import DomainAtlas.Proofs.Json.Room

/-!
# Cached scans come back

Reading the envelope of a scan rebuilds both stores, entry by entry and in the same order: every
definition passes its own checks again and goes to the end of the store, and the files of a name are
added one after the other.

Results:
* `Envelope.decode_encode`: an envelope gives the stores and the key it was made of.
* `LoadOutcome.ofRead_payload`: the bytes of a saved scan give the scan under its own key, and nothing
  under any other.
* `LoadOutcome.ofRead_ofList`: so does any store of accepted definitions with any usage index, and it is
  saved again as the same bytes.
-/
namespace DomainAtlas

/-- A store that can be kept: no key twice, each definition at its own key and unchanged by the
checks. -/
structure Store.Kept (s : Store) : Prop where
  proper : s.Proper
  sound : ∀ d ∈ s.definitions, d.Sound

theorem Store.kept_ofList {ds : List Definition} (h : ∀ d ∈ ds, d.Sound) : (Store.ofList ds).Kept :=
  ⟨Store.proper_ofList ds, fun d hd => h d (Store.mem_of_mem_definitions_ofList hd)⟩

namespace Envelope

/-! ## Definitions -/

theorem readDefinition_definitionEntry {d : Definition} (h : d.Sound) :
    readDefinition (definitionEntry (d.qualifiedKey, d)) = .ok d := by
  simp [readDefinition, definitionEntry, pairOf, itemsOf?, Definition.ofJson_toJson h, isText]

theorem readDefinitions_entries {es : List (String × Definition)} (store : Store)
    (own : ∀ e ∈ es, e.1 = e.2.qualifiedKey) (sound : ∀ e ∈ es, e.2.Sound) :
    readDefinitions store (es.map definitionEntry) =
      .ok ((es.map Prod.snd).foldl Store.insert store) := by
  induction es generalizing store with
  | nil => rfl
  | cons e es ih =>
    obtain ⟨k, d⟩ := e
    obtain rfl : k = d.qualifiedKey := own _ List.mem_cons_self
    rw [List.map_cons, readDefinitions, readDefinition_definitionEntry (sound _ List.mem_cons_self)]
    exact ih _ (fun e he => own e (List.mem_cons_of_mem _ he))
      fun e he => sound e (List.mem_cons_of_mem _ he)

theorem readDefinitions_items {store : Store} (h : store.Kept) :
    readDefinitions .empty (store.items.map definitionEntry) = .ok store := by
  rw [readDefinitions_entries .empty h.proper.own
    fun e he => h.sound _ (List.mem_map_of_mem he)]
  exact congrArg Except.ok (Store.ofList_definitions h.proper)

/-! ## Usages -/

theorem readUsage_usageEntry (e : String × List String) : readUsage (usageEntry e) = .ok e := by
  obtain ⟨name, files⟩ := e
  have display : (files.map Json.str).map (fun f => (Datum.ofJson f).display) = files := by
    rw [List.map_map]
    exact List.map_id' files
  simp only [readUsage, usageEntry, pairOf, itemsOf?, Json.texts, display]

/-- More files of the name that stands last go to its end. -/
theorem addFiles_append_singleton {es : List (String × List String)} {name : String}
    (hn : name ∉ es.map Prod.fst) (before files : List String) :
    addFiles ⟨es ++ [(name, before)]⟩ name files = ⟨es ++ [(name, before ++ files)]⟩ := by
  induction files generalizing before with
  | nil => simp [addFiles]
  | cons f files ih =>
    have hl : (es ++ [(name, before)]).lookup name = some before := by
      rw [← putEntry_of_notMem before hn, lookup_putEntry, if_pos rfl]
    have step : UsageIndex.add ⟨es ++ [(name, before)]⟩ name f =
        ⟨es ++ [(name, before ++ [f])]⟩ := by
      simp only [UsageIndex.add, UsageIndex.filesFor, hl, Option.getD_some]
      rw [putEntry_append_singleton _ _ hn]
    show addFiles (UsageIndex.add _ name f) name files = _
    rw [step, ih, List.append_assoc, List.singleton_append]

/-- The files of a new name become an entry at the end. -/
theorem addFiles_of_notMem {u : UsageIndex} {name : String} {files : List String}
    (hn : name ∉ u.items.map Prod.fst) (hf : files ≠ []) :
    addFiles u name files = ⟨u.items ++ [(name, files)]⟩ := by
  obtain ⟨f, files, rfl⟩ := List.exists_cons_of_ne_nil hf
  have first : u.add name f = ⟨u.items ++ [(name, [f])]⟩ := by
    have hl : u.filesFor name = [] := by
      unfold UsageIndex.filesFor
      rw [List.lookup_eq_none_iff.2 fun e he => ?_]
      · rfl
      · simpa using fun h : name = e.1 => hn (h ▸ List.mem_map_of_mem he)
    rw [UsageIndex.add, hl, putEntry_of_notMem _ hn, List.nil_append]
  show addFiles (u.add name f) name files = _
  rw [first, addFiles_append_singleton hn]
  rfl

theorem readUsages_entries (u : UsageIndex) {es : List (String × List String)}
    (nodup : ((u.items ++ es).map Prod.fst).Nodup) (filled : ∀ e ∈ es, e.2 ≠ []) :
    readUsages u (es.map usageEntry) = .ok ⟨u.items ++ es⟩ := by
  induction es generalizing u with
  | nil => simp [readUsages]
  | cons e es ih =>
    have hn : e.1 ∉ u.items.map Prod.fst := by
      rw [List.map_append, List.map_cons] at nodup
      intro hm
      exact (List.nodup_append.1 nodup).2.2 _ hm _ List.mem_cons_self rfl
    rw [List.map_cons, readUsages, readUsage_usageEntry]
    simp only
    rw [addFiles_of_notMem hn (filled e List.mem_cons_self), ih _ (by simpa using nodup)
      fun x hx => filled x (List.mem_cons_of_mem _ hx)]
    simp

theorem readUsages_items {u : UsageIndex} (h : u.Proper) :
    readUsages .empty (u.items.map usageEntry) = .ok u := by
  have nodup : ((UsageIndex.empty.items ++ u.items).map Prod.fst).Nodup := by
    simpa [UsageIndex.empty] using h.nodup
  have := readUsages_entries .empty nodup h.filled
  simpa [UsageIndex.empty] using this

/-! ## Envelopes -/

/-- **Decoding an encoded scan.** -/
theorem decode_encode {store : Store} {usages : Option UsageIndex} (hs : store.Kept)
    (hu : ∀ u, usages = some u → u.Proper) (key : String) :
    decode (encode store usages key) = .ok ⟨store, usages, .str key⟩ := by
  have definitions := readDefinitions_items hs
  have current : isVersion (.int version) = true := rfl
  cases usages with
  | none =>
    simp [encode, decode, decodeUsages, Json.member?, List.lookup_cons, current, itemsOf,
      itemsOf?, definitions]
  | some u =>
    have usages := readUsages_items (hu u rfl)
    simp [encode, decode, decodeUsages, Json.member?, List.lookup_cons, current, itemsOf,
      itemsOf?, definitions, usages, Except.map]

/-! ## Texts of envelopes -/

theorem exact_optStr {room : Nat} (o : Option String) : (Json.optStr o).Exact room := by
  cases o with
  | none => exact .null
  | some s => exact .str s

theorem exact_toJson {room : Nat} (d : Definition) : d.toJson.Exact (room + 1) := by
  refine .obj (by simp) ?_
  simp only [List.forall_mem_cons]
  refine ⟨.str _, exact_optStr _, exact_optStr _, .str _, exact_optStr _, .bool _, ?_, by simp⟩
  cases d.isFinal with
  | none => exact .null
  | some b => exact .bool b

theorem exact_usageEntry {room : Nat} (e : String × List String) :
    (usageEntry e).Exact (room + 2) := by
  refine .arr ?_
  simp only [List.forall_mem_cons]
  refine ⟨.str _, .arr fun v hv => ?_, by simp⟩
  obtain ⟨s, -, rfl⟩ := List.mem_map.1 hv
  exact .str s

/-- An envelope is four deep: an object with arrays of entries, which hold an object or another array. -/
theorem exact_encode (store : Store) (usages : Option UsageIndex) (key : String) :
    (encode store usages key).Exact 4 := by
  have version : (Json.int version).Exact 3 := .int (by decide)
  have definitions : (Json.arr (store.items.map definitionEntry)).Exact 3 := by
    refine .arr fun v hv => ?_
    obtain ⟨e, -, rfl⟩ := List.mem_map.1 hv
    refine .arr ?_
    simp only [List.forall_mem_cons]
    exact ⟨.str _, exact_toJson _, by simp⟩
  cases usages with
  | none =>
    refine .obj (by simp) ?_
    simp only [List.append_nil, List.forall_mem_cons]
    exact ⟨version, .str _, definitions, by simp⟩
  | some u =>
    refine .obj (by simp) ?_
    simp only [List.cons_append, List.nil_append, List.forall_mem_cons]
    refine ⟨version, .str _, definitions, .arr fun v hv => ?_, by simp⟩
    obtain ⟨e, -, rfl⟩ := List.mem_map.1 hv
    exact exact_usageEntry e

/-- There is always room to read an envelope. -/
theorem parse_text (room : Json.Room) (store : Store) (usages : Option UsageIndex) (key : String) :
    Json.parse room.depth (text store usages key) = .ok (encode store usages key) :=
  Json.parse_render ((exact_encode store usages key).mono room.ample)

end Envelope

namespace LoadOutcome

/-- **Loading what was saved.** The bytes of a saved scan give the scan when its own key is asked for,
and are stale for every other key. -/
theorem ofRead_payload {store : Store} {usages : Option UsageIndex} (hs : store.Kept)
    (hu : ∀ u, usages = some u → u.Proper) (room : Json.Room) (expected key : String) :
    ofRead room (some expected) (.ok (Envelope.text store usages key).toUTF8) =
      .ok (if key = expected then .loaded ⟨store, usages, .str key⟩
        else .stale expected (.str key)) := by
  have unified : Text.unifyBreaks (Envelope.text store usages key) = Envelope.text store usages key :=
    Text.unifyBreaks_render (Envelope.exact_encode store usages key)
  simp only [ofRead, Text.decode_toUTF8, ofText, unified, Envelope.parse_text, ofValue,
    Envelope.decode_encode hs hu, Envelope.isText, beq_iff_eq]

/-- **A saved scan comes back.** For every store built by inserting accepted definitions, every usage
index built by calls, or none, and every key: loading what `save` writes gives the same entries in the
same order under the same key, and saving that again writes the same bytes. -/
theorem ofRead_ofList (ds : List Definition) (calls : Option (List UsageCall)) (key : String)
    (c : ScanCache) (room : Json.Room) (token again : String)
    (accepted : ∀ d ∈ ds, ∃ raw, Definition.ofJson raw = .ok d) :
    ∃ scan : CachedScan,
      ofRead room (some key) (.ok (c.saving token (Store.ofList ds) (calls.map UsageIndex.ofCalls)
        key).payload) = .ok (.loaded scan) ∧
      scan.definitions.items = (Store.ofList ds).items ∧
      scan.usages.map UsageIndex.items = calls.map (fun cs => (UsageIndex.ofCalls cs).items) ∧
      scan.cacheKey = .str key ∧
      (c.saving again scan.definitions scan.usages key).payload =
        (c.saving token (Store.ofList ds) (calls.map UsageIndex.ofCalls) key).payload := by
  have kept : (Store.ofList ds).Kept := by
    refine Store.kept_ofList fun d hd => ?_
    obtain ⟨raw, hraw⟩ := accepted d hd
    exact Definition.sound_of_ofJson hraw
  have proper : ∀ u, calls.map UsageIndex.ofCalls = some u → u.Proper := by
    intro u hu
    obtain ⟨cs, -, rfl⟩ := Option.map_eq_some_iff.1 hu
    exact UsageIndex.proper_ofCalls cs
  have loaded := ofRead_payload kept proper room key key
  rw [if_pos rfl] at loaded
  refine ⟨⟨Store.ofList ds, calls.map UsageIndex.ofCalls, .str key⟩, ?_, rfl, ?_, rfl, ?_⟩
  · rw [ScanCache.saving_payload, loaded]
  · cases calls <;> rfl
  · rw [ScanCache.saving_payload, ScanCache.saving_payload]

/-- A class as raw JSON, with names in the other spelling, a blank domain and a further member. -/
def rawClass : Json := .obj [("qualified_key", .str "Shop\\Cart"), ("namespace", .str "Shop"),
  ("class_name", .str "Cart"), ("file_name", .str "cart \"😀\".php"), ("domain", .str " \n"),
  ("is_final", .str "yes"), ("note", .float .nan)]

def classRead : Definition :=
  ⟨"Shop\\Cart", some "Shop", some "Cart", "cart \"😀\".php", none, false, some true⟩

theorem ofJson_rawClass : Definition.ofJson rawClass = .ok classRead := by
  have blank : Text.isBlank ' ' = true ∧ Text.isBlank '\n' = true := by decide +kernel
  have yes : Schema.bool (.text "yes") = .ok true := rfl
  unfold Definition.ofJson Definition.read rawClass
  simp only [Datum.ofJson, Schema.entries, Definition.required, Definition.withDefault,
    Definition.either, Datum.entry?_ofJsonMembers, List.lookup_cons]
  simp [Definition.readDomain, blank, Check.under, Schema.text, yes, Datum.ofJson, Except.map,
    Schema.optional, Check.ap, Check.ensure, Definition.refusal, classRead]

theorem ofRead_ofList_rawClass :
    (∀ d ∈ [classRead], ∃ raw, Definition.ofJson raw = .ok d) ∧
    ∃ scan : CachedScan,
      ofRead ⟨4, by decide⟩ (some "k") (.ok ((ScanCache.mk [] (Path.parse "c.json")).saving "t"
        (Store.ofList [classRead]) (some (UsageIndex.ofCalls [.add "Shop" "a", .add "Shop" "a"]))
        "k").payload) = .ok (.loaded scan) ∧
      scan.definitions.items = (Store.ofList [classRead]).items ∧
      scan.usages.map UsageIndex.items = some [("Shop", ["a", "a"])] := by
  have accepted : ∀ d ∈ [classRead], ∃ raw, Definition.ofJson raw = .ok d := by
    intro d hd
    obtain rfl := List.mem_singleton.1 hd
    exact ⟨rawClass, ofJson_rawClass⟩
  obtain ⟨scan, loaded, items, usages, -, -⟩ := ofRead_ofList [classRead]
    (some [.add "Shop" "a", .add "Shop" "a"]) "k" ⟨[], Path.parse "c.json"⟩ ⟨4, by decide⟩ "t" "u" accepted
  exact ⟨accepted, scan, loaded, items, usages⟩

end LoadOutcome

end DomainAtlas
