import DomainAtlas.Proofs.Config.Merge

/-!
# Merged settings along a path

A path is a list of keys that leads through nested mappings (`Datum.at?`). `Pathwise` says what a merged
mapping holds at the end of every path, in which order its keys stand, and that merging with nothing and
merging twice make no difference.

Merging goes below a key only where both sides have a mapping there. So everything follows from what a
merged mapping says about one key (`find?_overlayEntries`) by induction on the path (`at?_overlay`), as
long as the upper side does not leave the mappings on the way; where it does, its value hides whatever
the lower side has (`at?_overlay_of_leaf`).

All of it asks of the upper side what is so for every mapping that was built entry by entry: no key
twice, in any of the mappings inside (`Datum.Unambiguous`). The lower side may be anything.

Results:
* `find?_overlayEntries`, `keys_overlayEntries`: a merged mapping key by key, and its order.
* `overlay_overlay`: merging the same once more changes nothing.
* `overlayEntries_pathwise`: the law of merging.
-/
namespace DomainAtlas

namespace Datum

/-- Whether a value is a mapping. -/
def isMap : Datum → Bool
  | .map _ => true
  | _ => false

/-- The value at the end of a path of keys. -/
def at? : Datum → List Datum → Option Datum
  | d, [] => some d
  | .map es, k :: way => (find? k es).bind fun v => v.at? way
  | _, _ :: _ => none

/-- In every mapping inside a value, at whatever depth, no two entries have the same key, and every key
is the same as itself, as whatever can be a key is. -/
inductive Unambiguous : Datum → Prop
  | leaf {d : Datum} (h : d.isMap = false) : Unambiguous d
  | map {es : List (Datum × Datum)} (apart : Apart es)
      (self : ∀ e ∈ es, sameKey e.1 e.1 = true) (inner : ∀ e ∈ es, Unambiguous e.2) :
      Unambiguous (.map es)

theorem Unambiguous.apart {es : List (Datum × Datum)} (h : Unambiguous (.map es)) : Apart es := by
  cases h with
  | leaf h => cases h
  | map apart => exact apart

theorem Unambiguous.inner {es : List (Datum × Datum)} (h : Unambiguous (.map es)) :
    ∀ e ∈ es, Unambiguous e.2 := by
  cases h with
  | leaf h => cases h
  | map _ _ inner => exact inner

theorem isMap_iff {d : Datum} : d.isMap = true ↔ ∃ es, d = .map es := by
  cases d <;> simp [isMap]

theorem mem_of_find? {k v : Datum} {es : List (Datum × Datum)} (h : find? k es = some v) :
    ∃ k', (k', v) ∈ es := by
  induction es with
  | nil => cases h
  | cons e es ih =>
    obtain ⟨k', v'⟩ := e
    rw [find?_cons] at h
    split at h
    · exact ⟨k', by simp [Option.some.inj h]⟩
    · obtain ⟨k'', mem⟩ := ih h
      exact ⟨k'', List.mem_cons_of_mem _ mem⟩

theorem Unambiguous.of_find? {k v : Datum} {es : List (Datum × Datum)}
    (h : Unambiguous (.map es)) (found : find? k es = some v) : Unambiguous v := by
  obtain ⟨k', mem⟩ := mem_of_find? found
  exact h.inner _ mem

/-! ## Paths -/

@[simp] theorem at?_nil (d : Datum) : d.at? [] = some d := by
  cases d <;> rfl

theorem at?_map (es : List (Datum × Datum)) (k : Datum) (way : List Datum) :
    (map es).at? (k :: way) = (find? k es).bind fun v => v.at? way := rfl

theorem Unambiguous.of_at? {d v : Datum} {way : List Datum} (h : Unambiguous d)
    (there : d.at? way = some v) : Unambiguous v := by
  induction way generalizing d with
  | nil =>
    obtain rfl : d = v := Option.some.inj ((at?_nil d).symm.trans there)
    exact h
  | cons k way ih =>
    cases mapping : d.isMap with
    | true =>
      obtain ⟨es, rfl⟩ := isMap_iff.1 mapping
      obtain ⟨w, found, there⟩ := Option.bind_eq_some_iff.1 there
      exact ih (h.of_find? found) there
    | false => cases d <;> first | cases there | cases mapping

/-- Below a value that is no mapping there is nothing. -/
theorem at?_of_leaf {d : Datum} (h : d.isMap = false) (k : Datum) (way : List Datum) :
    d.at? (k :: way) = none := by
  cases d <;> first | rfl | cases h

theorem at?_append (d : Datum) (front back : List Datum) :
    d.at? (front ++ back) = (d.at? front).bind fun v => v.at? back := by
  induction front generalizing d with
  | nil => simp
  | cons k front ih =>
    cases map : d.isMap with
    | true =>
      obtain ⟨es, rfl⟩ := isMap_iff.1 map
      rw [List.cons_append, at?_map, at?_map, Option.bind_assoc]
      exact congrArg _ (funext ih)
    | false => rw [List.cons_append, at?_of_leaf map, at?_of_leaf map]; rfl

/-- A path that goes on behind a value that is no mapping leads nowhere. -/
theorem at?_behind_leaf {d v : Datum} {front way : List Datum} (h : d.at? front = some v)
    (leaf : v.isMap = false) (before : front <+: way) :
    way = front ∧ d.at? way = some v ∨ way ≠ front ∧ d.at? way = none := by
  obtain ⟨back, rfl⟩ := before
  rw [at?_append, h, Option.bind_some]
  cases back with
  | nil => exact .inl ⟨List.append_nil front, at?_nil v⟩
  | cons k back => exact .inr ⟨by simp, at?_of_leaf leaf k back⟩

/-- A value stays within the mappings along a path: it has a mapping at every place on the way and at
the end, or nothing. -/
def Descends (d : Datum) (way : List Datum) : Prop :=
  ∀ front v, front <+: way → d.at? front = some v → v.isMap = true

theorem Descends.isMap {d : Datum} {way : List Datum} (h : Descends d way) : d.isMap = true :=
  h [] d List.nil_prefix (at?_nil d)

theorem Descends.tail {es : List (Datum × Datum)} {k v : Datum} {way : List Datum}
    (h : Descends (.map es) (k :: way)) (found : find? k es = some v) : Descends v way := by
  intro front w before there
  refine h (k :: front) w (List.cons_prefix_cons.2 ⟨rfl, before⟩) ?_
  rw [at?_map, found]
  exact there

end Datum

open Datum

/-! ## Merged mappings key by key -/

section Entries

variable {lower upper : List (Datum × Datum)}

/-- What a merged mapping says about a key. -/
theorem find?_overlayEntries (apart : Apart upper) (k : Datum) (lower : List (Datum × Datum)) :
    find? k (overlayEntries lower upper) = overlaid (find? k lower) (find? k upper) := by
  induction upper generalizing lower with
  | nil => rw [overlayEntries]; cases find? k lower <;> rfl
  | cons e rest ih =>
    obtain ⟨k₀, v⟩ := e
    obtain ⟨first, apart⟩ := List.pairwise_cons.1 apart
    rw [overlayEntries, ih apart, find?_setEntry, find?_cons]
    split
    · next same =>
      have gone : find? k rest = none := find?_eq_none fun e he => by
        rw [sameKey_comm, ← sameKey_congr same]
        exact first e he
      rw [gone, find?_congr same]
      cases find? k lower <;> rfl
    · rfl

/-- The keys of the lower side come first, in their order, then the new ones in theirs. -/
theorem keys_overlayEntries (apart : Apart upper) (lower : List (Datum × Datum)) :
    (overlayEntries lower upper).map Prod.fst =
      lower.map Prod.fst ++ (upper.filter fun e => (find? e.1 lower).isNone).map Prod.fst := by
  induction upper generalizing lower with
  | nil => rw [overlayEntries, List.filter_nil, List.map_nil, List.append_nil]
  | cons e rest ih =>
    obtain ⟨k, v⟩ := e
    obtain ⟨first, apart⟩ := List.pairwise_cons.1 apart
    -- The entry just set is under none of the keys that follow.
    have others (w : Datum) : rest.filter (fun e => (find? e.1 (setEntry k w lower)).isNone) =
        rest.filter fun e => (find? e.1 lower).isNone :=
      List.filter_congr fun e he => by rw [find?_setEntry, first e he, if_neg Bool.false_ne_true]
    rw [overlayEntries, ih apart, others, keys_setEntry, List.append_assoc, List.filter_cons]
    cases find? k lower <;> rfl

/-- Entries with new keys are appended. -/
theorem overlayEntries_of_new (apart : Apart upper) (new : ∀ e ∈ upper, find? e.1 lower = none) :
    overlayEntries lower upper = lower ++ upper := by
  induction upper generalizing lower with
  | nil => rw [overlayEntries, List.append_nil]
  | cons e rest ih =>
    obtain ⟨k, v⟩ := e
    obtain ⟨first, apart⟩ := List.pairwise_cons.1 apart
    have absent := new _ List.mem_cons_self
    have later : ∀ e ∈ rest, find? e.1 (setEntry k v lower) = none := fun e he => by
      rw [find?_setEntry, first e he, if_neg Bool.false_ne_true]
      exact new e (List.mem_cons_of_mem _ he)
    rw [overlayEntries, absent]
    show overlayEntries (setEntry k v lower) rest = _
    rw [ih apart later, setEntry_of_find?_none absent, List.append_assoc, List.singleton_append]

theorem overlayEntries_nil (lower : List (Datum × Datum)) : overlayEntries lower [] = lower := by
  rw [overlayEntries]

theorem nil_overlayEntries (apart : Apart upper) : overlayEntries [] upper = upper :=
  overlayEntries_of_new apart fun _ _ => rfl

/-- Nothing changes where every entry laid over is there already. -/
theorem overlayEntries_of_there
    (there : ∀ e ∈ upper, ∃ old, find? e.1 lower = some old ∧ overlay old e.2 = old) :
    overlayEntries lower upper = lower := by
  induction upper with
  | nil => rw [overlayEntries]
  | cons e rest ih =>
    obtain ⟨k, v⟩ := e
    obtain ⟨old, found, same⟩ := there _ List.mem_cons_self
    rw [overlayEntries, found]
    show overlayEntries (setEntry k (overlay old v) lower) rest = _
    rw [same, setEntry_of_find? found, ih fun e he => there e (List.mem_cons_of_mem _ he)]

end Entries

/-! ## Merging once more -/

theorem overlay_of_leaf {d : Datum} (h : d.isMap = false) (lower : Datum) : overlay lower d = d := by
  cases d <;> first | rfl | cases h

theorem overlay_map (lower upper : List (Datum × Datum)) :
    overlay (.map lower) (.map upper) = .map (overlayEntries lower upper) := rfl

/-- A mapping over anything else hides it. -/
theorem leaf_overlay {lower : Datum} (h : lower.isMap = false) (d : Datum) : overlay lower d = d := by
  cases d <;> first | rfl | (cases lower <;> first | rfl | cases h)

/-- Merging the same a second time changes nothing. -/
theorem overlay_overlay {d : Datum} (h : d.Unambiguous) (lower : Datum) :
    overlay (overlay lower d) d = overlay lower d := by
  induction h generalizing lower with
  | leaf leaf => rw [overlay_of_leaf leaf, overlay_of_leaf leaf]
  | @map es apart self _ ih =>
    -- Over nothing at all a value is itself, so it stays the same over itself.
    have alone (e : Datum × Datum) (he : e ∈ es) : overlay e.2 e.2 = e.2 := by
      have twice := ih e he .null
      rwa [leaf_overlay (rfl : Datum.null.isMap = false)] at twice
    have entries (ls : List (Datum × Datum)) :
        overlayEntries (overlayEntries ls es) es = overlayEntries ls es := by
      refine overlayEntries_of_there fun e he => ?_
      rw [find?_overlayEntries apart, apart.find?_of_mem he (self e he)]
      cases find? e.1 ls with
      | none => exact ⟨e.2, rfl, alone e he⟩
      | some old => exact ⟨overlay old e.2, rfl, ih e he old⟩
    cases lowerMap : lower.isMap with
    | true =>
      obtain ⟨ls, rfl⟩ := isMap_iff.1 lowerMap
      rw [overlay_map, overlay_map, entries]
    | false =>
      have whole := entries []
      rw [nil_overlayEntries apart] at whole
      rw [leaf_overlay lowerMap, overlay_map, whole]

/-! ## Merged values along a path -/

/-- As long as the upper side stays within its mappings, what stands at the end of a path is what the
two sides say there together. -/
theorem at?_overlay {way : List Datum} {upper : Datum} (h : upper.Unambiguous)
    (descends : upper.Descends way) (lower : Datum) (mapping : lower.isMap = true) :
    (overlay lower upper).at? way = overlaid (lower.at? way) (upper.at? way) := by
  induction way generalizing lower upper with
  | nil => rw [at?_nil, at?_nil, at?_nil]; rfl
  | cons k way ih =>
    obtain ⟨ls, rfl⟩ := isMap_iff.1 mapping
    obtain ⟨us, rfl⟩ := isMap_iff.1 descends.isMap
    rw [overlay_map, at?_map, at?_map, at?_map, find?_overlayEntries h.apart]
    cases hu : find? k us with
    | none => cases find? k ls <;> simp [overlaid]
    | some v =>
      have inner := h.of_find? hu
      have below := descends.tail hu
      cases hl : find? k ls with
      | none => cases hv : v.at? way <;> simp [overlaid, hv]
      | some old =>
        show (overlay old v).at? way = overlaid (old.at? way) (v.at? way)
        cases oldMap : old.isMap with
        | true => exact ih inner below old oldMap
        | false =>
          -- The mapping of the upper side hides a value that is none.
          rw [leaf_overlay oldMap]
          cases way with
          | nil => rw [at?_nil, at?_nil, overlaid, leaf_overlay oldMap]
          | cons k' way =>
            rw [at?_of_leaf oldMap]
            cases v.at? (k' :: way) <;> rfl

/-- Where the upper side leaves its mappings, it hides the lower side. -/
theorem at?_overlay_of_leaf {front way : List Datum} {upper v : Datum} (h : upper.Unambiguous)
    (before : front <+: way) (there : upper.at? front = some v) (leaf : v.isMap = false)
    (lower : Datum) : (overlay lower upper).at? way = upper.at? way := by
  induction front generalizing lower upper way with
  | nil =>
    obtain rfl : upper = v := Option.some.inj ((at?_nil upper).symm.trans there)
    rw [overlay_of_leaf leaf]
  | cons k front ih =>
    obtain ⟨way, rfl, inside⟩ := List.cons_prefix_iff.1 before
    cases lowerMap : lower.isMap with
    | false => rw [leaf_overlay lowerMap]
    | true =>
      obtain ⟨ls, rfl⟩ := isMap_iff.1 lowerMap
      cases upperMap : upper.isMap with
      | false => rw [overlay_of_leaf upperMap]
      | true =>
        obtain ⟨us, rfl⟩ := isMap_iff.1 upperMap
        rw [at?_map] at there
        obtain ⟨w, hu, there⟩ := Option.bind_eq_some_iff.1 there
        rw [overlay_map, at?_map, at?_map, find?_overlayEntries h.apart, hu]
        cases find? k ls with
        | none => rfl
        | some old => exact ih (h.of_find? hu) inside there old

/-! ## The law of merging -/

/-- One mapping laid over another, told by what stands at the end of every path, and in which order the
keys of every mapping stand that both sides have. -/
structure Pathwise (lower upper merged : List (Datum × Datum)) : Prop where
  /-- A value of the upper side that is no mapping counts, and nothing is below it. -/
  follows : ∀ way front v, front <+: way → (Datum.map upper).at? front = some v → v.isMap = false →
    (Datum.map merged).at? way = (Datum.map upper).at? way
  /-- Two mappings are merged. -/
  merges : ∀ way old new, (Datum.map lower).at? way = some (.map old) →
    (Datum.map upper).at? way = some (.map new) →
    (Datum.map merged).at? way = some (.map (overlayEntries old new))
  /-- Otherwise the value is that of the side that has one, the upper side first. -/
  given : ∀ way, (Datum.map upper).Descends way →
    (∀ old new, ¬ ((Datum.map lower).at? way = some (.map old) ∧
      (Datum.map upper).at? way = some (.map new))) →
    (Datum.map merged).at? way = ((Datum.map upper).at? way).or ((Datum.map lower).at? way)
  /-- A mapping of the upper side hides a value of the lower side that is none. -/
  hides : ∀ way front v new, front <+: way → (Datum.map lower).at? front = some v →
    v.isMap = false → (Datum.map upper).at? front = some (.map new) →
    (Datum.map merged).at? way = (Datum.map upper).at? way
  /-- The keys of the lower side keep their order and come before the new ones. -/
  order : ∀ way old new both, (Datum.map lower).at? way = some (.map old) →
    (Datum.map upper).at? way = some (.map new) → (Datum.map merged).at? way = some (.map both) →
    both.map Prod.fst =
      old.map Prod.fst ++ (new.filter fun e => (find? e.1 old).isNone).map Prod.fst

/-- A place where there is a mapping is reached through mappings. -/
theorem Datum.descends_of_map {d : Datum} {way : List Datum} {es : List (Datum × Datum)}
    (h : d.at? way = some (.map es)) : d.Descends way := by
  intro front v before there
  cases leaf : v.isMap with
  | true => rfl
  | false =>
    rcases at?_behind_leaf there leaf before with ⟨-, here⟩ | ⟨-, here⟩
    · obtain rfl := Option.some.inj (here.symm.trans h)
      exact leaf.symm
    · cases here.symm.trans h

section Law

variable {lower upper : List (Datum × Datum)} {way : List Datum}

/-- Two mappings in the same place are merged. -/
theorem at?_overlayEntries_of_maps (h : (Datum.map upper).Unambiguous)
    {old new : List (Datum × Datum)} (hl : (Datum.map lower).at? way = some (.map old))
    (hu : (Datum.map upper).at? way = some (.map new)) :
    (Datum.map (overlayEntries lower upper)).at? way = some (.map (overlayEntries old new)) := by
  rw [← overlay_map, at?_overlay h (descends_of_map hu) _ rfl, hl, hu]
  rfl

/-- Where not both sides have a mapping, one of them counts. -/
theorem at?_overlayEntries_of_apart (h : (Datum.map upper).Unambiguous)
    (descends : (Datum.map upper).Descends way)
    (apart : ∀ old new, ¬ ((Datum.map lower).at? way = some (.map old) ∧
      (Datum.map upper).at? way = some (.map new))) :
    (Datum.map (overlayEntries lower upper)).at? way =
      ((Datum.map upper).at? way).or ((Datum.map lower).at? way) := by
  rw [← overlay_map, at?_overlay h descends _ rfl]
  cases hu : (Datum.map upper).at? way with
  | none => cases (Datum.map lower).at? way <;> rfl
  | some v =>
    obtain ⟨new, rfl⟩ := isMap_iff.1 (descends way v (List.prefix_refl way) hu)
    cases hl : (Datum.map lower).at? way with
    | none => rfl
    | some old =>
      have leaf : old.isMap = false := by
        rw [← Bool.not_eq_true, isMap_iff]
        rintro ⟨es, rfl⟩
        exact apart es new ⟨hl, hu⟩
      rw [overlaid, leaf_overlay leaf, Option.some_or]

/-- A mapping hides a value of the lower side that is none, and there is nothing else behind that. -/
theorem at?_overlayEntries_of_hidden (h : (Datum.map upper).Unambiguous) {front : List Datum}
    {v : Datum} {new : List (Datum × Datum)} (before : front <+: way)
    (hl : (Datum.map lower).at? front = some v) (leaf : v.isMap = false)
    (hu : (Datum.map upper).at? front = some (.map new)) :
    (Datum.map (overlayEntries lower upper)).at? way = (Datum.map upper).at? way := by
  by_cases descends : (Datum.map upper).Descends way
  · rcases at?_behind_leaf hl leaf before with ⟨rfl, here⟩ | ⟨-, none⟩
    · have apart : ∀ old new', ¬ ((Datum.map lower).at? way = some (.map old) ∧
          (Datum.map upper).at? way = some (.map new')) := fun old new' both => by
        obtain rfl := Option.some.inj (here.symm.trans both.1)
        cases leaf
      rw [at?_overlayEntries_of_apart h descends apart, hu, Option.some_or]
    · have apart : ∀ old new', ¬ ((Datum.map lower).at? way = some (.map old) ∧
          (Datum.map upper).at? way = some (.map new')) := fun old new' both => by
        cases none.symm.trans both.1
      rw [at?_overlayEntries_of_apart h descends apart, none, Option.or_none]
  · simp only [Datum.Descends, Classical.not_forall, Bool.not_eq_true] at descends
    obtain ⟨further, w, before', there, noMap⟩ := descends
    exact at?_overlay_of_leaf h before' there noMap (.map lower)

theorem pathwise_overlayEntries (h : (Datum.map upper).Unambiguous)
    (lower : List (Datum × Datum)) : Pathwise lower upper (overlayEntries lower upper) where
  follows _ _ _ before there leaf := at?_overlay_of_leaf h before there leaf (.map lower)
  merges _ _ _ := at?_overlayEntries_of_maps h
  given _ := at?_overlayEntries_of_apart h
  hides _ _ _ _ := at?_overlayEntries_of_hidden h
  order way old new both hl hu hm := by
    obtain rfl := Datum.map.inj (Option.some.inj ((at?_overlayEntries_of_maps h hl hu).symm.trans hm))
    exact keys_overlayEntries (h.of_at? hu).apart old

end Law

/-- **The law of merging.** Whatever the lower side is, a merged mapping holds at the end of every path
what the two sides say there; merging with nothing on either side is no change, and neither is merging
the same upper side once more. -/
theorem overlayEntries_pathwise {upper : List (Datum × Datum)} (h : (Datum.map upper).Unambiguous)
    (lower : List (Datum × Datum)) :
    Pathwise lower upper (overlayEntries lower upper) ∧
    overlayEntries lower [] = lower ∧ overlayEntries [] upper = upper ∧
    overlayEntries (overlayEntries lower upper) upper = overlayEntries lower upper := by
  refine ⟨pathwise_overlayEntries h lower, overlayEntries_nil lower, nil_overlayEntries h.apart, ?_⟩
  exact Datum.map.inj (overlay_overlay h (.map lower))

def userSettings : List (Datum × Datum) :=
  [(.text "scan", .map [(.text "max_workers", .int 8), (.text "track_usages", .bool true)]),
    (.text "output", .text "out"), (.text "markers", .map [(.text "internal", .list [])])]

/-- Settings of a project: one mapping over a mapping, one over a text, and a text over a mapping. -/
def projectSettings : List (Datum × Datum) :=
  [(.text "logging", .map []), (.text "markers", .text "none"),
    (.text "output", .map [(.text "directory", .text "build")]),
    (.text "scan", .map [(.text "max_workers", .int 2), (.int 1, .bool false)])]

theorem unambiguous_projectSettings : (Datum.map projectSettings).Unambiguous := by
  have texts (s : String) : (Datum.text s).Unambiguous := .leaf rfl
  have output : (Datum.map [(.text "directory", .text "build")]).Unambiguous :=
    .map (List.pairwise_singleton _ _) (by decide) (by simpa using texts "build")
  have scan : (Datum.map [(.text "max_workers", .int 2), (.int 1, .bool false)]).Unambiguous :=
    .map (by simp [Apart, sameKey, sameScalar, scalarKey?, whole?]) (by decide)
      (by simpa using ⟨.leaf rfl, .leaf rfl⟩)
  refine .map (by simp [projectSettings, Apart, sameKey, sameScalar, scalarKey?, whole?]) (by decide) ?_
  have logging : (Datum.map []).Unambiguous :=
    .map .nil (List.forall_mem_nil _) (List.forall_mem_nil _)
  simpa [projectSettings] using ⟨logging, texts "none", output, scan⟩

/-- Those of the project laid over those of the user. -/
theorem overlayEntries_pathwise_project : (Datum.map projectSettings).Unambiguous ∧
    Pathwise userSettings projectSettings
      [(.text "scan", .map [(.text "max_workers", .int 2), (.text "track_usages", .bool true),
          (.int 1, .bool false)]),
        (.text "output", .map [(.text "directory", .text "build")]),
        (.text "markers", .text "none"), (.text "logging", .map [])] ∧
    overlayEntries userSettings [] = userSettings ∧
    overlayEntries [] projectSettings = projectSettings ∧
    overlayEntries (overlayEntries userSettings projectSettings) projectSettings =
      overlayEntries userSettings projectSettings :=
  ⟨unambiguous_projectSettings, overlayEntries_pathwise unambiguous_projectSettings userSettings⟩

end DomainAtlas
