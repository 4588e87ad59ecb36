import DomainAtlas.Extraction.SourceFile
import DomainAtlas.Proofs.Schema

/-!
# Definitions that are accepted

`Definition.Sound` says what every definition satisfies that was read from JSON or taken out of a
source file. The two normalising checks, on a blank domain and on a namespace without a class, leave
such a definition as it is, so that it survives being written and read again.

Results:
* `Definition.sound_of_ofJson`, `Extraction.Extractor.sound_of_definitionOf`: what is read and what is
  extracted is sound.
* `Definition.ofJson_toJson`: a sound definition is read back as it was written.
-/
namespace DomainAtlas

/-- A member of an object, looked up among its entries. -/
theorem Datum.entry?_ofJsonMembers (name : String) (ms : List (String × Json)) :
    Datum.entry? name (Datum.ofJsonMembers ms) = (ms.lookup name).map Datum.ofJson := by
  induction ms with
  | nil => rfl
  | cons m ms ih =>
    obtain ⟨n, v⟩ := m
    rw [Datum.ofJsonMembers, Datum.entry?, ih]
    by_cases h : n = name
    · simp [h]
    · have : (name == n) = false := by simpa using fun e => h e.symm
      simp [h, List.lookup_cons, this]

namespace Definition

/-- A definition that no check changes or refuses: its domain is not blank, and it has a class if it
has a namespace. -/
structure Sound (d : Definition) : Prop where
  domain : ∀ s, d.domain = some s → s.toList.all Text.isBlank = false
  accepted : d.refusal = none

/-! ## What is read is sound -/

-- Raw bytes would pass as a blank domain, but JSON has none.
theorem readDomain_ofJson {v : Json} {x : Option String}
    (h : readDomain (Datum.ofJson v) = .ok x) (s : String) (hs : x = some s) :
    s.toList.all Text.isBlank = false := by
  subst hs
  cases v with
  | str t =>
    simp only [Datum.ofJson, readDomain, Except.ok.injEq] at h
    split at h
    · cases h
    · next hb =>
      obtain rfl := Option.some.inj h
      simpa using hb
  | null => simp [Datum.ofJson, readDomain, Schema.optional] at h
  | _ => simp [Datum.ofJson, readDomain, Schema.optional, Schema.text, Check.fail, Except.map] at h

theorem either_ofJsonMembers (ms : List (String × Json)) (first second : String) (d : Datum)
    (h : either (Datum.ofJsonMembers ms) first second = some d) : ∃ v, d = Datum.ofJson v := by
  unfold either at h
  rw [Datum.entry?_ofJsonMembers, Datum.entry?_ofJsonMembers] at h
  cases hf : ms.lookup first with
  | some v =>
    rw [hf] at h
    exact ⟨v, (Option.some.inj h).symm⟩
  | none =>
    rw [hf] at h
    obtain ⟨v, -, hv⟩ := Option.map_eq_some_iff.1 h
    exact ⟨v, hv.symm⟩

theorem sound_of_ofJson {raw : Json} {d : Definition} (h : ofJson raw = .ok d) : d.Sound := by
  unfold ofJson read at h
  cases raw with
  | obj ms =>
    simp only [Datum.ofJson, Schema.entries] at h
    obtain ⟨whole, accepted⟩ := Check.ensure_eq_ok h
    obtain ⟨_, final, h6, -, rfl⟩ := Check.ap_eq_ok whole
    obtain ⟨_, internal, h5, -, rfl⟩ := Check.ap_eq_ok h6
    obtain ⟨_, domain, h4, hd, rfl⟩ := Check.ap_eq_ok h5
    obtain ⟨_, file, h3, -, rfl⟩ := Check.ap_eq_ok h4
    obtain ⟨_, name, h2, -, rfl⟩ := Check.ap_eq_ok h3
    obtain ⟨_, space, h1, -, rfl⟩ := Check.ap_eq_ok h2
    refine ⟨fun s hs => ?_, accepted⟩
    have hdomain : domain = some s := by
      cases hk : required (.map (Datum.ofJsonMembers ms)) (Datum.ofJsonMembers ms) "qualifiedKey"
          "qualified_key" Schema.text with
      | error is => rw [hk] at h1; cases h1
      | ok key =>
        rw [hk] at h1
        obtain rfl := Except.ok.inj h1
        exact hs
    unfold withDefault at hd
    split at hd
    · obtain rfl := Except.ok.inj hd
      cases hdomain
    · next raw hraw =>
      obtain ⟨v, rfl⟩ := either_ofJsonMembers ms _ _ raw hraw
      exact readDomain_ofJson (Check.under_eq_ok hd) s hdomain
  | _ => simp [Datum.ofJson, Schema.entries, Check.fail] at h

/-! ## What is sound is read back -/

theorem ofJson_toJson {d : Definition} (h : d.Sound) : ofJson d.toJson = .ok d := by
  obtain ⟨key, space, name, file, domain, internal, final⟩ := d
  have texts : ∀ o : Option String,
      Schema.optional Schema.text (Datum.ofJson (Json.optStr o)) = .ok o := by
    rintro (_ | s) <;> rfl
  have bools : ∀ o : Option Bool,
      Schema.optional Schema.bool (Datum.ofJson (optBool o)) = .ok o := by
    rintro (_ | b) <;> rfl
  have hdomain : readDomain (Datum.ofJson (Json.optStr domain)) = .ok domain := by
    cases domain with
    | none => rfl
    | some s =>
      have hs := h.domain s rfl
      simp only [Json.optStr, Datum.ofJson, readDomain, hs]
      rfl
  unfold ofJson read toJson
  simp only [Datum.ofJson, Schema.entries, required, withDefault, either,
    Datum.entry?_ofJsonMembers, List.lookup_cons]
  simp [texts, bools, hdomain, Check.under, Schema.text, Schema.bool, Datum.ofJson, Except.map,
    Check.ap, Check.ensure, h.accepted]

end Definition

/-! ## What is extracted is sound -/

namespace Extraction

theorem not_blank_of_filter {o : Option String} {s : String}
    (h : o.filter (fun d => !d.toList.all Text.isBlank) = some s) :
    s.toList.all Text.isBlank = false := by
  obtain ⟨-, hs⟩ := Option.filter_eq_some_iff.1 h
  simpa using hs

theorem sound_of_classDefinitionOf {markers : ClassMarkers} {cs : List Syntax.Capture}
    {path : String} {d : Definition} (h : classDefinitionOf markers cs path = some d) : d.Sound := by
  unfold classDefinitionOf at h
  split at h
  · simp only at h
    split at h
    · cases h
    · next hn =>
      obtain rfl := Option.some.inj h
      refine ⟨fun s hs => not_blank_of_filter hs, ?_⟩
      simp only [Definition.refusal]
      exact if_neg fun e => hn (.inr e)
  · cases h

theorem sound_scriptDefinitionOf (markers : ScriptMarkers) (comments : List String)
    (path : String) : (scriptDefinitionOf markers comments path).Sound :=
  ⟨fun _ hs => not_blank_of_filter hs, rfl⟩

theorem Extractor.sound_of_definitionOf {x : Extractor} {dialect : Dialect} {path : String}
    {cs : List Syntax.Capture} {d : Definition}
    (h : x.definitionOf dialect path cs = some d) : d.Sound := by
  cases dialect with
  | php => exact sound_of_classDefinitionOf h
  | script =>
    obtain rfl := Option.some.inj h
    exact sound_scriptDefinitionOf _ _ _

end Extraction

end DomainAtlas
