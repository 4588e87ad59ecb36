import DomainAtlas.Config.Load
import DomainAtlas.Proofs.Config.Merge

/-!
# The layers of the settings

Arguments come before environment variables, these before the file of the project, and that before
the file of the user: `SettingsSources.layers` lists what the four say, in this order. They are merged
in two rounds, the two files first. What the merged mapping says about a setting (`said`) is derived
from the laws of merging, which ask for layers that have every name once (`Dictionary`) and give their
sections as mappings (`GivesMappings`). The first is so however files and variables are written: every
mapping is built entry by entry.

Results:
* `said_overlayEntries`: what two merged layers say about a setting.
* `SettingsFile.dictionary_of_read`, `Environment.dictionary_of_read`,
  `Config.dictionary_properArguments`: no layer says two things about one name.
* `said_gathered`: the first layer that mentions a setting counts, unless the outcome is a mapping.
-/
namespace DomainAtlas

/-! ## What a layer says -/

/-- The entries of a section; none if there is no such section, or if it is no mapping. -/
def sectionOf (name : String) (es : List (Datum × Datum)) : List (Datum × Datum) :=
  match Datum.entry? name es with
  | some (.map m) => m
  | _ => []

/-- What a layer says about a setting of a section. -/
def said (sectionName name : String) (es : List (Datum × Datum)) : Option Datum :=
  Datum.entry? name (sectionOf sectionName es)

/-- The sections that a layer mentions are mappings. -/
def GivesMappings (es : List (Datum × Datum)) : Prop :=
  ∀ name ∈ Config.sectionNames, ∀ d, Datum.entry? name es = some d → ∃ m, d = .map m

instance decidableGivesMappings (es : List (Datum × Datum)) : Decidable (GivesMappings es) :=
  decidable_of_iff (Config.sectionNames.all fun name =>
      match Datum.entry? name es with
      | none => true
      | some (.map _) => true
      | some _ => false) (by
    simp only [List.all_eq_true, GivesMappings]
    refine forall₂_congr fun name _ => ?_
    cases Datum.entry? name es with
    | none => simp
    | some d => cases d <;> simp)

/-- A mapping with every name once, as well as the mappings under its names. -/
structure Dictionary (es : List (Datum × Datum)) : Prop where
  keyed : Datum.Keyed es
  inner : ∀ name m, Datum.entry? name es = some (.map m) → Datum.Keyed m

theorem sectionOf_of_none {name : String} {es : List (Datum × Datum)}
    (h : Datum.entry? name es = none) : sectionOf name es = [] := by
  simp [sectionOf, h]

theorem sectionOf_of_map {name : String} {es m : List (Datum × Datum)}
    (h : Datum.entry? name es = some (.map m)) : sectionOf name es = m := by
  simp [sectionOf, h]

theorem GivesMappings.cases {es : List (Datum × Datum)} (h : GivesMappings es) {name : String}
    (hname : name ∈ Config.sectionNames) :
    Datum.entry? name es = none ∨ ∃ m, Datum.entry? name es = some (.map m) := by
  cases he : Datum.entry? name es with
  | none => exact .inl rfl
  | some d =>
    obtain ⟨m, rfl⟩ := h name hname d he
    exact .inr ⟨m, rfl⟩

/-- Merged layers say together what the upper one says, or else the lower one; two mappings are
merged. -/
theorem said_overlayEntries {lower upper : List (Datum × Datum)} (hlower : GivesMappings lower)
    (hupper : GivesMappings upper) (hdict : Dictionary upper) {sectionName : String}
    (hname : sectionName ∈ Config.sectionNames) (name : String) :
    said sectionName name (overlayEntries lower upper) =
      overlaid (said sectionName name lower) (said sectionName name upper) := by
  have merged := entry?_overlayEntries hdict.keyed sectionName lower
  rcases hlower.cases hname with hl | ⟨ml, hl⟩ <;> rcases hupper.cases hname with hu | ⟨mu, hu⟩ <;>
    rw [hl, hu] at merged
  · rw [said, said, said, sectionOf_of_none merged, sectionOf_of_none hl, sectionOf_of_none hu]
    rfl
  · rw [said, said, said, sectionOf_of_map merged, sectionOf_of_none hl, sectionOf_of_map hu]
    cases Datum.entry? name mu <;> rfl
  · rw [said, said, said, sectionOf_of_map merged, sectionOf_of_map hl, sectionOf_of_none hu]
    rfl
  · rw [overlaid, overlay] at merged
    rw [said, said, said, sectionOf_of_map merged, sectionOf_of_map hl, sectionOf_of_map hu,
      entry?_overlayEntries (hdict.inner _ mu hu)]

theorem GivesMappings.overlayEntries {lower upper : List (Datum × Datum)}
    (hlower : GivesMappings lower) (hupper : GivesMappings upper) (hkeyed : Datum.Keyed upper) :
    GivesMappings (overlayEntries lower upper) := by
  intro name hname d hd
  rw [entry?_overlayEntries hkeyed] at hd
  rcases hlower.cases hname with hl | ⟨ml, hl⟩ <;> rcases hupper.cases hname with hu | ⟨mu, hu⟩ <;>
    rw [hl, hu] at hd <;> simp [overlaid, overlay] at hd <;> exact ⟨_, hd.symm⟩

theorem Dictionary.of_values {es : List (Datum × Datum)} (hkeyed : Datum.Keyed es)
    (h : ∀ e ∈ es, ∀ m, e.2 = .map m → Datum.Keyed m) : Dictionary es :=
  ⟨hkeyed, fun _ m he => h _ (Datum.mem_of_entry?_eq_some he) m rfl⟩

theorem dictionary_nil : Dictionary [] := ⟨Datum.keyed_nil, fun _ _ h => nomatch h⟩

theorem Dictionary.overlayEntries {lower upper : List (Datum × Datum)} (hlower : Dictionary lower)
    (hupper : Dictionary upper) : Dictionary (overlayEntries lower upper) := by
  refine ⟨hlower.keyed.overlayEntries upper, fun name m hm => ?_⟩
  rw [entry?_overlayEntries hupper.keyed] at hm
  cases hl : Datum.entry? name lower with
  | none =>
    cases hu : Datum.entry? name upper <;> rw [hl, hu] at hm
    · cases hm
    · exact hupper.inner name m (hu.trans hm)
  | some old =>
    cases hu : Datum.entry? name upper <;> rw [hl, hu] at hm
    · exact hlower.inner name m (hl.trans hm)
    · obtain ⟨mu, rfl, rfl | ⟨ml, rfl, rfl⟩⟩ := overlay_eq_map (Option.some.inj hm)
      · exact hupper.inner name m hu
      · exact (hlower.inner name ml hl).overlayEntries mu

/-! ## Files -/

theorem Yaml.dateValue_ne_map (text : String) (m : List (Datum × Datum)) :
    Yaml.dateValue text ≠ .ok (.map m) := by
  intro h
  rw [Yaml.dateValue] at h
  split at h
  · cases h
  · next p _ =>
    split at h
    · cases hday : Yaml.calendarDay p.year p.month p.day <;> simp [hday, Except.map] at h
    · split at h
      · cases h
      · split at h
        · cases h
        · repeat' split at h
          all_goals cases h

theorem Yaml.dateData_ne_map (n : Yaml.Node) (text : String) (m : List (Datum × Datum)) :
    Yaml.dateData n text ≠ .ok (.map m) := by
  unfold Yaml.dateData
  split
  · exact Yaml.dateValue_ne_map text m
  · rintro ⟨⟩

theorem Yaml.bytesValue_ne_map (place : Yaml.Mark) (text : String) (m : List (Datum × Datum)) :
    Yaml.bytesValue place text ≠ .ok (.map m) := by
  intro h
  simp only [Yaml.bytesValue] at h
  split at h
  · cases h
  · split at h <;> cases h

/-- A node that is no collection does not become a mapping. -/
theorem Yaml.scalarData_ne_map (n : Yaml.Node) (m : List (Datum × Datum)) :
    Yaml.scalarData n ≠ .ok (.map m) := by
  intro h
  simp only [Yaml.scalarData] at h
  split at h
  · cases h
  · cases ht : Yaml.scalarText n with
    | error e =>
      simp only [ht, Except.map] at h
      repeat' split at h
      all_goals cases h
    | ok text =>
      have date := Yaml.dateData_ne_map n text m
      have bytes := Yaml.bytesValue_ne_map n.place text m
      simp only [ht, Except.map] at h
      repeat' split at h
      all_goals first | exact bytes h | (cases h <;> contradiction)

/-- What is read from a node that becomes a mapping. -/
theorem Yaml.dataOf_eq_map {fuel : Nat} {n : Yaml.Node} {es : List (Datum × Datum)}
    (h : Yaml.dataOf fuel n = .map es) :
    Datum.Keyed es ∧ ∀ e ∈ es, ∃ less inner, e.2 = Yaml.dataOf less inner := by
  cases fuel with
  | zero => cases h
  | succ fuel =>
    rw [Yaml.dataOf] at h
    split at h
    · cases hs : Yaml.scalarData n with
      | error e => simp [hs, Yaml.orNull] at h
      | ok d =>
        obtain rfl : d = .map es := by simpa [hs, Yaml.orNull] using h
        exact absurd hs (Yaml.scalarData_ne_map n es)
    · simp only at h
      split at h
      · split at h <;> cases h
      · split at h
        · cases h
        · obtain rfl := Datum.map.inj h
          refine ⟨Datum.keyed_fold _ _ _ Datum.keyed_nil, ?_⟩
          exact Datum.values_fold (P := fun v => ∃ less inner, v = Yaml.dataOf less inner)
            _ _ _ (fun e _ => ⟨fuel, e.2, rfl⟩) (by simp)

/-- The node of a text that holds a document of some shape. -/
theorem Yaml.document_of_any {text : String} {shape : Yaml.Node → Bool}
    (h : (NodeReader.document (Tokens.ofChars text.toList)).toOption.join.any shape = true) :
    ∃ n, NodeReader.document (Tokens.ofChars text.toList) = .ok (some n) ∧ shape n = true := by
  obtain ⟨n, found, own⟩ := (Option.any_eq_true _ _).1 h
  refine ⟨n, ?_, own⟩
  revert found
  cases NodeReader.document (Tokens.ofChars text.toList) <;> simp [Except.toOption]

theorem Yaml.dictionary_of_load {text : String} {es : List (Datum × Datum)}
    (h : Yaml.load text = .ok (.map es)) : Dictionary es := by
  simp only [Yaml.load] at h
  split at h
  · cases h
  · split at h
    · cases h
    · split at h
      · cases h
      · cases h
      · next n _ =>
        unfold documentData at h
        split at h
        · cases h
        · split at h
          · cases h
          · split at h
            · cases h
            · obtain ⟨hkeyed, values⟩ := Yaml.dataOf_eq_map (Except.ok.inj h)
              refine .of_values hkeyed fun e he m hm => ?_
              obtain ⟨less, inner, hv⟩ := values e he
              exact (Yaml.dataOf_eq_map (hv ▸ hm)).1

theorem SettingsFile.dictionary_of_read {f : SettingsFile} {es : List (Datum × Datum)}
    (h : f.read = .ok es) : Dictionary es := by
  have ofText {path text : String} (h : SettingsFile.parse path text = .ok es) : Dictionary es := by
    rw [SettingsFile.parse] at h
    split at h
    · next d hd =>
      unfold SettingsFile.entriesOf at h
      split at h
      · cases h
        exact dictionary_nil
      · split at h
        · cases h
          exact Yaml.dictionary_of_load hd
        · cases h
    · cases h
    · cases h
    · cases h
  rw [SettingsFile.read] at h
  split at h
  · cases h
  · cases h
    exact dictionary_nil
  · split at h
    · cases h
    · exact ofText h

/-! ## Variables and arguments -/

theorem Environment.keyed_of_sectionValue {s : Section} {env : List (String × String)}
    {m : List (Datum × Datum)} (h : Environment.sectionValue s env = .ok (some (.map m))) :
    Datum.Keyed m := by
  have proper (es : List (Datum × Datum)) : Datum.Keyed (Environment.properNames s es) :=
    Datum.keyed_fold _ _ es Datum.keyed_nil
  rw [Environment.sectionValue] at h
  split at h
  · split at h
    · cases h
    · cases h
    · cases h
      exact proper _
  · split at h
    · cases h
    · cases h
    · split at h
      · cases h
      · cases h
        exact proper _
    · next other notNull notObj _ =>
      cases other <;> simp_all [Datum.ofJson]

theorem Environment.dictionary_of_sections {env : List (String × String)} {ss : List Section}
    (hss : (ss.map Section.name).Nodup) {es : List (Datum × Datum)}
    (h : Environment.sections env ss = .ok es) :
    Dictionary es ∧ ∀ name ∈ Datum.names es, name ∈ ss.map Section.name := by
  induction ss generalizing es with
  | nil =>
    cases h
    exact ⟨dictionary_nil, by simp [Datum.names]⟩
  | cons s ss ih =>
    obtain ⟨fresh, hss⟩ := List.nodup_cons.mp hss
    rw [Environment.sections] at h
    split at h
    · cases h
    · next found hfound =>
      split at h
      · cases h
      · next rest hrest =>
        obtain ⟨dict, inside⟩ := ih hss hrest
        obtain rfl := Except.ok.inj h
        cases found with
        | none => exact ⟨dict, fun name hname => List.mem_cons_of_mem _ (inside name hname)⟩
        | some d =>
          refine ⟨⟨?_, fun name m hm => ?_⟩, fun name hname => ?_⟩
          · exact List.nodup_cons.mpr ⟨fun hmem => fresh (inside _ hmem), dict.keyed⟩
          · by_cases hn : s.name = name
            · subst hn
              have given : some d = some (.map m) :=
                (Datum.entry?_cons_self s.name d rest).symm.trans hm
              exact Environment.keyed_of_sectionValue (hfound.trans (congrArg _ given))
            · have other : Datum.text s.name ≠ .text name := fun he => hn (Datum.text.inj he)
              exact dict.inner name m ((Datum.entry?_cons_of_ne other d rest).symm.trans hm)
          · simp [Datum.names] at hname
            rcases hname with rfl | hname
            · exact List.mem_cons_self
            · exact List.mem_cons_of_mem _ (inside name hname)

theorem Environment.dictionary_of_read {env : List (String × String)} {es : List (Datum × Datum)}
    (h : Environment.read env = .ok es) : Dictionary es :=
  (Environment.dictionary_of_sections (by decide) h).1

theorem Config.dictionary_properArguments {es : List (Datum × Datum)}
    (h : ∀ e ∈ es, ∀ m, e.2 = .map m → Datum.Keyed m) : Dictionary (Config.properArguments es) := by
  refine .of_values (Datum.keyed_fold _ _ es Datum.keyed_nil) fun e he => ?_
  exact Datum.values_fold (P := fun v => ∀ m, v = .map m → Datum.Keyed m)
    (fun e : Datum × Datum => Config.properSection e.1) Prod.snd es h (by simp) e he

/-! ## All layers -/

/-- What the four sources say, the one that counts most first. -/
def SettingsSources.layers (s : SettingsSources) :
    Except ConfigFault (List (List (Datum × Datum))) := do
  let user ← s.user.read
  let project ← s.project.read
  match Environment.read s.environment with
  | .error f => throw (.ofVariables f)
  | .ok env => return [Config.properArguments s.arguments, env, project, user]

/-- The layers behind the gathered entries, and how they are laid over one another. -/
theorem SettingsSources.gather_eq_ok {s : SettingsSources} {es : List (Datum × Datum)}
    (h : Config.gather s = .ok es) : ∃ user project env,
      s.user.read = .ok user ∧ s.project.read = .ok project ∧
      Environment.read s.environment = .ok env ∧
      s.layers = .ok [Config.properArguments s.arguments, env, project, user] ∧
      es = DomainAtlas.overlayEntries (DomainAtlas.overlayEntries user project)
        (DomainAtlas.overlayEntries env (Config.properArguments s.arguments)) := by
  simp only [Config.gather, bind, Except.bind] at h
  cases hu : s.user.read with
  | error e => simp [hu] at h
  | ok user =>
    cases hp : s.project.read with
    | error e => simp [hu, hp] at h
    | ok project =>
      cases he : Environment.read s.environment with
      | error name => simp [hu, hp, he, throw, throwThe, MonadExceptOf.throw] at h
      | ok env =>
        simp only [hu, hp, he] at h
        refine ⟨user, project, env, rfl, rfl, rfl, ?_, (Except.ok.inj h).symm⟩
        simp [SettingsSources.layers, hu, hp, he, bind, Except.bind, pure, Except.pure]

/-- What the gathered entries say about a setting is what the first layer says that mentions it,
unless that is a mapping. -/
theorem said_gathered {arguments env project user : List (Datum × Datum)}
    (hdict : ∀ l ∈ [arguments, env, project, user], Dictionary l)
    (hgives : ∀ l ∈ [arguments, env, project, user], GivesMappings l)
    {sectionName : String} (hname : sectionName ∈ Config.sectionNames) (name : String)
    {gathered : List (Datum × Datum)}
    (hgathered : gathered = DomainAtlas.overlayEntries (DomainAtlas.overlayEntries user project)
      (DomainAtlas.overlayEntries env arguments))
    (hscalar : ∀ m, said sectionName name gathered ≠ some (.map m)) :
    said sectionName name gathered =
      [arguments, env, project, user].findSome? (said sectionName name) := by
  simp only [List.forall_mem_cons] at hdict hgives
  obtain ⟨darguments, denv, dproject, duser, -⟩ := hdict
  obtain ⟨garguments, genv, gproject, guser, -⟩ := hgives
  have files := said_overlayEntries guser gproject dproject hname name
  have given := said_overlayEntries genv garguments darguments hname name
  have whole := said_overlayEntries (guser.overlayEntries gproject dproject.keyed)
    (genv.overlayEntries garguments darguments.keyed) (denv.overlayEntries darguments) hname name
  rw [← hgathered, files, given] at whole
  rw [whole] at hscalar ⊢
  rw [overlaid_pairs_eq_or hscalar]
  simp only [List.findSome?_cons, List.findSome?_nil]
  cases said sectionName name arguments <;> cases said sectionName name env <;>
    cases said sectionName name project <;> cases said sectionName name user <;> rfl

end DomainAtlas
