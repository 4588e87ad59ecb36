import DomainAtlas.Proofs.Config.Layers
import DomainAtlas.Proofs.Index.Definition
import DomainAtlas.Proofs.Json.RoundTrip

/-!
# Which source decides a setting

`Setting.all` lists the settings of all sections, each with its default, the check its value passes and
its place in the result. Every setting is read on its own, from the section it belongs to
(`Setting.field_of_readSections`), and none is read from a mapping (`Setting.read_map`): so what a setting
is read from was given whole by one layer, and merging has put nothing into it.

Results:
* `Setting.all_names`, `Setting.determine`: the list is complete.
* `Config.setting_of_load`: every setting is the checked value of the first layer that mentions it,
  and its default where none does.
-/
namespace DomainAtlas

/-- A setting: where it stands, its default, how it is checked and which part of the result it is. -/
structure Setting where
  sectionName : String
  name : String
  Value : Type
  default : Value
  read : Homes → Datum → Check Value
  value : Config → Value

namespace Setting

def logging : List Setting := [
  ⟨"logging", "level", String, LoggingConfig.default.level,
    fun _ => Schema.choice logLevels, fun c => c.logging.level⟩,
  ⟨"logging", "outputs", List LogOutput, LoggingConfig.default.outputs,
    fun homes => Schema.list (LogOutput.read homes), fun c => c.logging.outputs⟩]

/-- The places of cache and report. -/
def output : List Setting := [
  ⟨"output", "directory", String, OutputConfig.default.directory,
    fun _ => Schema.text, fun c => c.output.directory⟩,
  ⟨"output", "cache_file", String, OutputConfig.default.cacheFile,
    fun _ => Schema.text, fun c => c.output.cacheFile⟩,
  ⟨"output", "report_file", String, OutputConfig.default.reportFile,
    fun _ => Schema.text, fun c => c.output.reportFile⟩]

def scan : List Setting := [
  ⟨"scan", "include_globs", List String, ScanConfig.default.includeGlobs,
    fun _ => Schema.list Schema.text, fun c => c.scan.includeGlobs⟩,
  ⟨"scan", "exclude_globs", List String, ScanConfig.default.excludeGlobs,
    fun _ => Schema.list Schema.text, fun c => c.scan.excludeGlobs⟩,
  ⟨"scan", "respect_gitignore", Bool, ScanConfig.default.respectGit,
    fun _ => Schema.bool, fun c => c.scan.respectGit⟩,
  ⟨"scan", "max_workers", Int, ScanConfig.default.maxWorkers,
    fun _ => ScanConfig.readWorkers, fun c => c.scan.maxWorkers⟩,
  ⟨"scan", "track_usages", Bool, ScanConfig.default.trackUsages,
    fun _ => Schema.bool, fun c => c.scan.trackUsages⟩]

def markers : List Setting := [
  ⟨"markers", "package_attribute", String, MarkersConfig.default.packageAttribute,
    fun _ d => (Schema.text d).ensure d MarkersConfig.attributeRefusal,
    fun c => c.markers.packageAttribute⟩,
  ⟨"markers", "class_internal_tokens", List String, MarkersConfig.default.classInternalTokens,
    fun _ => Schema.list Schema.text, fun c => c.markers.classInternalTokens⟩,
  ⟨"markers", "script_internal_tokens", List String, MarkersConfig.default.scriptInternalTokens,
    fun _ => Schema.list Schema.text, fun c => c.markers.scriptInternalTokens⟩,
  ⟨"markers", "final_token", String, MarkersConfig.default.finalToken,
    fun _ => Schema.text, fun c => c.markers.finalToken⟩,
  ⟨"markers", "package_comment_pattern", String, MarkersConfig.default.packageCommentPattern,
    fun _ => MarkersConfig.readPattern,
    fun c => c.markers.packageCommentPattern⟩]

def all : List Setting := logging ++ output ++ scan ++ markers

/-- The settings are those of the sections. -/
theorem all_names : all.map (fun f => (f.sectionName, f.name)) =
    Section.all.flatMap fun s => s.settings.map fun name => (s.name, name) := by
  rfl

/-- There is nothing in the result but settings. -/
theorem determine {c c' : Config} (h : ∀ f ∈ all, f.value c = f.value c') : c = c' := by
  obtain ⟨⟨level, outputs⟩, ⟨dir, cache, report⟩, ⟨inc, exc, git, workers, usages⟩,
    ⟨attr, classTokens, scriptTokens, final, pattern⟩⟩ := c
  obtain ⟨⟨level', outputs'⟩, ⟨dir', cache', report'⟩, ⟨inc', exc', git', workers', usages'⟩,
    ⟨attr', classTokens', scriptTokens', final', pattern'⟩⟩ := c'
  simpa [all, logging, output, scan, markers, and_assoc] using h

theorem section_mem : ∀ f ∈ all, f.sectionName ∈ Config.sectionNames := by
  simp [all, logging, output, scan, markers, Config.sectionNames, Section.all]

/-- No setting is read from a mapping. -/
theorem read_map (homes : Homes) (m : List (Datum × Datum)) :
    ∀ f ∈ all, ∀ v, f.read homes (.map m) ≠ .ok v := by
  simp [all, logging, output, scan, markers, Schema.choice, Schema.list, Schema.text, Schema.bool,
    Schema.int, ScanConfig.readWorkers, MarkersConfig.readPattern, Check.ensure, Check.fail]

/-! ## Every setting is read on its own -/

/-- The value of a setting is what the check makes of given entries of its section. -/
def ReadFrom (homes : Homes) (es : List (Datum × Datum)) (c : Config) (f : Setting) : Prop :=
  Schema.field es f.name f.default (f.read homes) = .ok (f.value c)

/-- A section is read from its entries, or from none if it is not there. -/
theorem read_section {α : Type} {es : List (Datum × Datum)} {name : String} {default a : α}
    {read : Datum → Check α} (model : String) (h : Schema.field es name default read = .ok a)
    (hdefault : read (.map []) = .ok default)
    (hread : ∀ d is, Schema.entries model d = .error is → read d = .error is) :
    read (.map (sectionOf name es)) = .ok a := by
  rw [Schema.field] at h
  split at h
  · next he => rw [sectionOf_of_none he, hdefault, h]
  · next d he =>
    have accepted := Check.under_eq_ok h
    cases hd : Schema.entries model d with
    | error is => rw [hread d is hd] at accepted; cases accepted
    | ok m =>
      cases d <;> simp [Schema.entries, Check.fail] at hd
      rw [sectionOf_of_map he, accepted]

theorem readFrom_of_readSections {homes : Homes} {es : List (Datum × Datum)} {c : Config}
    (h : Config.readSections homes es = .ok c) :
    (∀ f ∈ logging, f.ReadFrom homes (sectionOf "logging" es) c) ∧
    (∀ f ∈ output, f.ReadFrom homes (sectionOf "output" es) c) ∧
    (∀ f ∈ scan, f.ReadFrom homes (sectionOf "scan" es) c) ∧
    (∀ f ∈ markers, f.ReadFrom homes (sectionOf "markers" es) c) := by
  obtain ⟨_, m, h3, hmarkers, rfl⟩ := Check.ap_eq_ok h
  obtain ⟨_, s, h2, hscan, rfl⟩ := Check.ap_eq_ok h3
  obtain ⟨_, o, h1, houtput, rfl⟩ := Check.ap_eq_ok h2
  obtain ⟨l, hlogging, rfl⟩ := map_eq_ok h1
  refine ⟨?_, ?_, ?_, ?_⟩
  · have fields := read_section "LoggingConfig" hlogging rfl fun d is h => by simp [LoggingConfig.read, h]
    obtain ⟨_, outputs, f1, houtputs, rfl⟩ := Check.ap_eq_ok fields
    obtain ⟨level, hlevel, rfl⟩ := map_eq_ok f1
    simp [logging, ReadFrom, hlevel, houtputs]
  · have fields := read_section "OutputConfig" houtput rfl fun d is h => by simp [OutputConfig.read, h]
    obtain ⟨_, report, f2, hreport, rfl⟩ := Check.ap_eq_ok fields
    obtain ⟨_, cache, f1, hcache, rfl⟩ := Check.ap_eq_ok f2
    obtain ⟨dir, hdir, rfl⟩ := map_eq_ok f1
    simp [output, ReadFrom, hdir, hcache, hreport]
  · have fields := read_section "ScanConfig" hscan rfl fun d is h => by simp [ScanConfig.read, h]
    obtain ⟨_, usages, f4, husages, rfl⟩ := Check.ap_eq_ok fields
    obtain ⟨_, workers, f3, hworkers, rfl⟩ := Check.ap_eq_ok f4
    obtain ⟨_, git, f2, hgit, rfl⟩ := Check.ap_eq_ok f3
    obtain ⟨_, excludes, f1, hexcludes, rfl⟩ := Check.ap_eq_ok f2
    obtain ⟨includes, hincludes, rfl⟩ := map_eq_ok f1
    simp [scan, ReadFrom, hincludes, hexcludes, hgit, hworkers, husages]
  · have fields := read_section "MarkersConfig" hmarkers rfl fun d is h => by simp [MarkersConfig.read, h]
    obtain ⟨_, pattern, f4, hpattern, rfl⟩ := Check.ap_eq_ok fields
    obtain ⟨_, final, f3, hfinal, rfl⟩ := Check.ap_eq_ok f4
    obtain ⟨_, scriptTokens, f2, hscript, rfl⟩ := Check.ap_eq_ok f3
    obtain ⟨_, classTokens, f1, hclass, rfl⟩ := Check.ap_eq_ok f2
    obtain ⟨name, hname, rfl⟩ := map_eq_ok f1
    simp [markers, ReadFrom, hname, hclass, hscript, hfinal, hpattern]

/-- Every setting is read on its own from its section. -/
theorem field_of_readSections {homes : Homes} {es : List (Datum × Datum)} {c : Config}
    (h : Config.readSections homes es = .ok c) :
    ∀ f ∈ all, f.ReadFrom homes (sectionOf f.sectionName es) c := by
  obtain ⟨hlogging, houtput, hscan, hmarkers⟩ := readFrom_of_readSections h
  have same (name : String) (fs : List Setting) (hname : ∀ f ∈ fs, f.sectionName = name)
      (hfs : ∀ f ∈ fs, f.ReadFrom homes (sectionOf name es) c) :
      ∀ f ∈ fs, f.ReadFrom homes (sectionOf f.sectionName es) c :=
    fun f hf => hname f hf ▸ hfs f hf
  simp only [all, List.forall_mem_append]
  exact ⟨⟨⟨same "logging" logging (by simp [logging]) hlogging,
    same "output" output (by simp [output]) houtput⟩,
    same "scan" scan (by simp [scan]) hscan⟩,
    same "markers" markers (by simp [markers]) hmarkers⟩

end Setting

/-! ## The result -/

theorem Config.readSections_of_load {s : SettingsSources} {c : Config}
    (h : Config.load s = .ok c) :
    ∃ es, Config.gather s = .ok es ∧ Config.readSections s.homes es = .ok c := by
  simp only [Config.load, bind, Except.bind] at h
  split at h
  · cases h
  · next es hes =>
    split at h
    · cases h
    · split at h
      · next c' hread =>
        obtain rfl := Except.ok.inj h
        rw [Config.readStrict] at hread
        split at hread
        · exact ⟨es, hes, hread⟩
        · cases hread
      · cases h

/-- Every setting is the checked value of the first layer that mentions it: arguments, environment
variables, the file of the project, the file of the user. It has its default where none does. -/
theorem Config.setting_of_load (s : SettingsSources) (c : Config) (hload : Config.load s = .ok c)
    (hargs : ∀ e ∈ s.arguments, ∀ m, e.2 = .map m → Datum.Keyed m)
    (hgives : ∀ layers, s.layers = .ok layers → ∀ l ∈ layers, GivesMappings l) :
    ∃ layers, s.layers = .ok layers ∧ ∀ f ∈ Setting.all,
      match layers.findSome? (said f.sectionName f.name) with
      | some d => f.read s.homes d = .ok (f.value c)
      | none => f.value c = f.default := by
  obtain ⟨es, hgather, hread⟩ := Config.readSections_of_load hload
  obtain ⟨user, project, env, huser, hproject, henv, hlayers, hes⟩ :=
    SettingsSources.gather_eq_ok hgather
  refine ⟨_, hlayers, fun f hf => ?_⟩
  have hdict : ∀ l ∈ [Config.properArguments s.arguments, env, project, user], Dictionary l := by
    simp only [List.forall_mem_cons]
    exact ⟨Config.dictionary_properArguments hargs, Environment.dictionary_of_read henv,
      SettingsFile.dictionary_of_read hproject, SettingsFile.dictionary_of_read huser, by simp⟩
  have taken : f.ReadFrom s.homes (sectionOf f.sectionName es) c :=
    Setting.field_of_readSections hread f hf
  rw [Setting.ReadFrom, Schema.field] at taken
  have first := said_gathered hdict (hgives _ hlayers) (Setting.section_mem f hf) f.name hes
  rw [said] at first
  split at taken
  · next hnone =>
    rw [← first fun m hm => by simp [hnone] at hm, hnone]
    exact (Except.ok.inj taken).symm
  · next d hsome =>
    have accepted := Check.under_eq_ok taken
    have scalar (m : List (Datum × Datum)) : some d ≠ some (.map m) := fun hm => by
      obtain rfl := Option.some.inj hm
      exact Setting.read_map s.homes m f hf _ accepted
    rw [← first fun m => hsome ▸ scalar m, hsome]
    exact accepted

/-! ## A file, variables and an argument -/

/-- The file of a project that sets two settings of the scan. -/
def teamText : String := "\"scan\": \x7b\"max_workers\": \"3\", \"respect_gitignore\": \"no\"\x7d"

/-- The node of such a text, whatever the places in it. -/
def Yaml.isQuotedPair (outer k₁ v₁ k₂ v₂ : String) : Yaml.Node → Bool
  | .mapping t [(.scalar t₀ k _, .mapping t' [(.scalar s₁ f₁ _, .scalar s₂ d₁ _),
      (.scalar s₃ f₂ _, .scalar s₄ d₂ _)] _)] _ =>
    [t, t'].all (· == standardTag "map") && [t₀, s₁, s₂, s₃, s₄].all (· == standardTag "str") &&
      [k, f₁, d₁, f₂, d₂] == [outer, k₁, v₁, k₂, v₂]
  | _ => false

/-- A text of that shape loads as a mapping in a mapping. -/
theorem Yaml.load_of_isQuotedPair {text outer k₁ v₁ k₂ v₂ : String}
    (allowed : (text.toList.zipIdx.find? fun ch => !isAllowed ch.1) = none)
    (shallow : nesting 0 (Tokens.ofChars text.toList).list ≤ maxDepth)
    (shape : (NodeReader.document (Tokens.ofChars text.toList)).toOption.join.any
      (isQuotedPair outer k₁ v₁ k₂ v₂) = true) (distinct : k₁ ≠ k₂) :
    load text = .ok (.map [(.text outer, .map [(.text k₁, .text v₁), (.text k₂, .text v₂)])]) := by
  obtain ⟨n, read, pair⟩ := document_of_any shape
  simp only [load, allowed, if_neg (Nat.not_lt.mpr shallow), read]
  rw [isQuotedPair.eq_def] at pair
  split at pair
  · simp at pair
    obtain ⟨⟨⟨rfl, rfl⟩, rfl, rfl, rfl, rfl, rfl⟩, rfl, rfl, rfl, rfl, rfl⟩ := pair
    -- the rest is computation, but `flatten` is by well-founded recursion and does not reduce
    simp [documentData, maxDepth, visit, isCollection, collectionTags, Node.tag, openLevels, openAll, openCollection,
      visitEntries, flatten, flattenEntries, textualKey, dataOf, orNull, scalarData, scalarText,
      Node.depth, Node.depthOfEntries, mergeTag, valueTag, standardTag, standardTags, Except.map,
      bind, Except.bind, pure, Except.pure, Datum.setEntry, Datum.sameKey, Datum.sameScalar,
      Datum.scalarKey?, Datum.whole?, distinct]
  · cases pair

theorem load_teamText : Yaml.load teamText = .ok (.map [(.text "scan",
    .map [(.text "max_workers", .text "3"), (.text "respect_gitignore", .text "no")])]) :=
  Yaml.load_of_isQuotedPair (by decide +kernel) (by decide +kernel) (by decide +kernel) (by decide)

/-- The file above, one variable for the number of workers as well, and one argument. -/
def teamSources : SettingsSources where
  homes := ⟨"/root", []⟩
  user := .absent "/root/.config/archscan/config.yaml"
  project := ⟨"/work/archscan.yaml", .ok (some teamText.toUTF8)⟩
  environment := [("ARCHSCAN__SCAN__MAX_WORKERS", "4"), ("ARCHSCAN__LOGGING__LEVEL", "DEBUG")]
  arguments := [(.text "SCAN", .map [(.text "track_usages", .bool false)])]

/-- The variable counts for the workers, the file for ignore files, the argument for usages. -/
def teamConfig : Config where
  logging := { LoggingConfig.default with level := "DEBUG" }
  output := OutputConfig.default
  scan := { ScanConfig.default with respectGit := false, maxWorkers := 4, trackUsages := false }
  markers := MarkersConfig.default

theorem read_teamFile : teamSources.project.read = .ok [(.text "scan",
    .map [(.text "max_workers", .text "3"), (.text "respect_gitignore", .text "no")])] := by
  have decoded := Text.decode_toUTF8 teamText
  have breaks : Text.unifyBreaks teamText = teamText := by decide +kernel
  simp only [SettingsFile.read, teamSources, decoded, SettingsFile.parse, breaks, load_teamText]
  rfl

theorem load_teamSources : Config.load teamSources = .ok teamConfig := by
  have h : (Config.load teamSources).toOption = some teamConfig := by
    rw [Config.load, Config.gather, read_teamFile]
    decide +kernel
  cases hl : Config.load teamSources with
  | error e => rw [hl] at h; cases h
  | ok c => rw [hl] at h; exact congrArg _ (Option.some.inj h)

theorem givesMappings_teamSources :
    ∀ layers, teamSources.layers = .ok layers → ∀ l ∈ layers, GivesMappings l := by
  have h : (teamSources.layers.toOption.all fun layers =>
      decide (∀ l ∈ layers, GivesMappings l)) = true := by
    rw [SettingsSources.layers, read_teamFile]
    decide +kernel
  intro layers hlayers
  simpa [hlayers, Except.toOption] using h

theorem setting_of_load_team : Config.load teamSources = .ok teamConfig ∧
    ∃ layers, teamSources.layers = .ok layers ∧ ∀ f ∈ Setting.all,
      match layers.findSome? (said f.sectionName f.name) with
      | some d => f.read teamSources.homes d = .ok (f.value teamConfig)
      | none => f.value teamConfig = f.default := by
  refine ⟨load_teamSources, Config.setting_of_load teamSources teamConfig load_teamSources ?_
    givesMappings_teamSources⟩
  simp [teamSources, Datum.Keyed, Datum.names]

end DomainAtlas
