import DomainAtlas.FileSystem
import DomainAtlas.Log.Event

/-!
# The file of a report
-/
namespace DomainAtlas.Report

/-- Writes a report, in a directory that is made if it is not there: the files after it, and why it
failed. What was made stays when the report cannot be written. -/
def save (fs : FileSystem) (cwd : List String) (path : Path) (html : String) :
    FileSystem × Option OsError :=
  if path.parent.hasZero then (fs, some .zero)
  else
    match fs.mkdirs cwd path.parent with
    | (fs, some e) => (fs, some e)
    | (fs, none) =>
      if path.hasZero then (fs, some .zero) else fs.attempt (fs.write cwd path html.toUTF8)

/-- The event about a report that was written; its size is given in characters. -/
def savedEvent (path : Path) (html : String) : Log.Event :=
  .plain .info "report_written" [("path", .str path.text), ("bytes", .int html.length)]

end DomainAtlas.Report
