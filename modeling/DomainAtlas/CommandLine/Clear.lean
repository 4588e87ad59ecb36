import DomainAtlas.CommandLine.Desk

/-!
# Clearing the cache

The cache is removed after the user has agreed to it; the next scan then reads every source file.
-/
namespace DomainAtlas.CommandLine

open DomainAtlas.CommandLine.Action

/-- What the user is asked before a cache is removed. -/
def clearQuestion (path : Path) : String :=
  s!"Delete {path.text}? The next scan will re-read every source file."

/-- Removes a cache file, unless removals fail. -/
def Surroundings.removeCache (s : Surroundings) (cache : ScanCache) (fs : FileSystem) :
    Except OsError (Bool × FileSystem) :=
  match s.clearFails with
  | some e => .error e
  | none => cache.clear fs

/-- Removes the cache at a path. `yes` skips the question. The result says whether it is gone. -/
def clearCache (path : Path) (yes : Bool) : Action Bool := do
  let s ← read
  let cache : ScanCache := ⟨s.cwd, path⟩
  if !cache.exists? (← files) then
    tell s!"[yellow]Nothing to clear[/yellow] - no cache at {path.text}"
    return false
  if !yes then
    if !(← ask (clearQuestion path)) then
      tell "[dim]Cancelled[/dim]"
      return false
  let fs ← files
  match s.removeCache cache fs with
  | .error e =>
    tell s!"  [red]✗[/red] Failed to remove {path.text}: {e.message}"
    return false
  | .ok (removed, fs) =>
    setFiles fs
    if removed then note cache.clearedEvent
    tell s!"  [green]✓[/green] Removed {path.text}"
    return true

end DomainAtlas.CommandLine
