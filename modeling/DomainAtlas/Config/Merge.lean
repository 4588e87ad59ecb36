import DomainAtlas.Datum

/-!
# Merging settings

Settings from several sources are laid over one another: where both sides have a mapping the two
are merged entry by entry, anywhere else the upper side wins whole. Entries of the lower side keep
their places; new ones follow in their own order.
-/
namespace DomainAtlas

/-- The value at a key of a mapping. -/
def Datum.find? (key : Datum) : List (Datum × Datum) → Option Datum
  | [] => none
  | (k, v) :: rest => if Datum.sameKey k key then some v else Datum.find? key rest

mutual

/-- Lays a value over another. -/
def overlay (lower : Datum) : Datum → Datum
  | .map upper =>
    match lower with
    | .map es => .map (overlayEntries es upper)
    | _ => .map upper
  | upper => upper

/-- Lays the entries of a mapping over another mapping. -/
def overlayEntries (lower : List (Datum × Datum)) : List (Datum × Datum) → List (Datum × Datum)
  | [] => lower
  | (k, v) :: rest =>
    let merged := match Datum.find? k lower with
      | some old => overlay old v
      | none => v
    overlayEntries (Datum.setEntry k merged lower) rest

end

end DomainAtlas
