import DomainAtlas.Console.Markup
import DomainAtlas.Console.Table
import DomainAtlas.Index.Views

/-!
# The table of domains

A scan ends with a table of its domains: name, number of definitions, share and a bar. Bars grow with
the square root of the number, so that small domains stay visible next to large ones.
-/
namespace DomainAtlas.Console

/-- The usual length of the longest bar. -/
def defaultBarWidth : Nat := 20

/-- The length of the bar for a count, where the largest count has the longest bar. -/
def barLength (longest largest count : Nat) : Nat :=
  if largest = 0 then 0
  else
    let scaled := Double.mul (Double.ofInt longest) (Double.sqrtNat count)
    (Double.truncate (Double.div scaled (Double.sqrtNat largest))).toNat

def shareText (b : Bucket) : String := b.percentage.fixed 1 ++ "%"

/-- The columns of the table. Names may be marked up. -/
def domainColumns (longest : Nat) (buckets : List Bucket) :
    Except Markup.Fault (List Column) := do
  let names ← buckets.mapM fun b => Markup.plain b.domain.toList
  let largest := (buckets.map (·.count)).foldl max 0
  let bar (b : Bucket) : List Char := List.replicate (barLength longest largest b.count) '█'
  return [⟨names, .left, 0, 1, none⟩,
    ⟨buckets.map fun b => (toString b.count).toList, .right, 1, 1, none⟩,
    ⟨buckets.map fun b => (shareText b).toList, .right, 1, 1, none⟩,
    ⟨buckets.map bar, .left, 1, 0, some longest⟩]

/-- The table as it is printed on a terminal of some width. -/
def domainTable (columns longest : Nat) (buckets : List Bucket) : Except Markup.Fault String :=
  (domainColumns longest buckets).map fun cs => unlines (tableLines columns cs)

end DomainAtlas.Console
