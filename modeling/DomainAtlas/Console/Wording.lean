/-!
# Wording of counts
-/
namespace DomainAtlas

/-- A count with its noun: `1 file`, `3 files`. -/
def pluralize (count : Int) (singular plural : String) : String :=
  s!"{count} " ++ (if count = 1 then singular else plural)

/-- A count with a noun that takes an s. -/
def counted (count : Int) (noun : String) : String := pluralize count noun (noun ++ "s")

end DomainAtlas
