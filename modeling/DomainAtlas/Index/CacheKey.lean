import DomainAtlas.Digest.Sha256
import DomainAtlas.Path
import DomainAtlas.Text.Utf8

/-!
# Cache keys

A cache key identifies a scan: the absolute root, the version of the tool and whether references
are collected. The three are joined with zero bytes between them and digested.
-/
namespace DomainAtlas

def toolVersion : String := "0.1.0"

/-- The text a cache key is the digest of. -/
def cacheKeyText (root : Path) (trackUsages : Bool) : String :=
  root.text ++ "\x00" ++ toolVersion ++ "\x00" ++ (if trackUsages then "usages" else "definitions")

/-- The key of a scan of an absolute root. -/
def cacheKey (root : Path) (trackUsages : Bool) : String :=
  Sha256.hex (Text.encode (cacheKeyText root trackUsages)).toList

end DomainAtlas
