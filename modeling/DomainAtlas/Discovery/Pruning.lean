import DomainAtlas.Text.Casing

/-!
# Directories that are skipped by name

Version-control directories are never entered. Dependency, cache and editor directories and test
directories are skipped unless an ignore file at the root lifts that.
-/
namespace DomainAtlas

/-- Directories that are never entered. -/
def hardcodedDirs : List String := [".git", ".svn", ".hg", ".bzr"]

/-- Directories skipped by default. -/
def defaultPrunableDirs : List String :=
  ["node_modules", "vendor", "bower_components", ".npm", ".yarn", ".pnpm-store", ".cache", ".turbo",
    ".next", ".nuxt", ".phpunit.cache", ".php-cs-fixer.cache", ".idea", ".vscode"]

/-- Names of test directories, in lower case. -/
def testDirNames : List String := ["test", "tests"]

/-- Whether a directory is never entered. -/
def isHardcodedDir (name : String) : Bool := hardcodedDirs.contains name

/-- Whether a directory holds tests, whatever the case of its letters. -/
def isTestDir (name : String) : Bool := testDirNames.contains (Text.lowerAscii name)

/-- Whether a directory is skipped unless that is lifted. -/
def isDefaultPrunable (name : String) : Bool := defaultPrunableDirs.contains name || isTestDir name

end DomainAtlas
