/-
PluginSweep/Profile.lean

Profiles: which checks and which external tools a sweep runs, in which order,
which directories it leaves out, and whether it may try the plugin out in a
site.
-/
import PluginSweep.Check.Table

namespace PluginSweep

/-! ### Sets of names -/

/-- The names in increasing order, each once. -/
def sortedNames (names : List String) : List String :=
  (names.mergeSort fun a b => decide (a ≤ b)).eraseDups

/-! ### External tools -/

namespace Tool

/-- The check of PHP versions. -/
def compatibility : String := "php-compatibility"

/-- The check of coding standards. -/
def codingStandards : String := "wpcs"

/-- The syntax check of each file. -/
def lint : String := "php-lint"

/-- The titles of the tools. -/
def titles : List (String × String) := [
  (compatibility, "PHP Compatibility (phpcs PHPCompatibility)"),
  (codingStandards, "WordPress Coding Standards (phpcs WordPress)"),
  (lint, "PHP Syntax Lint")]

/-- The title of the tool of the given name. -/
def title? (name : String) : Option String :=
  titles.lookup name

end Tool

/-! ### Profiles -/

/-- Directories that are left out unless a profile says otherwise. -/
def defaultExclusions : List String :=
  ["node_modules", ".git", ".github", "vendor", "tests", "dist", "build"]

/-- What a sweep consists of. -/
structure Profile where
  name : String
  description : String := ""
  checks : List String
  tools : List String := []
  /-- The directory for reports where none is chosen. -/
  reportDirectory : String := "qa-reports"
  exclusions : List String := defaultExclusions
  /-- Extensions of the files that are scanned. -/
  sourceExtensions : List String := [".php"]
  /-- The plugin may be activated in a site. -/
  activation : Bool := false
  /-- The activation is repeated with debugging on. -/
  debugActivation : Bool := false
  deriving DecidableEq, Repr

namespace Profile

/-- The names of the directories that are left out, with `extra` ones. -/
def exclusionSet (p : Profile) (extra : List String) : List String :=
  sortedNames (p.exclusions ++ [p.reportDirectory] ++ extra)

/-- Everything: checks, tools and the trial in a site. -/
def full : Profile where
  name := "full"
  description := "Guards, phpcs, syntax lint, pattern scans and WP-CLI activation probe"
  checks := ["missing-abspath-guards", "uninstall-safety", "ajax-handlers", "public-ajax",
    "rest-routes", "nonces", "capability-checks", "sql-injection", "db-prepared",
    "file-operations", "remote-requests", "i18n-missing-textdomain", "i18n-loader",
    "high-risk-functions"]
  tools := [Tool.compatibility, Tool.codingStandards, Tool.lint]
  activation := true
  debugActivation := true

/-- Guards against direct access and the coding standards. -/
def minimal : Profile where
  name := "minimal"
  description := "Guards and phpcs only"
  checks := ["missing-abspath-guards"]
  tools := [Tool.compatibility, Tool.codingStandards]

/-- The checks that concern security, without external tools. -/
def security : Profile where
  name := "security"
  description := "Security pattern analysis, no external tools"
  checks := ["missing-abspath-guards", "high-risk-functions", "sql-injection", "db-prepared",
    "unescaped-output", "phpcs-ignore", "escaping", "user-input", "sanitization",
    "ajax-handlers", "public-ajax", "rest-routes", "nonces", "capability-checks",
    "deprecated-functions", "object-injection", "safe-unserialize", "hardcoded-credentials",
    "file-operations", "remote-requests", "uninstall-safety"]
  reportDirectory := "security-reports"

/-- The profiles that a command may name. -/
def table : List Profile := [full, minimal, security]

/-- The profile of the given name. -/
def find? (name : String) : Option Profile :=
  table.find? (·.name == name)

end Profile

end PluginSweep
