/-
PluginSweep/Check/Basic.lean

Checks: groups of rules that are reported together.  A check scans the files
one after the other, reading each at most once and only when some rule applies
to it; the findings are then put in the order of the rules.  A file that
cannot be read is named with the reason, and the scan goes on.
-/
import PluginSweep.OsError
import PluginSweep.Rule
import PluginSweep.Warning

namespace PluginSweep

/-- A group of rules that make up one section of the report. -/
structure Check where
  name : String
  title : String
  severity : Severity
  rules : List Rule := []
  description : String := ""
  deriving Repr

/-- What a scan over several files brings: the findings, and for every file that could not
be read its path and the reason. -/
structure Scan where
  findings : List Finding := []
  skipped : List String := []
  deriving DecidableEq, Repr

namespace Check

/-- The rules that apply to files with the extension. -/
def rulesFor (check : Check) (extension : String) (default : List String) : List Rule :=
  check.rules.filter (·.appliesTo extension default)

/-- The findings in the order of the rules; what several rules of one name find is kept
under each of them. -/
def inRuleOrder (check : Check) (found : List Finding) : List Finding :=
  check.rules.flatMap fun r => found.filter (·.rule == r.name)

/-- The entry for a file that could not be read. -/
def skippedEntry (relpath : String) (error : OsError) : String :=
  relpath ++ ": " ++ error.message

variable {m : Type → Type} [Monad m]

/-- Scans the files in turn, adding to what has been found before. -/
def scanFiles (check : Check) (default : List String)
    (read : Candidate → m (Except OsError String)) (warn : Warning → m Unit) :
    List Candidate → Scan → m Scan
  | [], scan => pure scan
  | file :: files, scan => do
    let rules := check.rulesFor file.extension default
    if rules.isEmpty then
      scanFiles check default read warn files scan
    else match ← read file with
      | .error e =>
        warn (.fileSkipped file.relpath e.message)
        scanFiles check default read warn files
          { scan with skipped := scan.skipped ++ [skippedEntry file.relpath e] }
      | .ok text =>
        scanFiles check default read warn files
          { scan with findings := scan.findings ++ rules.flatMap (·.scan file.relpath text) }

/-- Applies every rule of the check to the files. -/
def scan (check : Check) (files : List Candidate) (default : List String)
    (read : Candidate → m (Except OsError String)) (warn : Warning → m Unit) : m Scan := do
  let scan ← check.scanFiles default read warn files {}
  pure { scan with findings := check.inRuleOrder scan.findings }

end Check

variable {m : Type → Type} [Monad m]

/-- Applies one rule to one file; a file that cannot be read has no findings. -/
def Rule.scanFile (r : Rule) (file : Candidate) (default : List String)
    (read : Candidate → m (Except OsError String)) (warn : Warning → m Unit) :
    m (List Finding) := do
  if r.appliesTo file.extension default then
    match ← read file with
    | .error e =>
      warn (.fileSkipped file.relpath e.message)
      pure []
    | .ok text => pure (r.scan file.relpath text)
  else pure []

end PluginSweep
