/-
PluginSweep/Section.lean

Sections of a report.  A section holds what one check or one external tool
brought: findings and the files that could not be scanned, or the output of
the tool, or the reason why there is neither.
-/
import PluginSweep.Check.Table

namespace PluginSweep

/-- What one check or one tool brought. -/
structure Section where
  name : String
  title : String
  severity : Severity
  findings : List Finding := []
  /-- Lines that stand before everything else. -/
  notes : List String := []
  /-- Files that were not scanned, with the reasons. -/
  skipped : List String := []
  /-- Why the step failed, if it did. -/
  error : Option String := none
  /-- The output of a tool. -/
  rawOutput : Option String := none
  /-- The exit code of a tool. -/
  exitCode : Option Int := none
  /-- The name of the file that holds the section, once it is written. -/
  artifact : String := ""
  deriving DecidableEq, Repr

namespace Section

/-! ### The three kinds of sections -/

/-- The section of a check that was completed. -/
def ofScan (check : Check) (findings : List Finding) (notes skipped : List String) : Section where
  name := check.name
  title := check.title
  severity := check.severity
  findings
  notes
  skipped

/-- The section of a tool that ran. -/
def ofOutput (name title output : String) (exitCode : Int) : Section where
  name
  title
  severity := .review
  rawOutput := some output
  exitCode := some exitCode

/-- The section of a step that failed. -/
def ofFailure (name title : String) (severity : Severity) (error : String) : Section where
  name
  title
  severity
  error := some error

/-! ### Reading a section -/

/-- How many findings the section has. -/
def count (s : Section) : Nat := s.findings.length

/-- The step failed. -/
def failed (s : Section) : Bool := s.error.isSome

/-- The section holds the output of a tool. -/
def isToolOutput (s : Section) : Bool := s.rawOutput.isSome

/-- How the section is rated in tables. -/
def severityLabel (s : Section) : String :=
  if s.failed then "Error"
  else if s.isToolOutput then if s.exitCode = some 0 then "OK" else "Review"
  else if s.count = 0 then "OK"
  else s.severity.label

/-- The number of findings as tables show it; without findings to count there is none. -/
def countCell (s : Section) : String :=
  if s.failed || s.isToolOutput then "-" else Text.decimal s.count

/-- The warnings that go with recording the section. -/
def warnings (s : Section) : List Warning :=
  match s.error with
  | some e => [.sectionFailed s.name e]
  | none => if s.skipped.isEmpty then [] else [.filesUnscanned s.name s.skipped.length]

end Section

end PluginSweep
