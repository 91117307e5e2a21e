/-
PluginSweep/Finding.lean

Findings, the files in which they are made, and how grave they are.
-/
import PluginSweep.Path
import PluginSweep.Text.Column

namespace PluginSweep

/-- How grave the findings of a check are.  Any word may stand for a severity; three of
them have a meaning. -/
structure Severity where
  word : String
  deriving DecidableEq, Repr

namespace Severity

/-- Worth knowing; does not count as a finding. -/
def info : Severity := ⟨"info"⟩

/-- To be looked at. -/
def review : Severity := ⟨"review"⟩

/-- To be mended. -/
def critical : Severity := ⟨"critical"⟩

/-- The severity as reports show it. -/
def label (s : Severity) : String :=
  if s = info then "Info"
  else if s = review then "Review"
  else if s = critical then "Critical"
  else s.word

end Severity

/-- A file to be scanned: where it is, its path within the plugin, and its extension in
lower case. -/
structure Candidate where
  path : Path
  relpath : String
  extension : String
  deriving DecidableEq, Repr

/-- One located occurrence of what a rule looks for; without a line, it concerns the file
as a whole. -/
structure Finding where
  rule : String
  path : String
  line : Option Int
  text : String
  deriving DecidableEq, Repr

/-- The finding as one line of a report. -/
def Finding.render (f : Finding) : String :=
  match f.line with
  | none => f.path ++ ": " ++ f.text
  | some n => f.path ++ ":" ++ Text.integer n ++ ": " ++ f.text

end PluginSweep
