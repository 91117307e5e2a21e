/-
PluginSweep/Tool/Lint.lean

The syntax check of each file.  A file for which the checker does not run is
named with the reason, and the next file follows; only when the checker ran
for no file at all is the whole step a failure, for the last of the reasons.
-/
import PluginSweep.Request

namespace PluginSweep

/-- What the syntax check brings: the files with errors, and the files that were not checked
with the reasons. -/
structure LintOutcome where
  failing : List String := []
  unchecked : List String := []
  deriving DecidableEq, Repr

/-- One when some file has errors or was not checked. -/
def LintOutcome.exitCode (o : LintOutcome) : Int :=
  if o.failing.isEmpty && o.unchecked.isEmpty then 0 else 1

namespace Lint

/-- How far the syntax check has come. -/
structure Progress where
  outcome : LintOutcome := {}
  /-- Some file was checked. -/
  checked : Bool := false
  /-- The last reason for not checking a file. -/
  lastFailure : Option StepFailure := none
  deriving DecidableEq, Repr

/-- Takes note of what came of one file. -/
def Progress.note (p : Progress) (file : Candidate) :
    Except StepFailure ToolResult → Progress
  | .ok r =>
    { p with
      checked := true
      outcome := { p.outcome with
        failing := p.outcome.failing ++ if r.ok then [] else [file.relpath] } }
  | .error f =>
    { p with
      lastFailure := some f
      outcome := { p.outcome with
        unchecked := p.outcome.unchecked ++ [file.relpath ++ ": " ++ f.message] } }

/-- The command that checks a file. -/
def command (binary : String) (file : Candidate) : Command :=
  .lint binary file.path.toString

/-- Checks the files in turn. -/
def checkFiles (seconds : Int) (binary : String) :
    List Candidate → Progress → Asking (Except LaunchError Progress)
  | [], p => pure (.ok p)
  | file :: rest, p => do
    match ← Asking.launch seconds (command binary file) with
    | .error .undecodable => pure (.error .undecodable)
    | .error (.failure f) =>
      Asking.warn (.lintSkipped file.relpath f.message)
      checkFiles seconds binary rest (p.note file (.error f))
    | .ok r => checkFiles seconds binary rest (p.note file (.ok r))

/-- What the syntax check amounts to. -/
def Progress.result (p : Progress) : Except LaunchError LintOutcome :=
  match p.checked, p.lastFailure with
  | false, some f => .error (.failure f)
  | _, _ => .ok p.outcome

/-- Checks the syntax of all files. -/
def run (seconds : Int) (binary : String) (files : List Candidate) :
    Asking (Except LaunchError LintOutcome) := do
  pure ((← checkFiles seconds binary files {}).bind Progress.result)

end Lint

end PluginSweep
