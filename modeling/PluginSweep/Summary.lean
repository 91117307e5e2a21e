/-
PluginSweep/Summary.lean

What a run amounts to: its sections, the size of the plugin, and what came of
trying the plugin out.
-/
import PluginSweep.Section
import PluginSweep.Target
import PluginSweep.Walk

namespace PluginSweep

/-- What came of trying a plugin out in a site. -/
structure ProbeResult where
  passed : Bool
  /-- The plugin was active before. -/
  wasActive : Bool := false
  /-- One line for each step. -/
  steps : List String := []
  /-- What the activation printed with debugging on. -/
  debugOutput : String := ""
  deriving DecidableEq, Repr

/-- What a run amounts to. -/
structure Summary where
  target : Target
  profile : String
  exclusions : List String := []
  sections : List Section := []
  statistics : Statistics := {}
  /-- Why the plugin must not be executed, if it must not. -/
  skipReason : Option String := none
  probe : Option ProbeResult := none
  /-- The run was told to end before it was through. -/
  interrupted : Bool := false
  deriving DecidableEq, Repr

namespace Summary

/-- Sections whose findings are to be acted upon. -/
def issues (s : Summary) : List Section :=
  s.sections.filter (·.severity != .info)

/-- Sections whose findings are good to know. -/
def measures (s : Summary) : List Section :=
  s.sections.filter (·.severity == .info)

/-- How many findings are to be acted upon. -/
def totalFindings (s : Summary) : Nat :=
  s.issues.foldl (fun total made => total + made.count) 0

/-- The steps that failed. -/
def failures (s : Summary) : List Section :=
  s.sections.filter Section.failed

/-- There were steps, and every one failed. -/
def allFailed (s : Summary) : Bool :=
  !s.sections.isEmpty && s.sections.all Section.failed

/-- The section of the given name. -/
def section? (s : Summary) (name : String) : Option Section :=
  s.sections.find? (·.name == name)

end Summary

end PluginSweep
