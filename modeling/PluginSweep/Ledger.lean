/-
PluginSweep/Ledger.lean

The sections of a run, in the order in which they are recorded.  A name is
recorded once; recording it again is refused and changes nothing.

The ledger also tells whether the plugin may be executed: the section on
high-risk functions must not have findings, must not have failed, and must not
have left out a file.
-/
import PluginSweep.Section

namespace PluginSweep

/-- The sections recorded so far. -/
structure Ledger where
  sections : List Section := []
  deriving DecidableEq, Repr

/-- A section of this name has been recorded. -/
structure AlreadyRecorded where
  name : String
  deriving DecidableEq, Repr

/-- The wording of the refusal. -/
def AlreadyRecorded.message (e : AlreadyRecorded) : String :=
  "Section already recorded: " ++ e.name

/-- What stands against executing a plugin. -/
inductive Obstacle
  | highRiskFound
  | scanFailed
  | scanIncomplete
  deriving DecidableEq, Repr

/-- The wording of an obstacle. -/
def Obstacle.reason : Obstacle → String
  | highRiskFound => "high-risk functions detected"
  | scanFailed => "high-risk scan did not complete"
  | scanIncomplete => "high-risk scan incomplete, files could not be read"

namespace Ledger

/-- The section of the given name. -/
def get? (l : Ledger) (name : String) : Option Section :=
  l.sections.find? (·.name == name)

/-- Records a section. -/
def record (l : Ledger) (s : Section) : Except AlreadyRecorded Ledger :=
  match l.get? s.name with
  | some _ => .error ⟨s.name⟩
  | none => .ok ⟨l.sections ++ [s]⟩

/-- How many findings the section of the given name has. -/
def count (l : Ledger) (name : String) : Nat :=
  ((l.get? name).map Section.count).getD 0

/-- How many findings there are. -/
def total (l : Ledger) : Nat :=
  l.sections.foldl (fun total made => total + made.count) 0

/-- The sections with critical findings. -/
def critical (l : Ledger) : List Section :=
  l.sections.filter fun s => s.severity == .critical && s.count != 0

/-- What the section on high-risk functions has against executing the plugin. -/
def obstacleIn (s : Section) : Option Obstacle :=
  if s.count > 0 then some .highRiskFound
  else if s.failed then some .scanFailed
  else if !s.skipped.isEmpty then some .scanIncomplete
  else none

/-- What stands against executing the plugin. -/
def obstacle (l : Ledger) : Option Obstacle :=
  (l.get? Check.highRiskName).bind obstacleIn

end Ledger

end PluginSweep
