/-
PluginSweep/Lock/Basic.lean

The lock on a site.  A site may be tried out by one holder at a time: within a
process the holder takes a local lock, and among processes it locks a file
whose name is derived from the site.  Taking the lock is a sequence of single
steps, each of which can be refused; a refusal gives back what has been taken
before it.  The file stays, and holds the number of the process that locked it
last.
-/
import PluginSweep.Dialogue
import PluginSweep.FileSystem.Canonical
import PluginSweep.Lock.Digest
import PluginSweep.Tool.Basic

namespace PluginSweep

/-- An open file. -/
abbrev Handle := Nat

/-- A single step of taking or giving back the lock. -/
inductive LockStep
  /-- Take the local lock of the site, unless the process holds it. -/
  | takeLocal (site : String)
  /-- Open the lock file, making it if need be. -/
  | openFile (file : Path)
  /-- Lock the open file, unless another open file has it locked. -/
  | lockFile (handle : Handle)
  /-- Replace what the open file holds by the number of the process. -/
  | stamp (handle : Handle)
  /-- Give back the lock on the open file. -/
  | unlockFile (handle : Handle)
  /-- Close the open file. -/
  | closeFile (handle : Handle)
  /-- Give back the local lock of the site. -/
  | freeLocal (site : String)
  deriving DecidableEq, Repr

/-- What a step can bring. -/
abbrev LockStep.Reply : LockStep → Type
  | takeLocal _ => Bool
  | openFile _ => Except OsError Handle
  | lockFile _ => Except OsError Bool
  | stamp _ => Except OsError Unit
  | unlockFile _ => Unit
  | closeFile _ => Unit
  | freeLocal _ => Unit

/-- Steps of taking and giving back locks. -/
abbrev Locking := Dialogue LockStep LockStep.Reply

/-- Why a lock is not taken. -/
inductive LockError
  /-- The lock is held. -/
  | busy (f : StepFailure)
  /-- The lock file cannot be opened. -/
  | refused (e : OsError)
  deriving DecidableEq, Repr

/-- A lock that has been taken. -/
structure HeldLock where
  site : String
  file : Path
  handle : Handle
  deriving DecidableEq, Repr

namespace Lock

/-- The name of the lock file of a site. -/
def nameOf (site : String) : String :=
  "wpqa-probe-" ++ Digest.short site ++ ".lock"

/-- The lock file of a site. -/
def fileOf (dir : Path) (site : String) : Path :=
  dir.child (nameOf site)

/-- Does one step. -/
def perform (step : LockStep) : Locking step.Reply :=
  Dialogue.inquire step

/-! ### Taking the lock -/

/-- Gives back the local lock, which is all that has been taken. -/
def giveUp (site : String) (e : LockError) : Locking (Except LockError HeldLock) := do
  perform (LockStep.freeLocal site)
  pure (.error e)

/-- Closes the lock file, by which a lock on it goes as well, and gives back the local lock. -/
def withdraw (site : String) (handle : Handle) (e : LockError) :
    Locking (Except LockError HeldLock) := do
  perform (LockStep.closeFile handle)
  giveUp site e

/-- Goes on when the lock file is locked. -/
def stampFile (site : String) (file : Path) (handle : Handle) :
    Locking (Except LockError HeldLock) := do
  match ← perform (LockStep.stamp handle) with
  | .ok () => pure (.ok ⟨site, file, handle⟩)
  | .error e => withdraw site handle (.refused e)

/-- Goes on when the lock file is open. -/
def lockOpened (site : String) (file : Path) (handle : Handle) :
    Locking (Except LockError HeldLock) := do
  match ← perform (LockStep.lockFile handle) with
  | .ok true => stampFile site file handle
  | .ok false => withdraw site handle (.busy (.siteLocked site file.toString))
  | .error e => withdraw site handle (.refused e)

/-- Goes on when the local lock is taken. -/
def openLock (site : String) (file : Path) : Locking (Except LockError HeldLock) := do
  match ← perform (LockStep.openFile file) with
  | .ok handle => lockOpened site file handle
  | .error e => giveUp site (.refused e)

/-- Takes the lock of a site, the lock file being in `dir`. -/
def acquire (dir : Path) (site : String) : Locking (Except LockError HeldLock) := do
  if ← perform (LockStep.takeLocal site) then openLock site (fileOf dir site)
  else pure (.error (.busy (.siteBusy site)))

/-! ### Giving it back -/

/-- Gives back a lock. -/
def release (held : HeldLock) : Locking Unit := do
  perform (LockStep.unlockFile held.handle)
  perform (LockStep.closeFile held.handle)
  perform (LockStep.freeLocal held.site)

end Lock

end PluginSweep
