/-
PluginSweep/Request.lean

What a sweep asks of its surroundings.  The tree of files is part of a
sweep's own state; all else comes from outside: what external tools answer,
whether a file can be read at the moment at which it is read, whether the run
has been told to end, and who holds the lock on a site.

A question about a file says what the tree holds there; the surroundings may
reply with that, or with something else.
-/
import PluginSweep.Finding
import PluginSweep.Lock.Basic
import PluginSweep.Warning

namespace PluginSweep

/-- What a file held, or why it could not be read. -/
abbrev Contents := Except OsError (List UInt8)

/-- A question or a message to the surroundings. -/
inductive Request
  /-- Start a tool. -/
  | launch (command : Command)
  /-- Read a file that is to be scanned. -/
  | read (file : Candidate) (stored : Contents)
  /-- Read a file that is to be shown. -/
  | preview (path : Path) (stored : Contents)
  /-- Begin with a check. -/
  | begin (check : String)
  /-- Has the run been told to end? -/
  | cancelled
  /-- What is being done now. -/
  | announce (message : String)
  /-- Show a text to the user. -/
  | print (text : String)
  | warn (warning : Warning)
  /-- Take a step towards the lock of a site or away from it. -/
  | lock (step : LockStep)
  deriving Repr

/-- What the surroundings reply. -/
abbrev Request.Reply : Request → Type
  | launch _ => Launch
  | read _ _ => Contents
  | preview _ _ => Contents
  | begin _ => Option OsError
  | cancelled => Bool
  | announce _ => Unit
  | print _ => Unit
  | warn _ => Unit
  | lock step => step.Reply

/-- Work that asks its surroundings. -/
abbrev Asking := Dialogue Request Request.Reply

namespace Asking

/-- Asks one question. -/
def request (r : Request) : Asking r.Reply :=
  Dialogue.inquire r

/-- Gives a warning. -/
def warn (w : Warning) : Asking Unit :=
  request (Request.warn w)

/-- Gives several warnings. -/
def warnAll : List Warning → Asking Unit
  | [] => pure ()
  | w :: rest => do
    warn w
    warnAll rest

/-- Says what is being done. -/
def announce (message : String) : Asking Unit :=
  request (Request.announce message)

/-- Shows a text to the user. -/
def print (text : String) : Asking Unit :=
  request (Request.print text)

/-- Has the run been told to end? -/
def cancelled : Asking Bool :=
  request Request.cancelled

/-- Takes the steps of a lock. -/
def locking {α : Type} (steps : Locking α) : Asking α :=
  steps.carryOut fun step => request (Request.lock step)

/-- Starts a tool, which has the given seconds. -/
def launch (seconds : Int) (c : Command) : Asking (Except LaunchError ToolResult) := do
  let launched : Launch ← request (Request.launch c)
  pure (launched.result seconds c)

end Asking

end PluginSweep
