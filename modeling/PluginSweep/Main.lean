/-
PluginSweep/Main.lean

The program, for a machine that starts tools for it and passes on signals
(`Host`).  It takes in the part of the disk that the command line is about,
carries the session out, shows what the session shows, and changes the disk as
the session changed its tree.  Locks are taken on the disk itself, while the
session goes on.
-/
import PluginSweep.CommandLine.Disk
import PluginSweep.CommandLine.Session
import Std.Time.Format
import Std.Time.Zoned

namespace PluginSweep.Program

open CommandLine

/-- The machine on which the program runs. -/
structure Host where
  /-- Starts a tool, waits for it, and tells what came of it. -/
  launch : Command → IO Execution
  /-- A signal has arrived by which the run is told to end. -/
  interrupted : IO Bool
  /-- The number of the process. -/
  process : Nat

/-- The directory for lock files. -/
def lockDirectory : Path := ⟨"/", ["tmp"]⟩

/-! ### Locks -/

/-- What the process holds of locks. -/
structure Holding where
  sites : List String := []
  opened : List (Handle × IO.FS.Handle) := []
  /-- No open file has this handle or a later one. -/
  nextHandle : Handle := 0

/-- A refusal by the disk. -/
def refusal (e : IO.Error) : OsError := .stated (toString e)

/-- Does something with an open file. -/
def withOpened {α : Type} (handle : Handle) (work : IO.FS.Handle → IO α) :
    StateT Holding IO (Except OsError α) := do
  match (← get).opened.lookup handle with
  | some file => match ← (work file).toBaseIO with
    | .ok a => pure (.ok a)
    | .error e => pure (.error (refusal e))
  | none => pure (.error (.stated "[Errno 9] Bad file descriptor"))

/-- Takes a step towards a lock or away from it. -/
def takeStep (host : Host) : (step : LockStep) → StateT Holding IO step.Reply
  | .takeLocal site => do
    let held ← get
    if held.sites.contains site then pure false
    else
      set { held with sites := site :: held.sites }
      pure true
  | .openFile file => do
    match ← (IO.FS.Handle.mk file.toString .append).toBaseIO with
    | .error e => pure (.error (refusal e))
    | .ok opened =>
      let held ← get
      set { held with
        opened := (held.nextHandle, opened) :: held.opened
        nextHandle := held.nextHandle + 1 }
      pure (.ok held.nextHandle)
  | .lockFile handle => withOpened handle fun file => file.tryLock
  | .stamp handle => withOpened handle fun file => do
    file.rewind
    file.truncate
    file.putStr (Text.decimal host.process)
    file.flush
  | .unlockFile handle => do
    let _ ← withOpened handle fun file => file.unlock
  | .closeFile handle => modify fun held =>
    { held with opened := held.opened.filter (·.1 != handle) }
  | .freeLocal site => modify fun held => { held with sites := held.sites.filter (· != site) }

/-! ### The session -/

/-- Takes in what a command line is about. -/
def takeIn (env : Environment) (invocation : Invocation) (i : Intake) : IO Intake := do
  let .sweep o := invocation | return i
  let i ← i.given true o.plugin
  let i ← (o.siteRoot.toList ++ o.reportBase.toList ++ [env.reportBase]).foldlM
    (fun i text => i.given false text) i
  match Target.resolve i.tree o.plugin with
  | .error _ => return i
  | .ok target => match Session.settings env i.tree o target with
    | .ok s => i.path true s.reportDirectory
    | .error _ => return i

/-- Replies to a question. -/
def reply (host : Host) : (question : Request) → StateT Holding IO question.Reply
  | .launch command => do pure (← host.launch command).launch
  | .read _ stored => pure stored
  | .preview _ stored => pure stored
  | .begin _ => pure none
  | .cancelled => host.interrupted
  | .announce _ => pure ()
  | .print text => IO.println text
  | .warn warning => IO.eprintln warning.text
  | .lock step => takeStep host step

/-- The commands, for a user who asks for help. -/
def help : String :=
  "Commands:\n" ++
  "  full PLUGIN      runs all checks and tools and tries the plugin out\n" ++
  "  minimal PLUGIN   runs the guards and the coding standards\n" ++
  "  security PLUGIN  runs the checks that concern security\n" ++
  "  rules            lists the checks of a profile\n" ++
  "  version          tells the version"

/-- What is said of a session that broke off. -/
def complain : Ending → IO Unit
  | .exit _ => pure ()
  | .broken failure => IO.eprintln failure.message

/-- Does what the words of the command line ask for, and ends with the exit code. -/
def start (host : Host) (words : List String) : IO UInt32 := do
  let invocation ← match Console.parse words with
    | .ok invocation => pure invocation
    | .error e =>
      IO.eprintln e.message
      return 1
  if let .help := invocation then IO.println help
  let now ← Std.Time.PlainDateTime.now
  let env : Environment := {
    reportBase := (← IO.getEnv "WPQA_REPORT_DIR").getD ""
    time := now.format "uuuu-MM-dd HH:mm:ss"
    lockDirectory }
  let cwd := (Path.ofString (← IO.currentDir).toString).names
  let bare : FileSystem := {
    entries := []
    cwd
    homes := (← IO.getEnv "HOME").toList.map fun home => ("", home) }
  let i ← ({ tree := bare } : Intake).path false (FileSystem.pathOf cwd)
  let i ← takeIn env invocation i
  let work := (CommandLine.run env words).run i.tree
  let ((ending, tree), _) ← (work.carryOut (reply host)).run {}
  carryOver i.tree tree
  complain ending
  return UInt32.ofNat ending.code

end PluginSweep.Program
