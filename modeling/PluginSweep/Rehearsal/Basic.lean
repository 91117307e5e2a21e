/-
PluginSweep/Rehearsal/Basic.lean

Rehearsals: surroundings in which no tool is started.  Tools behave as they
would in a site with one plugin that can be turned on and off, unless a cue
says otherwise: a cue waits for a command and then gives the outcome, turns
the plugin on or off, or sends a signal.  Files can be made unreadable, and the
run can be told to end at a given moment.

Everything that a run does to its surroundings is kept: the commands, the
announcements, the warnings, and what was shown.
-/
import PluginSweep.CommandLine.Session
import PluginSweep.Lock.Table

namespace PluginSweep

namespace Rehearsal

/-- What is to happen at a command that has certain words and ends in a certain way. -/
structure Cue where
  words : List String := []
  ending : String := ""
  /-- At which of these commands it happens, counted from one, if not at all of them. -/
  occasion : Option Int := none
  signal : Option String := none
  /-- Turns the plugin on or off. -/
  turns : Option Bool := none
  /-- What comes of the command, if not the usual. -/
  outcome : Option Launch := none
  deriving Repr

/-- The cue waits for this command. -/
def Cue.awaits (c : Cue) (command : List String) : Bool :=
  c.words.all command.contains && (command.getLastD "").endsWith c.ending

/-- What is to happen in a run, apart from the outcomes of commands. -/
structure Script where
  /-- There is a site. -/
  installed : Bool := true
  /-- Files that cannot be read for a check, and why. -/
  unreadable : List (String × String) := []
  /-- Signals that arrive right before a file is read. -/
  signals : List (String × String) := []
  /-- Checks that cannot be carried out, and why. -/
  failingChecks : List (String × String) := []
  /-- Why files cannot be read to be shown. -/
  failingPreview : Option String := none
  /-- The announcement at which the run is told to end. -/
  endsAt : Option String := none
  deriving Repr

end Rehearsal

/-- The state of a rehearsal. -/
structure Rehearsal where
  script : Rehearsal.Script := {}
  /-- The cues, and how often each of them has met its command. -/
  cues : List (Rehearsal.Cue × Nat) := []
  /-- The plugin is turned on. -/
  active : Bool := false
  locks : LockTable
  commands : List (List String) := []
  warnings : List Warning := []
  announced : List String := []
  shown : List String := []
  /-- The run has been told to end. -/
  ending : Bool := false
  deriving Repr

namespace Rehearsal

/-! ### Signals -/

/-- Keeps a warning. -/
def warn (r : Rehearsal) (w : Warning) : Rehearsal :=
  { r with warnings := r.warnings ++ [w] }

/-- Keeps what is shown. -/
def display (r : Rehearsal) (text : String) : Rehearsal :=
  { r with shown := r.shown ++ [text] }

/-- Tells the run to end. -/
def tellToEnd (r : Rehearsal) : Rehearsal :=
  if r.ending then r else { r.warn .interrupted with ending := true }

/-- A signal arrives. -/
def signalled (r : Rehearsal) (signal : String) : Rehearsal :=
  (r.display (CommandLine.Session.signalNotice signal)).tellToEnd

/-! ### Tools -/

/-- A tool ended and wrote to its first stream only. -/
def said (code : Int) (out : String) : Launch :=
  .exited code (some out) (some "")

/-- The plugin has been turned on or off. -/
def turned (r : Rehearsal) (active : Bool) (slug word : String) : Launch × Rehearsal :=
  (said 0 ("Plugin '" ++ slug ++ "' " ++ word ++ ".\n"), { r with active })

/-- What usually comes of a command. -/
def usual (r : Rehearsal) (command : List String) : Launch × Rehearsal :=
  if command.any (·.startsWith "--standard=") then (said 0 "phpcs: no violations\n", r)
  else if command.contains "-l" then
    (said 0 ("No syntax errors detected in " ++ command.getLastD "" ++ "\n"), r)
  else match command.drop 2 with
    | "core" :: "is-installed" :: _ => (said (if r.script.installed then 0 else 1) "", r)
    | "plugin" :: "is-active" :: _ => (said (if r.active then 0 else 1) "", r)
    | "plugin" :: "activate" :: slug :: _ => r.turned true slug "activated"
    | "plugin" :: "deactivate" :: slug :: _ => r.turned false slug "deactivated"
    | "config" :: "set" :: _ => (said 0 "", r)
    | _ => (.exited 127 (some "") (some "unknown command\n"), r)

/-- The first cue that waits for the command and whose occasion it is; those before it have met
their command once more. -/
def choose (command : List String) : List (Cue × Nat) → Option Cue × List (Cue × Nat)
  | [] => (none, [])
  | (cue, met) :: rest =>
    if cue.awaits command then
      if cue.occasion.all (· == Int.ofNat (met + 1)) then (some cue, (cue, met + 1) :: rest)
      else
        let (chosen, rest) := choose command rest
        (chosen, (cue, met + 1) :: rest)
    else
      let (chosen, rest) := choose command rest
      (chosen, (cue, met) :: rest)

/-- What comes of a command on a cue. -/
def follow (r : Rehearsal) (cue : Cue) (command : List String) : Launch × Rehearsal :=
  let r := (cue.signal.map r.signalled).getD r
  let r := { r with active := cue.turns.getD r.active }
  match cue.outcome with
  | some launch => (launch, r)
  | none => r.usual command

/-- What comes of a command. -/
def launch (r : Rehearsal) (command : List String) : Launch × Rehearsal :=
  let (chosen, cues) := choose command r.cues
  let r := { r with commands := r.commands ++ [command], cues }
  match chosen with
  | some cue => r.follow cue command
  | none => r.usual command

/-! ### Replies -/

/-- The contents of a file, unless a reason is given why it cannot be read. -/
def contents (reason : Option String) (stored : Contents) : Contents :=
  match reason with
  | some text => .error (.stated text)
  | none => stored

/-- The process in which a rehearsed run takes place, as locks tell processes apart. -/
def process : Nat := 1

/-- Replies to a question. -/
def reply : (question : Request) → Rehearsal → question.Reply × Rehearsal
  | .launch command, r => r.launch command.words
  | .read file stored, r =>
    (contents (r.script.unreadable.lookup file.relpath) stored,
      ((r.script.signals.lookup file.relpath).map r.signalled).getD r)
  | .preview _ stored, r => (contents r.script.failingPreview stored, r)
  | .begin check, r => ((r.script.failingChecks.lookup check).map .stated, r)
  | .cancelled, r => (r.ending, r)
  | .announce message, r =>
    let r := { r with announced := r.announced ++ [message] }
    ((), if r.script.endsAt = some message then r.tellToEnd else r)
  | .print text, r => ((), r.display text)
  | .warn warning, r => ((), r.warn warning)
  | .lock step, r =>
    let (answer, locks) := r.locks.perform process step
    (answer, { r with locks })

/-- Runs work in the rehearsal. -/
def run {α : Type} (work : Asking α) (r : Rehearsal) : α × Rehearsal :=
  work.answer reply r

end Rehearsal

end PluginSweep
