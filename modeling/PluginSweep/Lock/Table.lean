/-
PluginSweep/Lock/Table.lean

What the steps of the lock act on.  Each process has local locks of its own;
open files belong to a process; and of all open files that lead to one
location at most one has the file locked.  A step of one process is taken as a
whole, steps of different holders may follow each other in any order.
-/
import PluginSweep.Lock.Basic

namespace PluginSweep

/-- An open file, and the process that opened it. -/
structure OpenFile where
  handle : Handle
  process : Nat
  location : Location
  deriving DecidableEq, Repr

/-- The local locks, the open files and the locks on files. -/
structure LockTable where
  files : FileSystem
  /-- The sites whose local locks are taken, each with the process. -/
  locals : List (Nat × String) := []
  opened : List OpenFile := []
  /-- The open files that have their file locked. -/
  locked : List Handle := []
  /-- No open file has this handle or a later one. -/
  nextHandle : Handle := 0
  deriving DecidableEq, Repr

namespace LockTable

/-- The location of an open file. -/
def locationOf? (t : LockTable) (handle : Handle) : Option Location :=
  (t.opened.find? (·.handle == handle)).map (·.location)

/-- Whether another open file has the file at the location locked. -/
def lockedElsewhere (t : LockTable) (handle : Handle) (loc : Location) : Bool :=
  t.opened.any fun f => f.handle != handle && f.location == loc && t.locked.contains f.handle

/-- Opens a file for a process, making it if it is missing. -/
def openFile (t : LockTable) (process : Nat) (file : Path) :
    Except OsError Handle × LockTable :=
  if !FileSystem.admits file then (.error .nulInPath, t)
  else match t.files.trace .file file with
  | .error cause => (.error (.about cause file.toString), t)
  | .ok loc =>
    let opened (files : FileSystem) : Except OsError Handle × LockTable :=
      (.ok t.nextHandle, { t with
        files
        opened := t.opened ++ [⟨t.nextHandle, process, loc⟩]
        nextHandle := t.nextHandle + 1 })
    match t.files.node? loc with
    | some .directory => (.error (.about .isDirectory file.toString), t)
    | some _ => opened t.files
    | none => opened (t.files.put loc (.file []))

/-- The refusal of a handle that no open file has. -/
def badHandle : OsError := .stated "[Errno 9] Bad file descriptor"

/-- Takes a step on behalf of a process. -/
def perform (process : Nat) : (step : LockStep) → LockTable → step.Reply × LockTable
  | .takeLocal site, t =>
    if t.locals.contains (process, site) then (false, t)
    else (true, { t with locals := (process, site) :: t.locals })
  | .openFile file, t => t.openFile process file
  | .lockFile handle, t =>
    match t.locationOf? handle with
    | some loc =>
      if t.lockedElsewhere handle loc then (.ok false, t)
      else (.ok true, { t with locked := handle :: t.locked.filter (· != handle) })
    | none => (.error badHandle, t)
  | .stamp handle, t =>
    match t.locationOf? handle with
    | some loc =>
      (.ok (), { t with files := t.files.put loc (.file (Text.encode (Text.decimal process))) })
    | none => (.error badHandle, t)
  | .unlockFile handle, t => ((), { t with locked := t.locked.filter (· != handle) })
  | .closeFile handle, t =>
    ((), { t with
      opened := t.opened.filter (·.handle != handle)
      locked := t.locked.filter (· != handle) })
  | .freeLocal site, t => ((), { t with locals := t.locals.filter (· != (process, site)) })

/-- A process ends: its open files are closed, and its local locks are no more. -/
def endProcess (t : LockTable) (process : Nat) : LockTable :=
  let closed := (t.opened.filter (·.process == process)).map (·.handle)
  { t with
    locals := t.locals.filter (·.1 != process)
    opened := t.opened.filter (·.process != process)
    locked := t.locked.filter (!closed.contains ·) }

end LockTable

end PluginSweep
