/-
PluginSweep/FileSystem/Change.lean

Changes of a file system: making directories, writing files, removing
entries.  A change that is refused leaves the changes before it in place, so
the refusal is kept beside the state and not in its stead.
-/
import PluginSweep.FileSystem.Basic

namespace PluginSweep

/-- Work on a file system that may be refused. -/
abbrev FileWork := ExceptT OsError (StateM FileSystem)

namespace FileSystem

/-- The file system with the node at the location, in the place of what was there or
after all else. -/
def put (fs : FileSystem) (loc : Location) (node : Node) : FileSystem :=
  if fs.entries.any (·.1 == loc) then
    { fs with entries := fs.entries.map fun e => if e.1 == loc then (loc, node) else e }
  else { fs with entries := fs.entries ++ [(loc, node)] }

/-- The file system without the entry at the location. -/
def remove (fs : FileSystem) (loc : Location) : FileSystem :=
  { fs with entries := fs.entries.filter (·.1 != loc) }

/-- A path that holds a NUL names nothing. -/
def admits (p : Path) : Bool :=
  !p.toString.toList.contains '\x00'

/-- Makes a directory where nothing is. -/
def makeDirectory (p : Path) : FileWork Unit := do
  let fs ← get
  if !admits p then throw .nulInPath
  match fs.trace .entry p with
  | .error cause => throw (.about cause p.toString)
  | .ok loc => match fs.node? loc with
    | some _ => throw (.about .alreadyThere p.toString)
    | none => set (fs.put loc .directory)

/-- Makes a directory; one that is there already will do. -/
def ensureDirectory (p : Path) : FileWork Unit :=
  tryCatch (makeDirectory p) fun e => do
    if !(← get).isDirectory p then throw e

/-- Makes a directory and those above it, as far as they are missing; `above` counts the
directories above it. -/
def ensurePathFrom : (above : Nat) → Path → FileWork Unit
  | 0, p => ensureDirectory p
  | above + 1, p =>
    tryCatch (makeDirectory p) fun e => do
      if e = .about .noEntry p.toString then
        ensurePathFrom above p.parent
        ensureDirectory p
      else if !(← get).isDirectory p then throw e

/-- Makes a directory and those above it, as far as they are missing. -/
def ensurePath (p : Path) : FileWork Unit :=
  ensurePathFrom p.names.length p

/-- Writes a file, in the place of what it held before. -/
def write (p : Path) (bytes : List UInt8) : FileWork Unit := do
  let fs ← get
  if !admits p then throw .nulInPath
  match fs.trace .file p with
  | .error cause => throw (.about cause p.toString)
  | .ok loc => match fs.node? loc with
    | some .directory => throw (.about .isDirectory p.toString)
    | _ => set (fs.put loc (.file bytes))

/-- Removes a file or a link. -/
def unlink (p : Path) : FileWork Unit := do
  let fs ← get
  match fs.trace .entry p with
  | .error cause => throw (.about cause p.toString)
  | .ok loc => match fs.node? loc with
    | none => throw (.about .noEntry p.toString)
    | some .directory => throw (.about .isDirectory p.toString)
    | some _ => set (fs.remove loc)

/-- Tells whether a path leads to a file, which cannot be told of a path that is too long. -/
def testFile (p : Path) : FileWork Bool := do
  let fs ← get
  match fs.locate p with
  | .error .nameTooLong => throw (.about .nameTooLong p.toString)
  | _ => pure (fs.isFile p)

/-- The names in a directory. -/
def listing (p : Path) : FileWork (List String) := do
  match (← get).list p with
  | .ok names => pure names
  | .error e => throw e

end FileSystem

end PluginSweep
