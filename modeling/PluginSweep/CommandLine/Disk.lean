/-
PluginSweep/CommandLine/Disk.lean

The disk behind a session.  A session works on a tree of files that it holds
as a whole, so before it starts the part of the disk that it can touch is taken
in, and what it changed is carried out on the disk when it is over.

A place is taken in with the directories above it and with everything that a
link on the way to it leads to.  Links that lead nowhere and entries that are
no files are left out.
-/
import PluginSweep.FileSystem.Canonical

namespace PluginSweep.CommandLine

/-- What has been taken in from a disk. -/
structure Intake where
  tree : FileSystem
  /-- The places that were taken in with all that is below them. -/
  whole : List Location := []

namespace Intake

/-- The text of an absolute path for a location. -/
def spelled (loc : Location) : String :=
  (FileSystem.pathOf loc).toString

/-- The directories above a location are there. -/
def withAbove (i : Intake) (loc : Location) : Intake :=
  let above := (List.range (loc.length - 1)).map fun k => loc.take (k + 1)
  { i with tree := above.foldl (fun fs d => fs.put d .directory) i.tree }

/-- Takes in the entry at a location to which no link leads; `below` asks for all that is
below it, too. -/
partial def entry (i : Intake) (below : Bool) (loc : Location) : IO Intake := do
  if loc.isEmpty || i.whole.contains loc || (!below && (i.tree.node? loc).isSome) then return i
  let onDisk : IO.FS.DirEntry := ⟨spelled loc.dropLast, loc.getLastD ""⟩
  match ← onDisk.path.symlinkMetadata.toBaseIO with
  | .error _ => return i
  | .ok found => match found.type with
    | .file =>
      match ← (IO.FS.readBinFile onDisk.path).toBaseIO with
      | .ok bytes => return { i with tree := i.tree.put loc (.file bytes.toList) }
      | .error _ => return i
    | .symlink =>
      match ← (IO.FS.realPath onDisk.path).toBaseIO with
      | .error _ => return i
      | .ok target =>
        let there := (Path.ofString target.toString).names
        let i := { i with tree := i.tree.put loc (.link target.toString) }
        (i.withAbove there).entry below there
    | .dir =>
      let mut i := { i with tree := i.tree.put loc .directory }
      if below then
        i := { i with whole := loc :: i.whole }
        for child in ← onDisk.path.readDir do
          i ← i.entry true (loc ++ [child.fileName])
      return i
    | .other => return i

/-- Takes in the end of the path, from the working directory if it is relative, and all that is
on the way to it; `below` asks for all that is below the end, too. -/
def path (i : Intake) (below : Bool) (p : Path) : IO Intake := do
  let names := if p.isAbsolute then p.names else i.tree.cwd ++ p.names
  let mut i := i
  for k in List.range names.length do
    let name := names.getD k ""
    if name != ".." then
      match ← (IO.FS.realPath (spelled (names.take k))).toBaseIO with
      | .error _ => return i
      | .ok above =>
        let loc := (Path.ofString above.toString).names ++ [name]
        i ← (i.withAbove loc).entry (below && k + 1 == names.length) loc
  return i

/-- Takes in what a user's text leads to. -/
def given (i : Intake) (below : Bool) (text : String) : IO Intake :=
  match i.tree.expandHome (Path.ofString text) with
  | .ok p => i.path below p
  | .error _ => pure i

end Intake

/-- Changes the disk as the tree was changed. -/
def carryOver (before after : FileSystem) : IO Unit := do
  for e in before.entries do
    if (after.node? e.1).isNone then IO.FS.removeFile (Intake.spelled e.1)
  for e in after.entries do
    if before.node? e.1 != some e.2 then
      match e.2 with
      | .directory => IO.FS.createDirAll (Intake.spelled e.1)
      | .file bytes => IO.FS.writeBinFile (Intake.spelled e.1) (ByteArray.mk bytes.toArray)
      | .link _ => pure ()

end PluginSweep.CommandLine
