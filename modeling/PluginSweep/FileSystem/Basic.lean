/-
PluginSweep/FileSystem/Basic.lean

A file system: directories, files and symbolic links, each at a location,
which is the list of names that leads to it from the root without any link.
The root is always there and is a directory.

A path is traced name by name.  A link on the way is replaced by its target,
and the number of links that one path may lead through is limited; `..` means
the directory above the location reached so far, so it is taken after links
are followed.  The last name of a path may be missing: the trace then ends at
the free place where it would be.  What a path is traced for decides whether a
link that comes last is followed, and whether a slash may come after the last
name.

What is not in here: permissions, so that nothing is refused for want of them; names
that are not Unicode text; several names of one file other than by links; pipes, sockets
and devices; a working directory that has been removed; and places so deep that their
paths are longer than a path may be, which can be come to only from directories on the
way.  A place of that kind is no worse than others to the trace here, but the operating
system refuses to look at it under its full path.
-/
import PluginSweep.OsError
import PluginSweep.Path
import PluginSweep.Text.Utf8

namespace PluginSweep

/-- The names that lead from the root to a file or directory without any link. -/
abbrev Location := List String

/-- What may be at a location. -/
inductive Node
  | file (bytes : List UInt8)
  | directory
  | link (target : String)
  deriving DecidableEq, Repr

/-- A file system, and from where relative paths and home directories are taken. -/
structure FileSystem where
  /-- What is where, the root apart, in the order in which directories list it. -/
  entries : List (Location × Node)
  /-- The working directory. -/
  cwd : Location
  /-- The home directories of users; the empty name stands for the user at work. -/
  homes : List (String × String)
  deriving DecidableEq, Repr

namespace FileSystem

/-! ### Looking up locations -/

/-- The entry of a location other than the root. -/
def entryAt? (fs : FileSystem) (loc : Location) : Option (Location × Node) :=
  fs.entries.find? (·.1 == loc)

/-- What is at a location. -/
def node? (fs : FileSystem) (loc : Location) : Option Node :=
  if loc = [] then some .directory else (fs.entryAt? loc).map (·.2)

theorem mem_entries_of_node? {fs : FileSystem} {loc : Location} {node : Node}
    (hloc : loc ≠ []) (h : fs.node? loc = some node) : (loc, node) ∈ fs.entries := by
  rw [node?, if_neg hloc, Option.map_eq_some_iff] at h
  obtain ⟨⟨l, n⟩, hfind, rfl⟩ := h
  have hl := List.find?_some hfind
  simp only [beq_iff_eq] at hl
  subst hl
  exact List.mem_of_find?_eq_some hfind

theorem node?_link_ne_nil {fs : FileSystem} {loc : Location} {target : String}
    (h : fs.node? loc = some (.link target)) : loc ≠ [] := by
  rintro rfl
  simp [node?] at h

/-- The names that a directory lists. -/
def namesIn (fs : FileSystem) (loc : Location) : List String :=
  fs.entries.filterMap fun e =>
    if e.1.dropLast = loc then e.1.getLast? else none

/-! ### Tracing paths -/

/-- How many links one path may lead through. -/
def linkLimit : Nat := 40

/-- How many bytes a name may have. -/
def nameLimit : Nat := 255

/-- How many bytes the text of a path may have. -/
def pathLimit : Nat := 4095

/-- What a path is traced for. -/
inductive Purpose
  /-- The entry itself: a link that comes last is not followed. -/
  | entry
  /-- What the path leads to. -/
  | target
  /-- A file that is made where it is missing: no slash may come after its name. -/
  | file
  deriving DecidableEq, Repr

/-- The directory in which a text is traced, when `here` is where a relative one starts. -/
def startOf (target : String) (here : Location) : Location :=
  if target.startsWith "/" then [] else here

/-- Follows the names from `here` as far as there is no link; `detour` goes on where a link leads.
The end may be a free place. -/
def follow (fs : FileSystem) (purpose : Purpose)
    (detour : Location → List String → Except OsCause Location) :
    (here : Location) → (names : List String) → Except OsCause Location
  | here, [] => .ok here
  | here, name :: rest =>
    match fs.node? here with
    | some .directory =>
      if name == "" || name == "." then follow fs purpose detour here rest
      else if name == ".." then follow fs purpose detour here.dropLast rest
      else if purpose = .file && !rest.isEmpty && rest.all (· == "") then .error .isDirectory
      else if name.utf8ByteSize > nameLimit then .error .nameTooLong
      else
        let there := here ++ [name]
        match fs.node? there with
        | some (.link target) =>
          if rest.isEmpty && purpose = .entry then .ok there
          else detour (startOf target here) (Path.splitSlashes target ++ rest)
        | some _ => follow fs purpose detour there rest
        | none => if rest.isEmpty then .ok there else .error .noEntry
    | some _ => .error .notDirectory
    | none => .error .noEntry

/-- Follows the names from `here`, through at most `links` links. -/
def traceFrom (fs : FileSystem) (purpose : Purpose) :
    (links : Nat) → (here : Location) → (names : List String) → Except OsCause Location
  | 0 => fs.follow purpose fun _ _ => .error .linkLoop
  | fewer + 1 => fs.follow purpose (traceFrom fs purpose fewer)

/-- The location to which a path leads, or the free place of its last name. -/
def trace (fs : FileSystem) (purpose : Purpose) (p : Path) : Except OsCause Location :=
  if p.toString.utf8ByteSize > pathLimit then .error .nameTooLong
  else fs.traceFrom purpose linkLimit (if p.isAbsolute then [] else fs.cwd) p.names

/-- The location and the node to which a path leads. -/
def locate (fs : FileSystem) (p : Path) : Except OsCause (Location × Node) :=
  match fs.trace .target p with
  | .error cause => .error cause
  | .ok loc => match fs.node? loc with
    | some node => .ok (loc, node)
    | none => .error .noEntry

/-! ### Questions about paths -/

/-- The path leads to a directory. -/
def isDirectory (fs : FileSystem) (p : Path) : Bool :=
  match fs.locate p with
  | .ok (_, .directory) => true
  | _ => false

/-- The path leads to a file. -/
def isFile (fs : FileSystem) (p : Path) : Bool :=
  match fs.locate p with
  | .ok (_, .file _) => true
  | _ => false

/-- The bytes of the file to which the path leads. -/
def read (fs : FileSystem) (p : Path) : Except OsError (List UInt8) :=
  match fs.locate p with
  | .ok (_, .file bytes) => .ok bytes
  | .ok _ => .error (.about .isDirectory p.toString)
  | .error cause => .error (.about cause p.toString)

/-- The names in the directory to which the path leads. -/
def list (fs : FileSystem) (p : Path) : Except OsError (List String) :=
  match fs.locate p with
  | .ok (loc, .directory) => .ok (fs.namesIn loc)
  | .ok _ => .error (.about .notDirectory p.toString)
  | .error cause => .error (.about cause p.toString)

end FileSystem

end PluginSweep
