/-
PluginSweep/Walk.lean

The files of a plugin.  A walk visits the directories below a root depth
first, in the order of their names, and lists of each directory the files in
the order of their names before it goes down.  Directories with excluded names
are not entered.  Links to directories are followed, but a directory that has
been visited before is not visited again, so the walk ends: every visit leaves
one directory fewer unvisited.  It may go down to any depth: that a runtime
may limit how deep one call is nested in another is not in here.

Files whose extension marks them as documentation are never listed, and where
a list of extensions is given, files with other extensions are not.
-/
import PluginSweep.FileSystem.Canonical
import PluginSweep.Profile

namespace PluginSweep

/-- A directory name among the segments of the path is excluded. -/
def isExcluded (relpath : String) (exclusions : List String) : Bool :=
  (Path.ofString relpath).segments.any exclusions.contains

/-- Extensions of files that are never scanned. -/
def documentationExtensions : List String := [".md", ".txt", ".rst"]

/-- What a walk yields: the files in order, and the warnings in order. -/
structure Walk where
  files : List Candidate := []
  warnings : List Warning := []
  deriving DecidableEq, Repr

namespace Walk

/-- What a walk depends on beside the file system. -/
structure Options where
  root : Path
  exclusions : List String
  /-- The extensions of the files to be listed, where not all are. -/
  wanted : Option (List String)
  deriving Repr

/-- A directory that is yet to be visited: the names that lead to it from the root, and its
path as warnings show it. -/
structure Visit where
  below : List String
  shown : String
  deriving DecidableEq, Repr

namespace Visit

/-- The path of the directory. -/
def path (v : Visit) (o : Options) : Path :=
  ⟨o.root.anchor, o.root.names ++ v.below⟩

/-- The visit of a directory in this one. -/
def enter (v : Visit) (name : String) : Visit where
  below := v.below ++ [name]
  shown := if v.shown.endsWith "/" then v.shown ++ name else v.shown ++ "/" ++ name

end Visit

/-- The file is to be listed. -/
def Options.wants (o : Options) (extension : String) : Bool :=
  !documentationExtensions.contains extension && o.wanted.all (·.contains extension)

/-- The file of the given name in the directory, if it is to be listed. -/
def candidate? (o : Options) (v : Visit) (name : String) : Option Candidate :=
  let path : Path := (v.path o).append ⟨"", [name]⟩
  let extension := path.extension
  if o.wants extension then
    some ⟨path, "/".intercalate (v.below ++ [name]), extension⟩
  else none

/-- The entry `name` of the directory `loc`, which `v` visits, is a directory. -/
def entersDirectory (fs : FileSystem) (o : Options) (v : Visit) (loc : Location)
    (name : String) : Bool :=
  match fs.node? (loc ++ [name]) with
  | some .directory => true
  | some (.link _) => fs.isDirectory ((v.path o).append ⟨"", [name]⟩)
  | _ => false

/-- The names in increasing order. -/
def ordered (names : List String) : List String :=
  names.mergeSort fun a b => decide (a ≤ b)

/-- The names of the directories in which the walk goes on. -/
def descend (fs : FileSystem) (o : Options) (v : Visit) (loc : Location) : List String :=
  ordered ((fs.namesIn loc).filter fun name =>
    entersDirectory fs o v loc name && !o.exclusions.contains name)

/-- The files that are listed of the directory. -/
def filesIn (fs : FileSystem) (o : Options) (v : Visit) (loc : Location) : List Candidate :=
  (ordered ((fs.namesIn loc).filter fun name => !entersDirectory fs o v loc name)).filterMap
    (candidate? o v)

/-- All locations that may be directories, each as often as it is an entry. -/
def locations (fs : FileSystem) : List Location :=
  [] :: fs.entries.map (·.1)

/-- How many locations have not been visited. -/
def unvisited (fs : FileSystem) (visited : List Location) : Nat :=
  ((locations fs).filter (· ∉ visited)).length

theorem mem_locations_of_node? {fs : FileSystem} {loc : Location} {node : Node}
    (h : fs.node? loc = some node) : loc ∈ locations fs := by
  by_cases hloc : loc = []
  · simp [locations, hloc]
  · exact List.mem_cons_of_mem _
      (List.mem_map.mpr ⟨_, FileSystem.mem_entries_of_node? hloc h, rfl⟩)

theorem unvisited_cons_lt {fs : FileSystem} {visited : List Location} {loc : Location}
    (hmem : loc ∈ locations fs) (hvisited : loc ∉ visited) :
    unvisited fs (loc :: visited) < unvisited fs visited := by
  refine FileSystem.length_filter_lt hmem (by simpa using hvisited) (by simp) fun x hx => ?_
  simp only [List.mem_cons, not_or, decide_eq_true_eq] at hx ⊢
  exact hx.2

theorem length_descend_le (fs : FileSystem) (o : Options) (v : Visit) (loc : Location) :
    (descend fs o v loc).length ≤ fs.entries.length := by
  rw [descend, ordered, List.length_mergeSort]
  exact Nat.le_trans (List.length_filter_le _ _) (List.length_filterMap_le _ _)

/-- Where a visit arrives: at a directory that has not been visited, or else at a warning. -/
def arrive (fs : FileSystem) (o : Options) (visited : List Location) (v : Visit) :
    Except Warning Location :=
  match fs.locate (v.path o) with
  | .error cause => .error (.directoryUnreadable v.shown cause.text)
  | .ok (loc, _) => match fs.node? loc with
    | some .directory =>
      if loc ∈ visited then .error (.directoryRevisited v.shown) else .ok loc
    | _ => .error (.directoryUnreadable v.shown OsCause.notDirectory.text)

theorem arrive_eq_ok {fs : FileSystem} {o : Options} {visited : List Location} {v : Visit}
    {loc : Location} (h : arrive fs o visited v = .ok loc) :
    (∃ node, fs.locate (v.path o) = .ok (loc, node)) ∧ fs.node? loc = some .directory ∧
      loc ∉ visited := by
  rw [arrive] at h
  split at h
  · cases h
  · rename_i there node hlocate
    split at h
    · split at h
      · cases h
      · obtain rfl := Except.ok.inj h
        exact ⟨⟨node, hlocate⟩, ‹_›, ‹_›⟩
    · cases h

/-- Every visit uses up an unvisited location, in exchange for at most as many pending visits as
there are entries. -/
theorem measure_arrived_lt {fs : FileSystem} {o : Options} {visited : List Location} {v : Visit}
    {rest : List Visit} {loc : Location} (h : arrive fs o visited v = .ok loc) :
    unvisited fs (loc :: visited) * (fs.entries.length + 1) +
        ((descend fs o v loc).map v.enter ++ rest).length <
      unvisited fs visited * (fs.entries.length + 1) + (v :: rest).length := by
  obtain ⟨-, hnode, hnew⟩ := arrive_eq_ok h
  have hfewer := unvisited_cons_lt (mem_locations_of_node? hnode) hnew
  have hmul := Nat.mul_le_mul_right (fs.entries.length + 1) (Nat.succ_le_of_lt hfewer)
  have hlisted := length_descend_le fs o v loc
  simp only [Nat.succ_mul] at hmul
  simp only [List.length_append, List.length_map, List.length_cons]
  omega

/-- Visits what is pending, first things first, and adds to what the walk has yielded. -/
def visitAll (fs : FileSystem) (o : Options) (visited : List Location) (walk : Walk)
    (pending : List Visit) : Walk :=
  match pending with
  | [] => walk
  | v :: rest =>
    match _harrived : arrive fs o visited v with
    | .error warning =>
      visitAll fs o visited { walk with warnings := walk.warnings ++ [warning] } rest
    | .ok loc =>
      visitAll fs o (loc :: visited) { walk with files := walk.files ++ filesIn fs o v loc }
        ((descend fs o v loc).map v.enter ++ rest)
termination_by unvisited fs visited * (fs.entries.length + 1) + pending.length
decreasing_by
  · exact Nat.add_lt_add_left (Nat.lt_succ_self _) _
  · exact measure_arrived_lt _harrived

end Walk

/-- The files below a root. -/
def FileSystem.walk (fs : FileSystem) (o : Walk.Options) : Except OsError Walk :=
  if FileSystem.admits o.root then .ok (Walk.visitAll fs o [] {} [⟨[], o.root.toString⟩])
  else .error .nulInPath

/-! ### Counting lines -/

/-- How many files there are, and how many lines they hold. -/
structure Statistics where
  files : Int := 0
  lines : Int := 0
  deriving DecidableEq, Repr

/-- The lines of a file: one for each line feed, and one for what follows the last of them. -/
def lineCount (bytes : List UInt8) : Nat :=
  bytes.count 10 + if bytes.getLast?.all (· == 10) then 0 else 1

/-- Counts files and their lines; a file that cannot be read counts as a file without lines. -/
def countLines (read : Candidate → Except OsError (List UInt8)) (files : List Candidate) :
    Statistics × List Warning :=
  let counts := files.map fun file => match read file with
    | .ok bytes => (lineCount bytes, none)
    | .error e => (0, some (Warning.linesUncounted file.relpath e.message))
  (⟨files.length, counts.foldl (fun total c => total + c.1) 0⟩, counts.filterMap (·.2))

end PluginSweep
