/-
PluginSweep/Proofs/Walk/Pruning.lean

Leaving directories out on the way, and leaving files out afterwards.  A walk does not enter
directories with excluded names, and passes over files whose extensions are not wanted.  Where
no link leads to a directory, it lists what is left of a walk through everything when the files
are taken out whose directory part is excluded or whose extension is not wanted, in the same
order (`walk_prunes`).

That excluded directories may be left out on the way is `walk_hiding`; here is what it is for
file names as they are written (`isExcluded_directoryPart`), and the same for extensions
(`filesIn_wanting`).
-/
import Mathlib.Data.List.Basic
import PluginSweep.Proofs.Walk.Precedence

namespace PluginSweep

/-- The directory part of the relative path of a file. -/
def Candidate.directoryPart (file : Candidate) : String :=
  (Path.ofString file.relpath).parent.toString

namespace FileSystem

variable {fs : FileSystem} {root : Path} {top : Location}

/-- No link below the root leads to a directory. -/
def NoDirectoryLinks (fs : FileSystem) (root : Path) : Prop :=
  ∀ top below target, fs.locate root = .ok (top, .directory) →
    fs.node? (top ++ below) = some (.link target) →
    fs.isDirectory ⟨root.anchor, root.names ++ below⟩ = false

/-- Where the links of a tree are known, it can be seen that none leads to a directory. -/
theorem noDirectoryLinks_of_entries (htop : fs.locate root = .ok (top, .directory))
    (h : ∀ e ∈ fs.entries, e.2.isLink = true →
      fs.isDirectory ⟨root.anchor, root.names ++ e.1.drop top.length⟩ = false) :
    fs.NoDirectoryLinks root := by
  intro top' below target htop' hlink
  obtain rfl : top' = top := (Prod.mk.inj (Except.ok.inj (htop'.symm.trans htop))).1
  have hentry := h _ (mem_entries_of_node? (node?_link_ne_nil hlink) hlink) rfl
  rwa [List.drop_left] at hentry

end FileSystem

namespace Walk

open FileSystem

variable {fs : FileSystem} {o : Options} {visited : List Location} {pending : List Visit}
  {below exclusions : List String} {top : Location}

/-! ### Directories -/

/-- Where no link leads to a directory, only real directories are entered. -/
theorem tidy_of_noDirectoryLinks (hfs : fs.WellFormed) (hlinks : fs.NoDirectoryLinks o.root)
    (htop : fs.locate o.root = .ok (top, .directory)) : Tidy fs o top where
  proper := fun below name hname =>
    ((hfs.of_mem_namesIn hname).1 name (List.mem_singleton_self _)).1
  real := by
    intro v name henters
    rw [entersDirectory, List.append_assoc] at henters
    split at henters
    · assumption
    · rw [v.append_path, hlinks top _ _ htop ‹_›] at henters
      cases henters
    · cases henters

/-- The directory part of a file is excluded if the name of a directory on the way to it is. -/
theorem isExcluded_directoryPart (h : Path.Joinable below) (hne : below ≠ []) :
    isExcluded (candidateAt o below).directoryPart exclusions =
      below.dropLast.any exclusions.contains := by
  have hparent : Path.Joinable below.dropLast := fun name hname =>
    h name ((List.dropLast_sublist below).subset hname)
  rw [isExcluded, Candidate.directoryPart, candidateAt, Path.ofString_intercalate h hne,
    Path.parent, Path.ofString_toString hparent]
  rfl

/-! ### Extensions -/

/-- The walk goes the same way whichever extensions are wanted. -/
theorem listings_wanting (wanted : Option (List String)) :
    listings fs { o with wanted } visited pending = listings fs o visited pending := by
  fun_induction listings fs o visited pending with
  | case1 visited => exact listings_nil
  | case2 visited v rest warning hwarned ih =>
    rw [listings_warned (o := { o with wanted }) hwarned, ih]
  | case3 visited v rest loc harrived ih =>
    rw [listings_arrived (o := { o with wanted }) harrived]
    exact congrArg ((v, loc) :: ·) ih

/-- Passing over a file is leaving it out. -/
theorem candidate?_wanting (v : Visit) (name : String) :
    candidate? o v name = (candidate? { o with wanted := none } v name).filter fun file =>
      o.wanted.all (·.contains file.extension) := by
  rw [candidate?_eq, candidate?_eq]
  show (if o.wants (candidateAt o (v.below ++ [name])).extension then _ else _) =
    (if Options.wants { o with wanted := none } (candidateAt o (v.below ++ [name])).extension then
      some (candidateAt o (v.below ++ [name])) else none).filter _
  rw [Options.wants, Options.wants, Option.all_none, Bool.and_true]
  cases documentationExtensions.contains (candidateAt o (v.below ++ [name])).extension <;>
    simp [Option.filter]

theorem filesIn_wanting (v : Visit) (loc : Location) :
    filesIn fs o v loc = (filesIn fs { o with wanted := none } v loc).filter fun file =>
      o.wanted.all (·.contains file.extension) := by
  have hfile : candidate? o v = fun name =>
      (candidate? { o with wanted := none } v name).filter fun file =>
        o.wanted.all (·.contains file.extension) := funext (candidate?_wanting v)
  rw [filesIn, hfile, filesIn, List.filter_filterMap]
  rfl

/-- A walk for some extensions lists what a walk for all of them lists, less the files with other
extensions. -/
theorem walk_wanting : (fs.walk o).map Walk.files =
    ((fs.walk { o with wanted := none }).map Walk.files).map fun files =>
      files.filter fun file => o.wanted.all (·.contains file.extension) := by
  have hlistings : Options.listings { o with wanted := none } fs = o.listings fs :=
    listings_wanting none
  have hfiles : (fun l : Visit × Location => filesIn fs o l.1 l.2) = fun l =>
      (filesIn fs { o with wanted := none } l.1 l.2).filter fun file =>
        o.wanted.all (·.contains file.extension) := funext fun l => filesIn_wanting l.1 l.2
  rw [map_files_walk, map_files_walk, hlistings, hfiles]
  dsimp only
  split
  · exact congrArg Except.ok List.filter_flatMap.symm
  · rfl

/-! ### Leaving out on the way and afterwards -/

/-- A walk that comes to no directory lists nothing. -/
theorem listings_of_warned {warning : Warning}
    (h : arrive fs o [] ⟨[], o.root.toString⟩ = .error warning) : o.listings fs = [] :=
  (listings_warned h).trans listings_nil

/-- What is listed is found under names that can be joined. -/
theorem exists_joinable_of_mem_files (hfs : fs.WellFormed) {walk : Walk} (h : fs.walk o = .ok walk)
    {file : Candidate} (hfile : file ∈ walk.files) :
    ∃ below, file = candidateAt o below ∧ Path.Joinable below ∧ below ≠ [] := by
  rw [files_of_walk h] at hfile
  obtain ⟨l, hl, hmem⟩ := List.mem_flatMap.mp hfile
  obtain ⟨name, hname, hcandidate⟩ :=
    exists_of_mem_filesIn hfs (joinable_of_mem_walk_listings hfs l hl) hmem
  exact ⟨_, (candidate?_eq_some hcandidate).1, hname,
    List.append_ne_nil_of_right_ne_nil _ (List.cons_ne_nil _ _)⟩

/-- A walk with exclusions lists what a walk without them lists, less the files whose directory
part is excluded. -/
theorem walk_excluding (hfs : fs.WellFormed) (hlinks : fs.NoDirectoryLinks o.root) :
    (fs.walk o).map Walk.files =
      ((fs.walk { o with exclusions := [] }).map Walk.files).map fun files =>
        files.filter fun file => !isExcluded file.directoryPart o.exclusions := by
  rcases harrived : arrive fs o [] ⟨[], o.root.toString⟩ with warning | top
  · -- Neither walk comes to the root.
    have hplain : arrive fs { o with exclusions := [] } [] ⟨[], o.root.toString⟩ =
      .error warning := harrived
    rw [map_files_walk, map_files_walk, listings_of_warned harrived, listings_of_warned hplain]
    dsimp only
    split <;> rfl
  · -- Both come to it, and one hides what the other lists.
    obtain ⟨⟨node, hlocate⟩, hnode, -⟩ := arrive_eq_ok harrived
    have htop : fs.locate o.root = .ok (top, .directory) := by
      rw [Visit.path, List.append_nil] at hlocate
      obtain rfl := Option.some.inj ((node?_of_locate hlocate).symm.trans hnode)
      exact hlocate
    have hextends : Extends o.exclusions o.exclusions.contains { o with exclusions := [] } :=
      fun _ => rfl
    have htidy : Tidy fs { o with exclusions := [] } top := tidy_of_noDirectoryLinks hfs hlinks htop
    refine (walk_hiding (o := { o with exclusions := [] }) htop htidy hextends).trans ?_
    rcases hall : fs.walk { o with exclusions := [] } with e | all
    · rfl
    · refine congrArg Except.ok (List.filter_congr fun file hfile => ?_)
      obtain ⟨below, rfl, hjoinable, hne⟩ := exists_joinable_of_mem_files hfs hall hfile
      rw [clearOf, directories_candidateAt, isExcluded_directoryPart hjoinable hne]

/-- **Leaving out on the way is leaving out afterwards**: where no link leads to a directory, a
walk lists the files of the walk through everything whose directory part is not excluded and
whose extension is wanted, in the same order; and in every walk the files of a directory come in
the order of their names before everything in the directories in it, and those in the order of
theirs. -/
theorem walk_prunes (hfs : fs.WellFormed) (hlinks : fs.NoDirectoryLinks o.root) :
    (fs.walk o).map Walk.files =
      ((fs.walk { o with exclusions := [], wanted := none }).map Walk.files).map (fun files =>
        files.filter fun file => !isExcluded file.directoryPart o.exclusions &&
          o.wanted.all (·.contains file.extension)) ∧
    ∀ walk, fs.walk o = .ok walk →
      walk.files.Pairwise fun file file' => Precedes file.names file'.names := by
  refine ⟨?_, fun walk => pairwise_precedes hfs⟩
  rw [walk_excluding hfs hlinks, walk_wanting]
  dsimp only
  rcases (fs.walk { o with exclusions := [], wanted := none }).map Walk.files with e | files
  · simp only [Except.map]
  · simp only [Except.map, List.filter_filter]

/-- A plugin with excluded directories at different depths and in each other, with names that
begin like theirs, and with a link to a file. -/
def shelved : FileSystem where
  entries := [
    (["p"], .directory),
    (["p", "vendors"], .directory),
    (["p", "vendors", "z.php"], .file []),
    (["p", "vendors", "tests"], .directory),
    (["p", "vendors", "tests", "vendor"], .directory),
    (["p", "vendors", "tests", "vendor", "t.php"], .file []),
    (["p", "vendor.php"], .file []),
    (["p", "vendor"], .directory),
    (["p", "vendor", "lib"], .directory),
    (["p", "vendor", "lib", "y.php"], .file []),
    (["p", "main.php"], .link "vendor/lib/y.php"),
    (["p", "main.js"], .file [])]
  cwd := []
  homes := []

def shelvedOptions : Options where
  root := ⟨"/", ["p"]⟩
  exclusions := ["vendor", "tests"]
  wanted := some [".php"]

theorem walk_prunes_shelved :
    shelved.WellFormed ∧ shelved.NoDirectoryLinks shelvedOptions.root ∧
      (shelved.walk shelvedOptions).map Walk.files =
        ((shelved.walk { shelvedOptions with exclusions := [], wanted := none }).map
          Walk.files).map (fun files =>
            files.filter fun file => !isExcluded file.directoryPart shelvedOptions.exclusions &&
              shelvedOptions.wanted.all (·.contains file.extension)) ∧
      ∀ walk, shelved.walk shelvedOptions = .ok walk →
        walk.files.Pairwise fun file file' => Precedes file.names file'.names := by
  have hfs : shelved.WellFormed :=
    ⟨by decide +kernel, by simp only [Path.Joinable]; decide +kernel, by decide +kernel⟩
  have htop : shelved.locate shelvedOptions.root = .ok (["p"], .directory) := by decide +kernel
  have hlinks : shelved.NoDirectoryLinks shelvedOptions.root :=
    noDirectoryLinks_of_entries htop (by decide +kernel)
  exact ⟨hfs, hlinks, walk_prunes hfs hlinks⟩

end Walk

end PluginSweep
