/-
PluginSweep/Proofs/Walk/Coverage.lean

What a walk covers.  Whatever links there are, a walk lists just the directories
that can be reached by names that are not excluded, each once, and of their
other entries those with a wanted extension (`walk_covers`).  This holds as far
as no path on the way is refused: a path that leads through too many links hides
a directory that can be reached on another way
(`exists_reachable_not_listed`).
-/
import Mathlib.Data.List.Nodup
import PluginSweep.Proofs.Walk.Reach

namespace PluginSweep.Walk

variable {fs : FileSystem} {o : Options} {top : Location}

/-- What a walk lists, where `listed` are the directories that it lists and how it came to them. -/
structure Covers (fs : FileSystem) (o : Options) (top : Location)
    (listed : List (Visit × Location)) (walk : Walk) : Prop where
  /-- A directory is listed if and only if it can be reached. -/
  reachable : ∀ loc, loc ∈ listed.map (·.2) ↔ fs.Reachable o.exclusions top loc
  /-- No directory is listed twice. -/
  once : (listed.map (·.2)).Nodup
  /-- The path under which it is listed has no excluded names, and leads to it. -/
  paths : ∀ l ∈ listed, (∀ name ∈ l.1.below, name ∉ o.exclusions) ∧
    fs.locate (o.pathOf l.1.below) = .ok (l.2, .directory)
  /-- Files are listed directory by directory. -/
  files : walk.files = listed.flatMap fun l => filesIn fs o l.1 l.2
  /-- The candidates are the entries that do not lead to directories and have a wanted
  extension. -/
  candidates : ∀ file, file ∈ walk.files ↔ ∃ l ∈ listed, ∃ name ∈ fs.namesIn l.2,
    (¬ ∃ loc', fs.LeadsTo l.2 name loc') ∧ o.wants file.extension = true ∧
      file = candidateAt o (l.1.below ++ [name])
  /-- No two candidates have the same relative path. -/
  distinct : (walk.files.map (·.relpath)).Nodup
  /-- The relative path, taken from the root, is the path of the candidate. -/
  joined : ∀ file ∈ walk.files, o.root.child file.relpath = file.path

section Covering

variable (hfs : fs.WellFormed) (htop : fs.locate o.root = .ok (top, .directory))
  (hfree : Unhindered fs o top)

include hfs htop hfree

theorem mem_files_iff {file : Candidate} :
    file ∈ ((o.listings fs).flatMap fun l => filesIn fs o l.1 l.2) ↔
      ∃ l ∈ o.listings fs, ∃ name ∈ fs.namesIn l.2, (¬ ∃ loc', fs.LeadsTo l.2 name loc') ∧
        o.wants file.extension = true ∧ file = candidateAt o (l.1.below ++ [name]) := by
  rw [List.mem_flatMap]
  refine exists_congr fun l => and_congr_right fun hl => ?_
  obtain ⟨passed, htrail⟩ :=
    trail_of_mem_listings hfs htop hfree (heading_root fs o top) l hl
  exact mem_filesIn_iff hfs htop hfree htrail

/-- Each candidate is found under names that can be joined to its relative path. -/
theorem exists_joinable {file : Candidate}
    (h : file ∈ (o.listings fs).flatMap fun l => filesIn fs o l.1 l.2) :
    ∃ below, file = candidateAt o below ∧ Path.Joinable below ∧ below ≠ [] := by
  obtain ⟨l, hl, name, hname, -, -, rfl⟩ := (mem_files_iff hfs htop hfree).mp h
  obtain ⟨passed, htrail⟩ :=
    trail_of_mem_listings hfs htop hfree (heading_root fs o top) l hl
  exact ⟨_, rfl, (htrail.joinable hfs).append (hfs.of_mem_namesIn hname).1,
    List.append_ne_nil_of_right_ne_nil _ (List.cons_ne_nil _ _)⟩

/-- Different directories are listed under different names. -/
theorem eq_of_below_eq {l l' : Visit × Location} (hl : l ∈ o.listings fs)
    (hl' : l' ∈ o.listings fs) (h : l.1.below = l'.1.below) : l.2 = l'.2 := by
  obtain ⟨passed, htrail⟩ :=
    trail_of_mem_listings hfs htop hfree (heading_root fs o top) l hl
  obtain ⟨passed', htrail'⟩ :=
    trail_of_mem_listings hfs htop hfree (heading_root fs o top) l' hl'
  have hlocate := htrail.locate htop hfree
  rw [h, htrail'.locate htop hfree] at hlocate
  exact (Prod.mk.inj (Except.ok.inj hlocate)).1.symm

/-- No candidate is listed twice. -/
theorem nodup_files : ((o.listings fs).flatMap fun l => filesIn fs o l.1 l.2).Nodup := by
  refine List.nodup_flatMap.mpr ⟨fun l _ => ?_, ?_⟩
  · have hnames : (ordered ((fs.namesIn l.2).filter
        fun name => !entersDirectory fs o l.1 l.2 name)).Nodup :=
      (List.mergeSort_perm _ _).nodup_iff.mpr ((hfs.nodup_namesIn l.2).filter _)
    refine hnames.filterMap fun name name' file hname hname' => ?_
    have hsame := (candidate?_eq_some hname).1.symm.trans (candidate?_eq_some hname').1
    exact List.singleton_inj.mp
      (List.append_cancel_left (candidateAt_inj (congrArg Candidate.path hsame)))
  · have honce : ((o.listings fs).map (·.2)).Nodup := nodup_listings.1
    refine (List.pairwise_map.mp honce).imp_of_mem fun {l l'} hl hl' hne file hfile hfile' => hne ?_
    obtain ⟨name, -, hname⟩ := List.mem_filterMap.mp hfile
    obtain ⟨name', -, hname'⟩ := List.mem_filterMap.mp hfile'
    have hsame := (candidate?_eq_some hname).1.symm.trans (candidate?_eq_some hname').1
    have hbelow := candidateAt_inj (congrArg Candidate.path hsame)
    exact eq_of_below_eq hfs htop hfree hl hl' (List.append_inj_left' hbelow rfl)

end Covering

/-- **A walk lists what can be reached**: whatever links there are, the directories to which names
that are not excluded lead, each once, and of their other entries those with a wanted extension, as
far as no path on the way is refused for its links or its length.  Directories may be nested to any
depth here; that a walk which calls itself for each of them may come to the limit that a runtime
sets on nested calls, a thousand or so, is not considered. -/
theorem walk_covers (hfs : fs.WellFormed) (hadmits : FileSystem.admits o.root = true)
    (htop : fs.locate o.root = .ok (top, .directory)) (hfree : Unhindered fs o top) :
    ∃ walk, fs.walk o = .ok walk ∧ Covers fs o top (o.listings fs) walk := by
  let start : List Visit := [⟨[], o.root.toString⟩]
  have hfiles : (visitAll fs o [] {} start).files =
      (o.listings fs).flatMap fun l => filesIn fs o l.1 l.2 := visitAll_files
  refine ⟨visitAll fs o [] {} start, if_pos hadmits, ?_⟩
  constructor
  case reachable => exact fun loc => mem_listings_iff hfs htop hfree
  case once => exact nodup_listings.1
  case paths =>
    intro l hl
    obtain ⟨passed, htrail⟩ :=
      trail_of_mem_listings hfs htop hfree (heading_root fs o top) l hl
    exact ⟨htrail.not_excluded, htrail.locate htop hfree⟩
  case files => exact hfiles
  case candidates =>
    intro file
    rw [hfiles]
    exact mem_files_iff hfs htop hfree
  case distinct =>
    rw [hfiles]
    refine (nodup_files hfs htop hfree).map_on fun file hfile file' hfile' hrelpath => ?_
    -- Both texts are joined from names, and such texts are equal only if the names are.
    obtain ⟨below, rfl, hjoin, hne⟩ := exists_joinable hfs htop hfree hfile
    obtain ⟨below', rfl, hjoin', hne'⟩ := exists_joinable hfs htop hfree hfile'
    rw [Path.intercalate_inj hjoin hjoin' hne hne' hrelpath]
  case joined =>
    intro file hfile
    rw [hfiles] at hfile
    obtain ⟨below, rfl, hjoin, hne⟩ := exists_joinable hfs htop hfree hfile
    exact Path.child_intercalate o.root hjoin hne

/-- A plugin with a link back to its root, two names for one directory, a link into an excluded
directory, and a link to nothing. -/
def tangled : FileSystem where
  entries := [
    (["p"], .directory),
    (["p", "a"], .directory),
    (["p", "a", "up"], .link ".."),
    (["p", "a", "x.php"], .file []),
    (["p", "b"], .link "a"),
    (["p", "gone.php"], .link "nowhere"),
    (["p", "lib"], .link "vendor/lib"),
    (["p", "readme.md"], .file []),
    (["p", "vendor"], .directory),
    (["p", "vendor", "lib"], .directory),
    (["p", "vendor", "lib", "y.php"], .file [])]
  cwd := []
  homes := []

def tangledOptions : Options where
  root := ⟨"/", ["p"]⟩
  exclusions := ["vendor"]
  wanted := some [".php"]

def tangledTrails : List (List Location × List String × Location) := [
  ([["p"]], [], ["p"]),
  ([["p", "a"], ["p"]], ["a"], ["p", "a"]),
  ([["p", "a"], ["p"]], ["b"], ["p", "a"]),
  ([["p", "vendor", "lib"], ["p"]], ["lib"], ["p", "vendor", "lib"])]

theorem closed_tangledTrails : Closed tangled tangledOptions ["p"] tangledTrails where
  root := by decide
  enter := by decide +kernel
  free := by decide +kernel

/-- The walk goes once round the links of a plugin that lead in circles, and finds what is excluded
by one name under another. -/
theorem walk_covers_tangled :
    tangled.WellFormed ∧ tangled.Reachable ["vendor"] ["p"] ["p", "vendor", "lib"] ∧
      ∃ walk, tangled.walk tangledOptions = .ok walk ∧
        Covers tangled tangledOptions ["p"] (tangledOptions.listings tangled) walk := by
  have hfs : tangled.WellFormed :=
    ⟨by decide +kernel, by simp only [Path.Joinable]; decide +kernel, by decide +kernel⟩
  have hlib : tangled.LeadsTo ["p"] "lib" ["p", "vendor", "lib"] :=
    FileSystem.leadsTo_of_leadsTo? (by decide +kernel) (by decide +kernel)
  exact ⟨hfs, .enter .top hlib (by decide +kernel),
    walk_covers hfs (by decide +kernel) (by decide +kernel) closed_tangledTrails.unhindered⟩

/-! ### Too many links -/

/-- A directory `q/d` that is listed under a path through twenty links, from which a further path
through twenty-one links leads to `q/r`. -/
def knotted : FileSystem where
  entries :=
    [(["c"], .directory)] ++
    ((List.range 19).map fun i => (["c", toString i], .link (toString (i + 1)))) ++
    [(["c", "19"], .link "../q"),
      (["p"], .directory),
      (["p", "a"], .link "../c/1/d"),
      (["p", "d"], .link "../q/d"),
      (["q"], .directory),
      (["q", "d"], .directory),
      (["q", "d", "c"], .link "../../c/0/r"),
      (["q", "r"], .directory),
      (["q", "r", "x.php"], .file [])]
  cwd := []
  homes := []

def knottedOptions : Options where
  root := ⟨"/", ["p"]⟩
  exclusions := []
  wanted := none

theorem descend_knotted :
    descend knotted knottedOptions ⟨[], "/p"⟩ ["p"] = ["a", "d"] ∧
      descend knotted knottedOptions ⟨["a"], "/p/a"⟩ ["q", "d"] = [] := by
  constructor
  · have hnames : ((knotted.namesIn ["p"]).filter fun name =>
        entersDirectory knotted knottedOptions ⟨[], "/p"⟩ ["p"] name &&
          !knottedOptions.exclusions.contains name) = ["a", "d"] := by decide +kernel
    rw [descend, hnames]
    exact ordered_of_pairwise (by decide +kernel)
  · have hnames : ((knotted.namesIn ["q", "d"]).filter fun name =>
        entersDirectory knotted knottedOptions ⟨["a"], "/p/a"⟩ ["q", "d"] name &&
          !knottedOptions.exclusions.contains name) = [] := by decide +kernel
    rw [descend, hnames]
    exact ordered_of_pairwise .nil

/-- The second link to `q/d` is met when `q/d` has been visited. -/
theorem listings_knotted :
    knottedOptions.listings knotted = [(⟨[], "/p"⟩, ["p"]), (⟨["a"], "/p/a"⟩, ["q", "d"])] := by
  have hroot : knotted.locate (Visit.path ⟨[], "/p"⟩ knottedOptions) =
      .ok (["p"], .directory) := by decide +kernel
  have ha : knotted.locate (Visit.path ⟨["a"], "/p/a"⟩ knottedOptions) =
      .ok (["q", "d"], .directory) := by decide +kernel
  have hd : knotted.locate (Visit.path ⟨["d"], "/p/d"⟩ knottedOptions) =
      .ok (["q", "d"], .directory) := by decide +kernel
  have hshown : knottedOptions.root.toString = "/p" := by decide +kernel
  have henter : ["a", "d"].map (Visit.enter ⟨[], "/p"⟩) =
      [⟨["a"], "/p/a"⟩, ⟨["d"], "/p/d"⟩] := by decide +kernel
  rw [Options.listings, hshown,
    listings_arrived ((arrive_of_locate hroot).trans (if_neg List.not_mem_nil)),
    descend_knotted.1, henter, List.append_nil,
    listings_arrived ((arrive_of_locate ha).trans (if_neg (by decide))), descend_knotted.2,
    List.map_nil, List.nil_append,
    listings_warned ((arrive_of_locate hd).trans (if_pos (by decide))), listings_nil]

/-- The link from `q/d` to `q/r` counts as a file where `q/d` is listed. -/
theorem filesIn_knotted :
    filesIn knotted knottedOptions ⟨[], "/p"⟩ ["p"] = [] ∧
      filesIn knotted knottedOptions ⟨["a"], "/p/a"⟩ ["q", "d"] =
        [candidateAt knottedOptions ["a", "c"]] := by
  constructor
  · have hnames : ((knotted.namesIn ["p"]).filter fun name =>
        !entersDirectory knotted knottedOptions ⟨[], "/p"⟩ ["p"] name) = [] := by decide +kernel
    rw [filesIn, hnames, ordered_of_pairwise .nil, List.filterMap_nil]
  · have hnames : ((knotted.namesIn ["q", "d"]).filter fun name =>
        !entersDirectory knotted knottedOptions ⟨["a"], "/p/a"⟩ ["q", "d"] name) = ["c"] := by
      decide +kernel
    rw [filesIn, hnames, ordered_of_pairwise (List.pairwise_singleton _ _),
      List.filterMap_cons_some (candidate?_of_wants (by decide +kernel)), List.filterMap_nil]
    rfl

/-- **A path through too many links hides what can be reached**: the link from `q/d` to `q/r` leads
there, but not from where `q/d` is listed; and when `q/d` is met again by a path with fewer
links, it is not listed once more. -/
theorem exists_reachable_not_listed :
    knotted.WellFormed ∧ FileSystem.admits knottedOptions.root = true ∧
      knotted.locate knottedOptions.root = .ok (["p"], .directory) ∧
      knotted.Reachable knottedOptions.exclusions ["p"] ["q", "r"] ∧
      knotted.isDirectory (knottedOptions.pathOf ["d", "c"]) = true ∧
      (∃ walk, knotted.walk knottedOptions = .ok walk ∧
        walk.files = [candidateAt knottedOptions ["a", "c"]]) ∧
      ["q", "r"] ∉ (knottedOptions.listings knotted).map (·.2) := by
  have hfs : knotted.WellFormed :=
    ⟨by decide +kernel, by simp only [Path.Joinable]; decide +kernel, by decide +kernel⟩
  have hd : knotted.LeadsTo ["p"] "d" ["q", "d"] :=
    FileSystem.leadsTo_of_leadsTo? (by decide +kernel) (by decide +kernel)
  have hc : knotted.LeadsTo ["q", "d"] "c" ["q", "r"] :=
    FileSystem.leadsTo_of_leadsTo? (by decide +kernel) (by decide +kernel)
  -- The links alone lead there.
  have hreach : knotted.Reachable knottedOptions.exclusions ["p"] ["q", "r"] :=
    .enter (.enter .top hd List.not_mem_nil) hc List.not_mem_nil
  refine ⟨hfs, by decide +kernel, by decide +kernel, hreach, by decide +kernel, ?_, ?_⟩
  · refine ⟨_, if_pos (by decide +kernel), ?_⟩
    rw [visitAll_files]
    show (Options.listings knottedOptions knotted).flatMap _ = _
    rw [listings_knotted, List.flatMap_cons, List.flatMap_cons, filesIn_knotted.1,
      filesIn_knotted.2]
    rfl
  · rw [listings_knotted]
    decide

end PluginSweep.Walk
