/-
PluginSweep/Proofs/Walk/Segments.lean

The segments of the paths that a walk lists.  A walk never asks of a whole path whether it is
excluded, but only of the names of the directories in which it goes on.  That is enough for all
segments but the last: whatever links there are and whatever they lead to, no directory on the way
to a file has an excluded name (`directories_not_excluded`).  Exclusions are names of directories,
so a file may have one for its own name, and then it is listed (`listed_though_excluded`).

What carries the argument is that excluded names stay out of what is pending.
-/
import PluginSweep.Proofs.Walk.Pruning

namespace PluginSweep.Walk

open FileSystem

variable {fs : FileSystem} {o : Options} {walk : Walk} {below : List String} {file : Candidate}

/-- The walk goes on in no directory with an excluded name. -/
theorem not_mem_exclusions_of_mem_descend {v : Visit} {loc : Location} {name : String}
    (h : name ∈ descend fs o v loc) : name ∉ o.exclusions := by
  have hkept := (List.mem_filter.mp (mem_ordered.mp h)).2
  rw [Bool.and_eq_true, Bool.not_eq_true', List.contains_eq_mem, decide_eq_false_iff_not] at hkept
  exact hkept.2

/-- No name on the way to a directory that the walk lists is excluded. -/
theorem not_mem_exclusions_of_mem_listings :
    ∀ l ∈ o.listings fs, ∀ name ∈ l.1.below, name ∉ o.exclusions := by
  refine forall_mem_listings (P := fun v => ∀ name ∈ v.below, name ∉ o.exclusions) ?_ ?_
  · intro v loc hv dir hdir name hname
    rcases List.mem_append.mp hname with hname | hname
    · exact hv name hname
    · rw [List.mem_singleton.mp hname]
      exact not_mem_exclusions_of_mem_descend hdir
  · intro v hv
    rw [List.mem_singleton.mp hv]
    exact fun name hname => absurd hname List.not_mem_nil

/-- What is listed is found under names of which only the last can be excluded. -/
theorem exists_concat_of_mem_files (hfs : fs.WellFormed) (h : fs.walk o = .ok walk)
    (hfile : file ∈ walk.files) :
    ∃ below name, file = candidateAt o (below ++ [name]) ∧ Path.Joinable (below ++ [name]) ∧
      ∀ dir ∈ below, dir ∉ o.exclusions := by
  rw [files_of_walk h] at hfile
  obtain ⟨l, hl, hmem⟩ := List.mem_flatMap.mp hfile
  obtain ⟨name, hjoinable, hcandidate⟩ :=
    exists_of_mem_filesIn hfs (joinable_of_mem_walk_listings hfs l hl) hmem
  exact ⟨l.1.below, name, (candidate?_eq_some hcandidate).1, hjoinable,
    not_mem_exclusions_of_mem_listings l hl⟩

/-- The segments of a relative path are the names that lead to the file. -/
theorem isExcluded_relpath (h : Path.Joinable below) (hne : below ≠ []) (exclusions : List String) :
    isExcluded (candidateAt o below).relpath exclusions = below.any exclusions.contains := by
  rw [isExcluded, candidateAt, Path.ofString_intercalate h hne]
  rfl

theorem any_contains_eq_false {names exclusions : List String}
    (h : ∀ name ∈ names, name ∉ exclusions) : names.any exclusions.contains = false := by
  refine List.any_eq_false.mpr fun name hname => ?_
  rw [List.contains_eq_mem, decide_eq_true_eq]
  exact h name hname

/-- **No directory on the way to a file is excluded**, whatever links there are: the directory part
of a path that is listed is not excluded, none of its segments but the last has an excluded name,
and so the path as a whole is excluded just where the file itself has such a name. -/
theorem directories_not_excluded (hfs : fs.WellFormed) (h : fs.walk o = .ok walk)
    (hfile : file ∈ walk.files) :
    isExcluded file.directoryPart o.exclusions = false ∧
      (∀ name ∈ file.names.dropLast, name ∉ o.exclusions) ∧
      (isExcluded file.relpath o.exclusions = true ↔ file.path.name ∈ o.exclusions) := by
  obtain ⟨below, name, rfl, hjoinable, hallowed⟩ := exists_concat_of_mem_files hfs h hfile
  have hne : below ++ [name] ≠ [] := List.append_ne_nil_of_right_ne_nil _ (List.cons_ne_nil _ _)
  have hname : (candidateAt o (below ++ [name])).path.name = name := by
    rw [Path.name, candidateAt, ← List.append_assoc, List.getLastD_concat]
  refine ⟨?_, ?_, ?_⟩
  · rw [isExcluded_directoryPart hjoinable hne, List.dropLast_concat]
    exact any_contains_eq_false hallowed
  · rw [names_candidateAt hjoinable hne, List.dropLast_concat]
    exact hallowed
  · rw [isExcluded_relpath hjoinable hne, List.any_append, any_contains_eq_false hallowed, hname,
      List.any_cons, List.any_nil, Bool.false_or, Bool.or_false, List.contains_eq_mem,
      decide_eq_true_eq]

/-! ### A file with an excluded name -/

/-- A plugin with a link into an excluded directory, and a file there that has the name of that
directory. -/
def grafted : FileSystem where
  entries := [
    (["p"], .directory),
    (["p", "lib"], .link "vendor/lib"),
    (["p", "vendor"], .directory),
    (["p", "vendor", "lib"], .directory),
    (["p", "vendor", "lib", "vendor"], .file [])]
  cwd := []
  homes := []

def graftedOptions : Options where
  root := ⟨"/", ["p"]⟩
  exclusions := ["vendor"]
  wanted := none

/-- The walk comes to the excluded directory's directory by the link. -/
theorem listings_grafted :
    graftedOptions.listings grafted =
      [(⟨[], "/p"⟩, ["p"]), (⟨["lib"], "/p/lib"⟩, ["p", "vendor", "lib"])] := by
  have hroot : grafted.locate (Visit.path ⟨[], "/p"⟩ graftedOptions) =
      .ok (["p"], .directory) := by decide +kernel
  have hlib : grafted.locate (Visit.path ⟨["lib"], "/p/lib"⟩ graftedOptions) =
      .ok (["p", "vendor", "lib"], .directory) := by decide +kernel
  have hshown : graftedOptions.root.toString = "/p" := by decide +kernel
  have hdescend : descend grafted graftedOptions ⟨[], "/p"⟩ ["p"] = ["lib"] := by
    have hnames : ((grafted.namesIn ["p"]).filter fun name =>
        entersDirectory grafted graftedOptions ⟨[], "/p"⟩ ["p"] name &&
          !graftedOptions.exclusions.contains name) = ["lib"] := by decide +kernel
    rw [descend, hnames, ordered_of_pairwise (List.pairwise_singleton _ _)]
  have hend : descend grafted graftedOptions ⟨["lib"], "/p/lib"⟩ ["p", "vendor", "lib"] = [] := by
    have hnames : ((grafted.namesIn ["p", "vendor", "lib"]).filter fun name =>
        entersDirectory grafted graftedOptions ⟨["lib"], "/p/lib"⟩ ["p", "vendor", "lib"] name &&
          !graftedOptions.exclusions.contains name) = [] := by decide +kernel
    rw [descend, hnames, ordered_of_pairwise .nil]
  have henter : ["lib"].map (Visit.enter ⟨[], "/p"⟩) = [⟨["lib"], "/p/lib"⟩] := by decide +kernel
  rw [Options.listings, hshown,
    listings_arrived ((arrive_of_locate hroot).trans (if_neg List.not_mem_nil)), hdescend, henter,
    List.append_nil, listings_arrived ((arrive_of_locate hlib).trans (if_neg (by decide))), hend,
    List.map_nil, List.nil_append, listings_nil]

theorem exists_walk_grafted :
    ∃ walk, grafted.walk graftedOptions = .ok walk ∧
      candidateAt graftedOptions ["lib", "vendor"] ∈ walk.files := by
  refine ⟨_, if_pos (by decide +kernel), ?_⟩
  rw [visitAll_files]
  refine List.mem_append_right _ (List.mem_flatMap.mpr
    ⟨(⟨["lib"], "/p/lib"⟩, ["p", "vendor", "lib"]), ?_, ?_⟩)
  · show _ ∈ Options.listings graftedOptions grafted
    rw [listings_grafted]
    exact List.mem_cons_of_mem _ (List.mem_singleton_self _)
  · refine List.mem_filterMap.mpr ⟨"vendor", mem_ordered.mpr ?_, candidate?_of_wants ?_⟩
    · decide +kernel
    · decide +kernel

theorem wellFormed_grafted : grafted.WellFormed :=
  ⟨by decide +kernel, by simp only [Path.Joinable]; decide +kernel, by decide +kernel⟩

theorem directories_not_excluded_grafted :
    grafted.WellFormed ∧ ∃ walk, grafted.walk graftedOptions = .ok walk ∧
      ∃ file ∈ walk.files, file.relpath = "lib/vendor" ∧
        isExcluded file.directoryPart graftedOptions.exclusions = false ∧
        (∀ name ∈ file.names.dropLast, name ∉ graftedOptions.exclusions) ∧
        (isExcluded file.relpath graftedOptions.exclusions = true ↔
          file.path.name ∈ graftedOptions.exclusions) := by
  obtain ⟨walk, hwalk, hfile⟩ := exists_walk_grafted
  exact ⟨wellFormed_grafted, walk, hwalk, _, hfile, by decide +kernel,
    directories_not_excluded wellFormed_grafted hwalk hfile⟩

/-- **A file may have an excluded name of its own**: the last segment of a path is not compared with
the exclusions. -/
theorem listed_though_excluded :
    grafted.WellFormed ∧ ∃ walk, grafted.walk graftedOptions = .ok walk ∧
      ∃ file ∈ walk.files, isExcluded file.relpath graftedOptions.exclusions = true := by
  obtain ⟨walk, hwalk, hfile⟩ := exists_walk_grafted
  exact ⟨wellFormed_grafted, walk, hwalk, _, hfile, by decide +kernel⟩

end PluginSweep.Walk
