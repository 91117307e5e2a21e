/-
PluginSweep/Proofs/Walk/Precedence.lean

The order in which a walk lists files.  The files of a directory come first, in the order of
their names, and then everything in the directories in it, in the order of theirs (`Precedes`).
Whatever links there are, a walk lists its candidates in this order (`pairwise_precedes`).

What is pending is pending in directories of which each comes, with all below it, before the
next (`Apart`), and it stays so when a directory is replaced by the directories in it.
-/
import PluginSweep.Proofs.Walk.Reach

namespace PluginSweep

/-- The names of the relative path of a file. -/
def Candidate.names (file : Candidate) : List String :=
  (Path.ofString file.relpath).names

namespace Walk

open FileSystem (WellFormed)

variable {fs : FileSystem} {o : Options} {visited : List Location} {pending : List Visit}
  {walk : Walk} {below below' : List String} {name name' : String}

/-! ### Depth first -/

/-- The names of directories and then of a file lead to a file that comes before the other. -/
inductive Precedes : List String → List String → Prop
  /-- Files of one directory come in the order of their names. -/
  | file {name name' : String} (h : name < name') : Precedes [name] [name']
  /-- A file comes before everything in the directories beside it. -/
  | above {name dir : String} {rest : List String} (hrest : rest ≠ []) :
      Precedes [name] (dir :: rest)
  /-- Everything in a directory comes before everything in a greater one beside it. -/
  | beside {dir dir' : String} {rest rest' : List String} (h : dir < dir') (hrest : rest ≠ [])
      (hrest' : rest' ≠ []) : Precedes (dir :: rest) (dir' :: rest')
  | within {dir : String} {rest rest' : List String} (h : Precedes rest rest') :
      Precedes (dir :: rest) (dir :: rest')

theorem Precedes.append (h : Precedes below below') (common : List String) :
    Precedes (common ++ below) (common ++ below') := by
  induction common with
  | nil => exact h
  | cons dir common ih => exact .within ih

/-- Everything in one directory comes before everything in the other. -/
def Apart (below below' : List String) : Prop :=
  ∀ rest rest', rest ≠ [] → rest' ≠ [] → Precedes (below ++ rest) (below' ++ rest')

theorem Apart.append (h : Apart below below') (more more' : List String) :
    Apart (below ++ more) (below' ++ more') := by
  intro rest rest' hrest hrest'
  rw [List.append_assoc, List.append_assoc]
  exact h _ _ (List.append_ne_nil_of_right_ne_nil _ hrest)
    (List.append_ne_nil_of_right_ne_nil _ hrest')

theorem apart_of_lt (common : List String) (h : name < name') :
    Apart (common ++ [name]) (common ++ [name']) := by
  intro rest rest' hrest hrest'
  rw [List.append_assoc, List.append_assoc]
  exact (Precedes.beside h hrest hrest').append common

/-- Names that are given once each are in increasing order. -/
theorem pairwise_lt_ordered {names : List String} (h : names.Nodup) :
    (ordered names).Pairwise (· < ·) := by
  have hnodup : (ordered names).Nodup := (List.mergeSort_perm _ _).nodup_iff.mpr h
  refine ((pairwise_ordered names).and hnodup).imp fun {a b} hab => ?_
  exact String.not_le.mp fun hba => hab.2 (String.le_antisymm (of_decide_eq_true hab.1) hba)

/-! ### Directories -/

/-- Every file of the one directory comes before every file of the other. -/
def Earlier (l l' : Visit × Location) : Prop :=
  ∀ name name', Precedes (l.1.below ++ [name]) (l'.1.below ++ [name'])

theorem Apart.earlier {v : Visit} {loc : Location} {l : Visit × Location}
    (h : Apart v.below below) (hunder : below <+: l.1.below) : Earlier (v, loc) l := by
  obtain ⟨more, hmore⟩ := hunder
  intro name name'
  have hapart := h.append [] more
  rw [List.append_nil, hmore] at hapart
  exact hapart [name] [name'] (List.cons_ne_nil _ _) (List.cons_ne_nil _ _)

/-- The files of a directory come before those below it. -/
theorem earlier_of_enter {v : Visit} {loc : Location} {l : Visit × Location} {dir : String}
    (hunder : (v.enter dir).below <+: l.1.below) : Earlier (v, loc) l := by
  obtain ⟨more, hmore⟩ := hunder
  intro name name'
  rw [← hmore, Visit.enter, List.append_assoc, List.append_assoc]
  exact (Precedes.above
    (List.append_ne_nil_of_right_ne_nil _ (List.cons_ne_nil _ _))).append v.below

/-- The directories in a directory come one after the other, and before what was to come after
it. -/
theorem pairwise_apart_arrived (hfs : fs.WellFormed) {v : Visit} {rest : List Visit}
    (loc : Location) (hpending : (v :: rest).Pairwise fun v w => Apart v.below w.below) :
    ((descend fs o v loc).map v.enter ++ rest).Pairwise fun v w => Apart v.below w.below := by
  obtain ⟨hfirst, hrest⟩ := List.pairwise_cons.mp hpending
  refine List.pairwise_append.mpr ⟨?_, hrest, fun w hw w' hw' => ?_⟩
  · have hlt : (descend fs o v loc).Pairwise (· < ·) :=
      pairwise_lt_ordered ((hfs.nodup_namesIn loc).filter _)
    exact List.pairwise_map.mpr (hlt.imp fun hname => apart_of_lt v.below hname)
  · obtain ⟨name, -, rfl⟩ := List.mem_map.mp hw
    have hapart := (hfirst w' hw').append [name] []
    rwa [List.append_nil] at hapart

/-- **The directories are listed depth first.** -/
theorem pairwise_listings (hfs : fs.WellFormed)
    (hpending : pending.Pairwise fun v w => Apart v.below w.below) :
    (∀ l ∈ listings fs o visited pending, ∃ v ∈ pending, v.below <+: l.1.below) ∧
      (listings fs o visited pending).Pairwise Earlier := by
  fun_induction listings fs o visited pending with
  | case1 visited => exact ⟨fun l hl => absurd hl List.not_mem_nil, .nil⟩
  | case2 visited v rest warning hwarned ih =>
    obtain ⟨hbelow, hpairwise⟩ := ih (List.pairwise_cons.mp hpending).2
    refine ⟨fun l hl => ?_, hpairwise⟩
    obtain ⟨w, hw, hunder⟩ := hbelow l hl
    exact ⟨w, List.mem_cons_of_mem _ hw, hunder⟩
  | case3 visited v rest loc harrived ih =>
    obtain ⟨hbelow, hpairwise⟩ := ih (pairwise_apart_arrived hfs loc hpending)
    -- What is listed later is below this directory, or below one that is pending after it.
    have hlater : ∀ l ∈ listings fs o (loc :: visited) ((descend fs o v loc).map v.enter ++ rest),
        (∃ dir, (v.enter dir).below <+: l.1.below) ∨ ∃ w ∈ rest, w.below <+: l.1.below := by
      intro l hl
      obtain ⟨w, hw, hunder⟩ := hbelow l hl
      rcases List.mem_append.mp hw with hw | hw
      · obtain ⟨dir, -, rfl⟩ := List.mem_map.mp hw
        exact .inl ⟨dir, hunder⟩
      · exact .inr ⟨w, hw, hunder⟩
    refine ⟨fun l hl => ?_, List.pairwise_cons.mpr ⟨fun l hl => ?_, hpairwise⟩⟩
    · rcases List.mem_cons.mp hl with rfl | hl
      · exact ⟨v, List.mem_cons_self, List.prefix_rfl⟩
      · rcases hlater l hl with ⟨dir, hunder⟩ | ⟨w, hw, hunder⟩
        · exact ⟨v, List.mem_cons_self, (List.prefix_append _ _).trans hunder⟩
        · exact ⟨w, List.mem_cons_of_mem _ hw, hunder⟩
    · rcases hlater l hl with ⟨dir, hunder⟩ | ⟨w, hw, hunder⟩
      · exact earlier_of_enter hunder
      · exact ((List.pairwise_cons.mp hpending).1 w hw).earlier hunder

/-! ### Files -/

/-- The directories to which a walk comes are below the root by names that can be joined. -/
theorem joinable_of_mem_listings (hfs : fs.WellFormed)
    (hpending : ∀ v ∈ pending, Path.Joinable v.below) :
    ∀ l ∈ listings fs o visited pending, Path.Joinable l.1.below := by
  refine forall_mem_listings (P := fun v => Path.Joinable v.below) ?_ hpending
  intro v loc hv name hname
  have hlisted : name ∈ fs.namesIn loc := (List.mem_filter.mp (mem_ordered.mp hname)).1
  exact hv.append (hfs.of_mem_namesIn hlisted).1

theorem names_candidateAt (h : Path.Joinable below) (hne : below ≠ []) :
    (candidateAt o below).names = below := by
  rw [Candidate.names, candidateAt, Path.ofString_intercalate h hne]

theorem names_of_candidate? {v : Visit} (h : Path.Joinable (v.below ++ [name]))
    {file : Candidate} (hfile : candidate? o v name = some file) :
    file.names = v.below ++ [name] := by
  obtain ⟨rfl, -⟩ := candidate?_eq_some hfile
  exact names_candidateAt h (List.append_ne_nil_of_right_ne_nil _ (List.cons_ne_nil _ _))

/-- A file that is listed of a directory has the name of an entry there, after the names of the
directories that lead there. -/
theorem exists_of_mem_filesIn (hfs : fs.WellFormed) {v : Visit} {loc : Location}
    (hv : Path.Joinable v.below) {file : Candidate} (h : file ∈ filesIn fs o v loc) :
    ∃ name, Path.Joinable (v.below ++ [name]) ∧ candidate? o v name = some file := by
  obtain ⟨name, hname, hfile⟩ := List.mem_filterMap.mp h
  have hlisted : name ∈ fs.namesIn loc := (List.mem_filter.mp (mem_ordered.mp hname)).1
  exact ⟨name, hv.append (hfs.of_mem_namesIn hlisted).1, hfile⟩

/-- The files of one directory are listed in the order of their names. -/
theorem pairwise_filesIn (hfs : fs.WellFormed) {v : Visit} {loc : Location}
    (hv : Path.Joinable v.below) :
    (filesIn fs o v loc).Pairwise fun file file' => Precedes file.names file'.names := by
  have hlt : (ordered ((fs.namesIn loc).filter fun name =>
      !entersDirectory fs o v loc name)).Pairwise (· < ·) :=
    pairwise_lt_ordered ((hfs.nodup_namesIn loc).filter _)
  refine List.pairwise_filterMap.mpr (hlt.imp_of_mem fun {name name'} hname hname' h => ?_)
  intro file hfile file' hfile'
  have hjoinable : ∀ other ∈ ordered ((fs.namesIn loc).filter fun name =>
      !entersDirectory fs o v loc name), Path.Joinable (v.below ++ [other]) := fun other hother =>
    hv.append (hfs.of_mem_namesIn (List.mem_filter.mp (mem_ordered.mp hother)).1).1
  rw [names_of_candidate? (hjoinable name hname) hfile,
    names_of_candidate? (hjoinable name' hname') hfile']
  exact (Precedes.file h).append v.below

theorem joinable_of_mem_walk_listings (hfs : fs.WellFormed) :
    ∀ l ∈ o.listings fs, Path.Joinable l.1.below := by
  refine joinable_of_mem_listings hfs fun v hv => ?_
  rw [List.mem_singleton.mp hv]
  exact fun name hname => absurd hname List.not_mem_nil

/-- **Files are listed in order**: the files of a directory by name, then by the names of the
directories in it everything in each of these. -/
theorem pairwise_precedes (hfs : fs.WellFormed) (h : fs.walk o = .ok walk) :
    walk.files.Pairwise fun file file' => Precedes file.names file'.names := by
  have hjoinable := joinable_of_mem_walk_listings (o := o) hfs
  have hearlier : (o.listings fs).Pairwise Earlier :=
    (pairwise_listings hfs (List.pairwise_singleton _ _)).2
  rw [files_of_walk h]
  refine List.pairwise_flatMap.mpr ⟨fun l hl => pairwise_filesIn hfs (hjoinable l hl), ?_⟩
  refine hearlier.imp_of_mem fun {l l'} hl hl' h file hfile file' hfile' => ?_
  obtain ⟨name, hname, hfile⟩ := exists_of_mem_filesIn hfs (hjoinable l hl) hfile
  obtain ⟨name', hname', hfile'⟩ := exists_of_mem_filesIn hfs (hjoinable l' hl') hfile'
  rw [names_of_candidate? hname hfile, names_of_candidate? hname' hfile']
  exact h name name'

end Walk

end PluginSweep
