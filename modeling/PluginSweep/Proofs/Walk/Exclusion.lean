/-
PluginSweep/Proofs/Walk/Exclusion.lean

Leaving directories out of a walk.  Where only real directories are entered, a
walk that leaves further directories out lists the files of the walk that does
not, less those that have such a directory on their way, in the same order
(`walk_hiding`).

The two walks go side by side.  What is pending in the one is what is pending in
the other and has no such directory on its way, and so it is with what has been
visited: a directory is visited at the location that its names say, so whether
there is such a directory on the way to it can be told from its location.
-/
import PluginSweep.Proofs.FileSystem.Below
import PluginSweep.Proofs.Walk.Candidate

namespace PluginSweep

/-- The names of the directories on the way from the root to the file. -/
def Candidate.directories (file : Candidate) (root : Path) : List String :=
  (file.path.names.drop root.names.length).dropLast

namespace Walk

variable {fs : FileSystem} {o : Options} {visited : List Location} {walk : Walk} {v : Visit}
  {rest : List Visit}

/-! ### Order -/

theorem mem_ordered {names : List String} {name : String} :
    name ∈ ordered names ↔ name ∈ names :=
  (List.mergeSort_perm _ _).mem_iff

theorem pairwise_ordered (names : List String) :
    (ordered names).Pairwise fun a b => decide (a ≤ b) = true := by
  refine List.pairwise_mergeSort (fun a b c hab hbc => ?_) (fun a b => ?_) names
  · exact decide_eq_true (String.le_trans (of_decide_eq_true hab) (of_decide_eq_true hbc))
  · simpa using String.le_total a b

/-- Names that are in order already stay as they are. -/
theorem ordered_of_pairwise {names : List String} (h : names.Pairwise (· ≤ ·)) :
    ordered names = names :=
  List.mergeSort_of_pairwise (h.imp decide_eq_true)

/-- The order of names does not depend on the order in which they are given. -/
theorem ordered_eq_of_perm {names names' : List String} (h : names.Perm names') :
    ordered names = ordered names' := by
  have hperm : (ordered names).Perm (ordered names') :=
    ((List.mergeSort_perm _ _).trans h).trans (List.mergeSort_perm _ _).symm
  refine List.Perm.eq_of_pairwise (fun a b _ _ hab hba => ?_) (pairwise_ordered _)
    (pairwise_ordered _) hperm
  exact String.le_antisymm (of_decide_eq_true hab) (of_decide_eq_true hba)

/-- Names keep their order when some are left out. -/
theorem filter_ordered (p : String → Bool) (names : List String) :
    (ordered names).filter p = ordered (names.filter p) := by
  have hsorted : ((ordered names).filter p).Pairwise (· ≤ ·) :=
    ((pairwise_ordered names).filter p).imp of_decide_eq_true
  rw [← ordered_of_pairwise hsorted]
  exact ordered_eq_of_perm ((List.mergeSort_perm _ _).filter p)

/-! ### Steps of a walk -/

theorem visitAll_warned {warning : Warning} (h : arrive fs o visited v = .error warning) :
    visitAll fs o visited walk (v :: rest) =
      visitAll fs o visited { walk with warnings := walk.warnings ++ [warning] } rest := by
  rw [visitAll]
  split
  · rename_i other hother
    obtain rfl := Except.error.inj (hother.symm.trans h)
    rfl
  · rename_i loc hloc
    cases hloc.symm.trans h

theorem visitAll_arrived {loc : Location} (h : arrive fs o visited v = .ok loc) :
    visitAll fs o visited walk (v :: rest) =
      visitAll fs o (loc :: visited) { walk with files := walk.files ++ filesIn fs o v loc }
        ((descend fs o v loc).map v.enter ++ rest) := by
  rw [visitAll]
  split
  · rename_i warning hwarning
    cases hwarning.symm.trans h
  · rename_i other hother
    obtain rfl := Except.ok.inj (hother.symm.trans h)
    rfl

/-! ### Walks side by side -/

/-- Below the location only real directories are entered, by names that can be those of
entries. -/
structure Tidy (fs : FileSystem) (o : Options) (top : Location) : Prop where
  proper : ∀ below name, name ∈ fs.namesIn (top ++ below) → Proper name
  real : ∀ v name, entersDirectory fs o v (top ++ v.below) name = true →
    fs.node? (top ++ (v.below ++ [name])) = some .directory

section Hiding

variable {hidden : String → Bool} {exclusions : List String}

/-- No directory on the way is hidden. -/
def Visit.clear (hidden : String → Bool) (v : Visit) : Bool :=
  !v.below.any hidden

/-- No directory on the way from the root to the file is hidden. -/
def clearOf (hidden : String → Bool) (root : Path) (file : Candidate) : Bool :=
  !(file.directories root).any hidden

theorem directories_candidateAt (o : Options) (below : List String) :
    (candidateAt o below).directories o.root = below.dropLast := by
  rw [Candidate.directories, candidateAt, List.drop_left]

theorem directories_of_mem_filesIn {loc : Location} {file : Candidate}
    (h : file ∈ filesIn fs o v loc) : file.directories o.root = v.below := by
  obtain ⟨name, -, hname⟩ := List.mem_filterMap.mp h
  obtain ⟨rfl, -⟩ := candidate?_eq_some hname
  rw [directories_candidateAt, List.dropLast_concat]

/-- The files of a directory are all left out, or none of them is. -/
theorem filter_filesIn (loc : Location) :
    (filesIn fs o v loc).filter (clearOf hidden o.root) =
      if v.clear hidden then filesIn fs o v loc else [] := by
  have hclear : ∀ file ∈ filesIn fs o v loc, clearOf hidden o.root file = v.clear hidden := by
    intro file hfile
    rw [clearOf, directories_of_mem_filesIn hfile, Visit.clear]
  split
  · rename_i hv
    exact List.filter_eq_self.mpr fun file hfile => (hclear file hfile).trans hv
  · rename_i hv
    refine List.filter_eq_nil_iff.mpr fun file hfile => ?_
    rw [hclear file hfile]
    exact hv

/-- The exclusions of a walk, and further ones. -/
def Extends (exclusions : List String) (hidden : String → Bool) (o : Options) : Prop :=
  ∀ name, exclusions.contains name = (o.exclusions.contains name || hidden name)

theorem descend_hiding (hexclusions : Extends exclusions hidden o) (loc : Location) :
    descend fs { o with exclusions } v loc = (descend fs o v loc).filter (!hidden ·) := by
  rw [descend, descend, filter_ordered, List.filter_filter]
  congr 2
  funext name
  show (entersDirectory fs o v loc name && !exclusions.contains name) =
    (!hidden name && (entersDirectory fs o v loc name && !o.exclusions.contains name))
  rw [hexclusions name]
  cases entersDirectory fs o v loc name <;> cases o.exclusions.contains name <;>
    cases hidden name <;> rfl

theorem clear_enter (name : String) :
    (v.enter name).clear hidden = (v.clear hidden && !hidden name) := by
  rw [Visit.clear, Visit.clear, Visit.enter, List.any_append]
  simp

/-- What is pending in the directories that a visit leads to. -/
theorem map_enter_hiding (hexclusions : Extends exclusions hidden o) (loc : Location)
    (hv : v.clear hidden = true) :
    (descend fs { o with exclusions } v loc).map v.enter =
      ((descend fs o v loc).map v.enter).filter (Visit.clear hidden) := by
  rw [descend_hiding hexclusions, List.filter_map]
  congr 2
  funext name
  show (!hidden name) = (v.enter name).clear hidden
  rw [clear_enter, hv, Bool.true_and]

theorem map_enter_hidden {names : List String} (hv : v.clear hidden = false) :
    (names.map v.enter).filter (Visit.clear hidden) = [] := by
  refine List.filter_eq_nil_iff.mpr fun w hw => ?_
  obtain ⟨name, -, rfl⟩ := List.mem_map.mp hw
  rw [clear_enter, hv, Bool.false_and]
  exact Bool.false_ne_true

/-- No name that leads to the location from the top is hidden. -/
def reached (hidden : String → Bool) (top loc : Location) : Bool :=
  !(loc.drop top.length).any hidden

theorem reached_append (top : Location) : reached hidden top (top ++ v.below) = v.clear hidden := by
  rw [reached, List.drop_left, Visit.clear]

/-- Whatever is pending is pending in directories below the top, and the directories to which a
visit leads are as well. -/
theorem through_enter {top : Location} (htidy : Tidy fs o top) (hv : fs.Through top v.below)
    {w : Visit} (hw : w ∈ (descend fs o v (top ++ v.below)).map v.enter) :
    fs.Through top w.below := by
  obtain ⟨name, hname, rfl⟩ := List.mem_map.mp hw
  rw [descend, mem_ordered, List.mem_filter, Bool.and_eq_true] at hname
  obtain ⟨hlisted, henters, -⟩ := hname
  exact hv.append (htidy.proper v.below name hlisted) (htidy.real v name henters)

/-- The two walks arrive at the same places, with the same warnings. -/
theorem arrive_hiding (exclusions : List String) {top : Location}
    (htop : fs.locate o.root = .ok (top, .directory)) (hv : fs.Through top v.below)
    (hclear : v.clear hidden = true) :
    arrive fs { o with exclusions } (visited.filter (reached hidden top)) v =
      arrive fs o visited v := by
  rw [arrive, arrive, show v.path { o with exclusions } = v.path o from rfl]
  rcases hlocate : fs.locate (v.path o) with cause | ⟨loc, node⟩
  · rfl
  · obtain rfl := FileSystem.locate_append htop hv hlocate
    have hseen : top ++ v.below ∈ visited.filter (reached hidden top) ↔
        top ++ v.below ∈ visited := by
      rw [List.mem_filter, reached_append, hclear, and_iff_left rfl]
    simp only [hseen]

/-- The two walks go on side by side. -/
theorem visitAll_hiding (visited : List Location) {top : Location}
    (htop : fs.locate o.root = .ok (top, .directory)) (htidy : Tidy fs o top)
    (hexclusions : Extends exclusions hidden o) {pending : List Visit}
    (hpending : ∀ v ∈ pending, fs.Through top v.below) {walk' : Walk}
    (hwalk : walk'.files = walk.files.filter (clearOf hidden o.root)) :
    (visitAll fs { o with exclusions } (visited.filter (reached hidden top)) walk'
      (pending.filter (Visit.clear hidden))).files =
    (visitAll fs o visited walk pending).files.filter (clearOf hidden o.root) := by
  fun_induction visitAll fs o visited walk pending generalizing walk' with
  | case1 visited walk =>
    rw [List.filter_nil, visitAll]
    exact hwalk
  | case2 visited walk v rest warning hwarned ih =>
    -- The visit ends with a warning; the other walk warns as well, unless it does not come here.
    have hrest := fun v hv => hpending v (List.mem_cons_of_mem _ hv)
    rcases hv : v.clear hidden with - | -
    · rw [List.filter_cons_of_neg (Bool.eq_false_iff.mp hv)]
      exact ih hrest hwalk
    · have hfirst := hpending v (List.mem_cons_self ..)
      rw [List.filter_cons_of_pos hv,
        visitAll_warned ((arrive_hiding exclusions htop hfirst hv).trans hwarned)]
      exact ih hrest hwalk
  | case3 visited walk v rest loc harrived ih =>
    have hfirst := hpending v (List.mem_cons_self ..)
    obtain ⟨⟨node, hlocate⟩, -, -⟩ := arrive_eq_ok harrived
    obtain rfl := FileSystem.locate_append htop hfirst hlocate
    have hnext : ∀ w ∈ (descend fs o v (top ++ v.below)).map v.enter ++ rest,
        fs.Through top w.below := by
      intro w hw
      rcases List.mem_append.mp hw with hw | hw
      · exact through_enter htidy hfirst hw
      · exact hpending w (List.mem_cons_of_mem _ hw)
    rcases hv : v.clear hidden with - | -
    · -- The other walk does not come here, nor to what is below.
      have hfiles : walk'.files = (walk.files ++ filesIn fs o v (top ++ v.below)).filter
          (clearOf hidden o.root) := by
        rw [List.filter_append, filter_filesIn, hv, hwalk]
        exact (List.append_nil _).symm
      have hskip := ih hnext hfiles
      rw [List.filter_append, map_enter_hidden hv, List.nil_append,
        List.filter_cons_of_neg (by rw [reached_append, hv]; exact Bool.false_ne_true)] at hskip
      rw [List.filter_cons_of_neg (Bool.eq_false_iff.mp hv)]
      exact hskip
    · -- The other walk comes here too, and enters what is not hidden.
      have hfiles : ({ walk' with files := walk'.files ++ filesIn fs o v (top ++ v.below) } :
          Walk).files = (walk.files ++ filesIn fs o v (top ++ v.below)).filter
            (clearOf hidden o.root) := by
        rw [List.filter_append, filter_filesIn, if_pos hv, hwalk]
      have hgo := ih hnext hfiles
      rw [List.filter_append, ← map_enter_hiding hexclusions _ hv,
        List.filter_cons_of_pos ((reached_append top).trans hv)] at hgo
      rw [List.filter_cons_of_pos hv,
        visitAll_arrived ((arrive_hiding exclusions htop hfirst hv).trans harrived)]
      exact hgo

/-- **Leaving directories out is leaving their files out**: what a walk with further exclusions
lists are the files of the walk without them that have no such directory on their way, in the
same order. -/
theorem walk_hiding {top : Location} (htop : fs.locate o.root = .ok (top, .directory))
    (htidy : Tidy fs o top) (hexclusions : Extends exclusions hidden o) :
    (fs.walk { o with exclusions }).map Walk.files =
      (fs.walk o).map fun walk => walk.files.filter (clearOf hidden o.root) := by
  have hroot : fs.Through top [] := by
    refine ⟨fun name hname => absurd hname List.not_mem_nil, fun before hbefore => ?_⟩
    rw [List.prefix_nil.mp hbefore, List.append_nil]
    exact FileSystem.node?_of_locate htop
  let start : List Visit := [⟨[], o.root.toString⟩]
  have hstart : ∀ v ∈ start, fs.Through top v.below := by
    intro v hv
    rw [List.mem_singleton.mp hv]
    exact hroot
  have hempty : ({} : Walk).files = ({} : Walk).files.filter (clearOf hidden o.root) := rfl
  have hside : (visitAll fs { o with exclusions } [] {} start).files =
      (visitAll fs o [] {} start).files.filter (clearOf hidden o.root) :=
    visitAll_hiding [] htop htidy hexclusions hstart hempty
  rw [FileSystem.walk, FileSystem.walk]
  dsimp only
  split
  · exact congrArg Except.ok hside
  · rfl

end Hiding

/-- A tree without links is tidy. -/
theorem tidy_of_plainBelow {top : Location} (h : fs.PlainBelow top) : Tidy fs o top where
  proper := fun below name hname => h.proper_of_mem_namesIn hname
  real := by
    intro v name henters
    rw [← List.append_assoc]
    rw [entersDirectory] at henters
    split at henters
    · assumption
    · exact absurd ‹_› h.node?_ne_link
    · cases henters

end Walk

end PluginSweep
