/-
PluginSweep/Proofs/Walk/Again.lean

A walk through a plugin to which something has been added.  If the tree is what `fs` was
but for further directories and for files that are not wanted (`Overgrown`), the walk lists
the files that it listed before, in the same order (`Overgrown.walk_files`), and reads in
them what it read before (`Overgrown.read_eq`).

The two walks go side by side.  The new walk also comes to directories that are new, but
there is nothing in those, or only other new directories; what is pending and has been
visited otherwise is what was.
-/
import PluginSweep.Proofs.FileSystem.Grounded
import PluginSweep.Proofs.FileSystem.Links
import PluginSweep.Proofs.Walk.Exclusion
import PluginSweep.Proofs.Walk.Reach

namespace PluginSweep

open FileSystem

/-- The extension of a path can be told from its last name. -/
theorem Path.extension_concat (anchor : String) (names : List String) (name : String) :
    (⟨anchor, names ++ [name]⟩ : Path).extension = Text.lowerCase (suffixOf name) := by
  rw [extension, Path.name, List.getLastD_concat]

namespace Walk

variable {fs tree : FileSystem} {o : Options} {top : Location} {visited : List Location}
  {pending : List Visit} {v : Visit} {name : String} {walk : Walk}

/-! ### Names in order -/

/-- The order of names is the same for the same names. -/
theorem ordered_congr {names names' : List String} (hnames : names.Nodup) (hnames' : names'.Nodup)
    (hsame : ∀ name, name ∈ names ↔ name ∈ names') : ordered names = ordered names' :=
  ordered_eq_of_perm ((List.perm_ext_iff_of_nodup hnames hnames').mpr hsame)

/-- The names of files that are wanted. -/
def Options.wantsName (o : Options) (name : String) : Bool :=
  o.wants (Text.lowerCase (Path.suffixOf name))

theorem wants_candidateAt (below : List String) :
    o.wants (candidateAt o (below ++ [name])).extension = o.wantsName name := by
  rw [candidateAt, ← List.append_assoc, Path.extension_concat, Options.wantsName]

/-- Files that are not wanted need not be looked at. -/
theorem filterMap_candidate? (names : List String) :
    names.filterMap (candidate? o v) = (names.filter o.wantsName).filterMap (candidate? o v) := by
  rw [List.filterMap_filter]
  refine List.filterMap_congr fun name _ => ?_
  rw [candidate?_eq, wants_candidateAt]
  split <;> rfl

/-! ### Walks through plain plugins -/

/-- The root leads to the directory at `top`, and there are no links below that. -/
structure Plain (fs : FileSystem) (o : Options) (top : Location) : Prop where
  located : fs.locate o.root = .ok (top, .directory)
  grounded : fs.Grounded
  noLink : ∀ below name target, fs.node? (top ++ below ++ [name]) ≠ some (.link target)

section Plain

variable (h : Plain fs o top)
include h

theorem Plain.entersDirectory_iff :
    entersDirectory fs o v (top ++ v.below) name = true ↔
      fs.node? (top ++ v.below ++ [name]) = some .directory := by
  rw [entersDirectory]
  split
  · rename_i hnode
    exact iff_of_true rfl hnode
  · rename_i hnode
    exact absurd hnode (h.noLink _ _ _)
  · rename_i hdirectory _
    exact iff_of_false Bool.false_ne_true hdirectory

theorem Plain.mem_descend_iff :
    name ∈ descend fs o v (top ++ v.below) ↔
      fs.node? (top ++ v.below ++ [name]) = some .directory ∧
        o.exclusions.contains name = false := by
  rw [descend, mem_ordered, List.mem_filter, Bool.and_eq_true, h.entersDirectory_iff,
    h.grounded.mem_namesIn_iff, Bool.not_eq_true']
  exact ⟨fun hname => hname.2, fun hname => ⟨⟨_, hname.1⟩, hname⟩⟩

/-- What is no directory is a file. -/
theorem Plain.mem_filter_iff :
    name ∈ (fs.namesIn (top ++ v.below)).filter
        (fun name => !entersDirectory fs o v (top ++ v.below) name) ↔
      ∃ bytes, fs.node? (top ++ v.below ++ [name]) = some (.file bytes) := by
  rw [List.mem_filter, h.grounded.mem_namesIn_iff, Bool.not_eq_true', Bool.eq_false_iff, ne_eq,
    h.entersDirectory_iff]
  constructor
  · rintro ⟨⟨node, hnode⟩, hdirectory⟩
    cases node with
    | file bytes => exact ⟨bytes, hnode⟩
    | directory => exact absurd hnode hdirectory
    | link target => exact absurd hnode (h.noLink _ _ _)
  · rintro ⟨bytes, hnode⟩
    exact ⟨⟨_, hnode⟩, by rw [hnode]; simp⟩

/-- Whether a visit is refused can be told from the names. -/
theorem Plain.locate_path (hv : fs.node? (top ++ v.below) = some .directory) :
    fs.locate (v.path o) =
      if (v.path o).toString.utf8ByteSize > pathLimit ∨
          ∃ name ∈ v.below, name.utf8ByteSize > nameLimit then .error .nameTooLong
      else .ok (top ++ v.below, .directory) :=
  locate_through h.located (h.grounded.through hv)

theorem Plain.of_arrive (hv : fs.node? (top ++ v.below) = some .directory) {loc : Location}
    (harrived : arrive fs o visited v = .ok loc) :
    loc = top ++ v.below ∧ fs.locate (v.path o) = .ok (loc, .directory) := by
  obtain ⟨⟨node, hlocate⟩, hnode, -⟩ := arrive_eq_ok harrived
  have hloc := locate_append h.located (h.grounded.through hv) hlocate
  rw [node?_of_locate hlocate] at hnode
  obtain rfl := Option.some.inj hnode
  exact ⟨hloc, hlocate⟩

/-- What is pending after a visit is pending in directories. -/
theorem Plain.forall_mem_pending {rest : List Visit}
    (hpending : ∀ w ∈ v :: rest, fs.node? (top ++ w.below) = some .directory) :
    ∀ w ∈ (descend fs o v (top ++ v.below)).map v.enter ++ rest,
      fs.node? (top ++ w.below) = some .directory := by
  intro w hw
  rcases List.mem_append.mp hw with hw | hw
  · obtain ⟨name, hname, rfl⟩ := List.mem_map.mp hw
    rw [Visit.enter, ← List.append_assoc]
    exact (h.mem_descend_iff.mp hname).1
  · exact hpending w (List.mem_cons_of_mem _ hw)

/-- A directory that is listed is where its names say. -/
theorem Plain.of_mem_listings
    (hpending : ∀ v ∈ pending, fs.node? (top ++ v.below) = some .directory) :
    ∀ l ∈ listings fs o visited pending, l.2 = top ++ l.1.below ∧
      fs.locate (l.1.path o) = .ok (l.2, .directory) := by
  fun_induction listings fs o visited pending with
  | case1 visited => exact fun l hl => absurd hl List.not_mem_nil
  | case2 visited v rest warning hwarned ih =>
    exact ih fun w hw => hpending w (List.mem_cons_of_mem _ hw)
  | case3 visited v rest loc harrived ih =>
    have hfirst := h.of_arrive (hpending v List.mem_cons_self) harrived
    obtain rfl := hfirst.1
    intro l hl
    rcases List.mem_cons.mp hl with rfl | hl
    · exact hfirst
    · exact ih (h.forall_mem_pending hpending) l hl

/-- A file that a walk lists is a file in a directory to which the walk comes. -/
theorem Plain.exists_of_mem_files (hwalk : fs.walk o = .ok walk) {file : Candidate}
    (hfile : file ∈ walk.files) :
    ∃ (v : Visit) (name : String) (bytes : List UInt8),
      fs.locate (v.path o) = .ok (top ++ v.below, .directory) ∧
      fs.node? (top ++ v.below ++ [name]) = some (.file bytes) ∧ o.wantsName name = true ∧
      file = candidateAt o (v.below ++ [name]) := by
  have hroot : ∀ v ∈ [(⟨[], o.root.toString⟩ : Visit)],
      fs.node? (top ++ v.below) = some .directory := by
    intro v hv
    rw [List.mem_singleton.mp hv, List.append_nil]
    exact node?_of_locate h.located
  rw [files_of_walk hwalk] at hfile
  obtain ⟨⟨v, loc⟩, hl, hmem⟩ := List.mem_flatMap.mp hfile
  obtain ⟨hloc, hlocate⟩ := h.of_mem_listings hroot _ hl
  dsimp only at hloc hlocate hmem
  subst hloc
  obtain ⟨name, hname, hcandidate⟩ := List.mem_filterMap.mp hmem
  obtain ⟨bytes, hnode⟩ := h.mem_filter_iff.mp (mem_ordered.mp hname)
  obtain ⟨rfl, hwants⟩ := candidate?_eq_some hcandidate
  rw [wants_candidateAt] at hwants
  exact ⟨v, name, bytes, hlocate, hnode, hwants, rfl⟩

end Plain

/-! ### More directories -/

/-- The tree has all directories of `fs`, and the same of the files that are wanted. -/
structure Overgrown (tree fs : FileSystem) (o : Options) (top : Location) : Prop where
  plain : Plain fs o top
  plainNow : Plain tree o top
  directory : ∀ loc, fs.node? loc = some .directory → tree.node? loc = some .directory
  file : ∀ loc name bytes, o.wantsName name = true →
    (tree.node? (loc ++ [name]) = some (.file bytes) ↔
      fs.node? (loc ++ [name]) = some (.file bytes))

/-- There has been a directory before. -/
def known (fs : FileSystem) (loc : Location) : Bool :=
  decide (fs.node? loc = some .directory)

/-- The visit is one of a directory that there has been before. -/
def Visit.known (fs : FileSystem) (top : Location) (v : Visit) : Bool :=
  Walk.known fs (top ++ v.below)

theorem known_iff {loc : Location} : known fs loc = true ↔ fs.node? loc = some .directory :=
  decide_eq_true_iff

namespace Overgrown

variable (h : Overgrown tree fs o top)
include h

/-- The same files are listed of every directory. -/
theorem filesIn_eq : filesIn tree o v (top ++ v.below) = filesIn fs o v (top ++ v.below) := by
  have hsame : ordered (((tree.namesIn (top ++ v.below)).filter fun name =>
        !entersDirectory tree o v (top ++ v.below) name).filter o.wantsName) =
      ordered (((fs.namesIn (top ++ v.below)).filter fun name =>
        !entersDirectory fs o v (top ++ v.below) name).filter o.wantsName) := by
    refine ordered_congr (((nodup_namesIn h.plainNow.grounded.distinct _).filter _).filter _)
      (((nodup_namesIn h.plain.grounded.distinct _).filter _).filter _) fun name => ?_
    rw [List.mem_filter (p := o.wantsName), List.mem_filter (p := o.wantsName),
      h.plainNow.mem_filter_iff, h.plain.mem_filter_iff]
    exact and_congr_left fun hwants => exists_congr fun bytes => h.file _ name bytes hwants
  rw [filesIn, filesIn, filterMap_candidate?, filter_ordered, hsame, ← filter_ordered,
    ← filterMap_candidate?]

/-- The walk goes on in the directories in which it went on before, and in new ones. -/
theorem descend_eq : (descend tree o v (top ++ v.below)).filter
    (fun name => known fs (top ++ v.below ++ [name])) = descend fs o v (top ++ v.below) := by
  rw [descend, filter_ordered]
  refine ordered_congr (((nodup_namesIn h.plainNow.grounded.distinct _).filter _).filter _)
    ((nodup_namesIn h.plain.grounded.distinct _).filter _) fun name => ?_
  have hbefore : name ∈ descend fs o v (top ++ v.below) ↔ _ := h.plain.mem_descend_iff
  have hnow : name ∈ descend tree o v (top ++ v.below) ↔ _ := h.plainNow.mem_descend_iff
  rw [descend, mem_ordered] at hbefore hnow
  rw [List.mem_filter, hnow, hbefore, known_iff]
  exact ⟨fun hname => ⟨hname.2, hname.1.2⟩,
    fun hname => ⟨⟨h.directory _ hname.1, hname.2⟩, hname.1⟩⟩

theorem map_enter_eq : ((descend tree o v (top ++ v.below)).map v.enter).filter
    (Visit.known fs top) = (descend fs o v (top ++ v.below)).map v.enter := by
  rw [← h.descend_eq, List.filter_map]
  congr 2
  funext name
  show known fs (top ++ (v.below ++ [name])) = known fs (top ++ v.below ++ [name])
  rw [List.append_assoc]

/-- Where there was no directory, there is nothing to list. -/
theorem nothing_new (hv : v.known fs top = false) :
    filesIn tree o v (top ++ v.below) = [] ∧ descend fs o v (top ++ v.below) = [] := by
  have hempty : fs.namesIn (top ++ v.below) = [] := by
    refine List.eq_nil_iff_forall_not_mem.mpr fun name hname => ?_
    obtain ⟨node, hnode⟩ := h.plain.grounded.mem_namesIn_iff.mp hname
    rw [Visit.known, known_iff.mpr (h.plain.grounded.parent_of_node? hnode)] at hv
    cases hv
  have hordered : ordered [] = [] := List.mergeSort_nil
  rw [h.filesIn_eq, filesIn, descend, hempty, List.filter_nil, List.filter_nil, hordered]
  exact ⟨rfl, rfl⟩

/-- To directories that there were the two walks come alike. -/
theorem arrive_eq (hv : v.known fs top = true) :
    arrive fs o (visited.filter (known fs)) v = arrive tree o visited v := by
  have hdirectory := known_iff.mp hv
  have hseen : top ++ v.below ∈ visited.filter (known fs) ↔ top ++ v.below ∈ visited := by
    rw [List.mem_filter, show known fs (top ++ v.below) = true from hv, and_iff_left rfl]
  rw [arrive, arrive, h.plain.locate_path hdirectory,
    h.plainNow.locate_path (h.directory _ hdirectory)]
  split
  · rfl
  · rename_i loc node hlocate
    split at hlocate
    · cases hlocate
    · obtain ⟨rfl, -⟩ := Prod.mk.inj (Except.ok.inj hlocate)
      simp only [hdirectory, h.directory _ hdirectory, hseen]

/-- The two walks go on side by side. -/
theorem listings_files
    (hpending : ∀ v ∈ pending, tree.node? (top ++ v.below) = some .directory) :
    (listings tree o visited pending).flatMap (fun l => filesIn tree o l.1 l.2) =
      (listings fs o (visited.filter (known fs))
        (pending.filter (Visit.known fs top))).flatMap fun l => filesIn fs o l.1 l.2 := by
  fun_induction listings tree o visited pending with
  | case1 visited =>
    rw [List.filter_nil, listings_nil]
    rfl
  | case2 visited v rest warning hwarned ih =>
    -- A warning lists nothing.
    have hrest := ih fun w hw => hpending w (List.mem_cons_of_mem _ hw)
    rcases hv : v.known fs top with - | -
    · rw [List.filter_cons_of_neg (Bool.eq_false_iff.mp hv)]
      exact hrest
    · rw [List.filter_cons_of_pos hv, listings_warned ((h.arrive_eq hv).trans hwarned)]
      exact hrest
  | case3 visited v rest loc harrived ih =>
    obtain ⟨rfl, -⟩ := h.plainNow.of_arrive (hpending v List.mem_cons_self) harrived
    have hrest := ih (h.plainNow.forall_mem_pending hpending)
    rw [List.filter_append, h.map_enter_eq] at hrest
    rw [List.flatMap_cons]
    rcases hv : v.known fs top with - | -
    · -- The directory is new: nothing in it is listed.
      obtain ⟨hfiles, hdescend⟩ := h.nothing_new hv
      have hunknown : ¬ known fs (top ++ v.below) = true := Bool.eq_false_iff.mp hv
      rw [List.filter_cons_of_neg hunknown, hdescend, List.map_nil, List.nil_append] at hrest
      rw [hfiles, List.nil_append, hrest, List.filter_cons_of_neg (Bool.eq_false_iff.mp hv)]
    · -- It was there before, and lists what it listed.
      have hseen : known fs (top ++ v.below) = true := hv
      rw [List.filter_cons_of_pos hseen] at hrest
      rw [hrest, List.filter_cons_of_pos hv, listings_arrived ((h.arrive_eq hv).trans harrived),
        List.flatMap_cons, h.filesIn_eq]

/-- **The walk lists the files that it listed before**, in the same order. -/
theorem walk_files : (tree.walk o).map Walk.files = (fs.walk o).map Walk.files := by
  let start : List Visit := [⟨[], o.root.toString⟩]
  have hstart : ∀ v ∈ start, tree.node? (top ++ v.below) = some .directory := by
    intro v hv
    rw [List.mem_singleton.mp hv, List.append_nil]
    exact node?_of_locate h.plainNow.located
  have hknown : start.filter (Visit.known fs top) = start := by
    refine List.filter_eq_self.mpr fun v hv => known_iff.mpr ?_
    rw [List.mem_singleton.mp hv, List.append_nil]
    exact node?_of_locate h.plain.located
  have hside : (listings tree o [] start).flatMap (fun l => filesIn tree o l.1 l.2) = _ :=
    h.listings_files hstart
  rw [hknown, List.filter_nil] at hside
  rw [map_files_walk, map_files_walk]
  split
  · exact congrArg Except.ok hside
  · rfl

/-- **The files that are listed hold what they held before.** -/
theorem read_eq (hwalk : fs.walk o = .ok walk) {file : Candidate} (hfile : file ∈ walk.files) :
    tree.read file.path = fs.read file.path := by
  obtain ⟨v, name, bytes, hlocate, hnode, hwants, rfl⟩ :=
    h.plain.exists_of_mem_files hwalk hfile
  have hdirectory := node?_of_locate hlocate
  have hnow : tree.locate (v.path o) = .ok (top ++ v.below, .directory) := by
    rw [h.plainNow.locate_path (h.directory _ hdirectory), ← h.plain.locate_path hdirectory,
      hlocate]
  have hnodeNow := (h.file _ name bytes hwants).mpr hnode
  have hproper := h.plain.grounded.proper_of_node? hnode
  have hpath : (candidateAt o (v.below ++ [name])).path =
      ⟨(v.path o).anchor, (v.path o).names ++ [name]⟩ := by
    rw [candidateAt, Visit.path, List.append_assoc]
  rw [FileSystem.read, FileSystem.read, hpath, locate_file hlocate hproper hnode,
    locate_file hnow hproper hnodeNow]

end Overgrown

end Walk

end PluginSweep
