/-
PluginSweep/Proofs/Walk/Relisting.lean

The order in which directories list their entries.  Two trees may be the same but for that
order (`Relisted`): paths are traced alike in both, and only the names in a directory come in
another order.  A walk puts these in an order of its own before it makes anything of them, so
it lists the same files in both trees, and warns of the same, in the same order
(`walk_relisted`), whichever of several ways to one directory there are.
-/
import PluginSweep.Proofs.FileSystem.Grounded
import PluginSweep.Proofs.Walk.Coverage

namespace PluginSweep

namespace FileSystem

variable {fs fs' : FileSystem} {purpose : Purpose}

/-- The trees are the same, but for the order in which directories list their entries. -/
structure Relisted (fs' fs : FileSystem) : Prop where
  cwd : fs'.cwd = fs.cwd
  node : ∀ loc, fs'.node? loc = fs.node? loc
  names : ∀ loc, (fs'.namesIn loc).Perm (fs.namesIn loc)

/-- Entries at different places can come in any order. -/
theorem relisted_of_perm (hdistinct : (fs.entries.map (·.1)).Nodup)
    (hperm : fs'.entries.Perm fs.entries) (hcwd : fs'.cwd = fs.cwd) : Relisted fs' fs where
  cwd := hcwd
  node := by
    intro loc
    have hdistinct' : (fs'.entries.map (·.1)).Nodup :=
      (hperm.map (·.1)).nodup_iff.mpr hdistinct
    by_cases hloc : loc = []
    · rw [hloc]
      rfl
    · refine Option.ext fun node => ⟨fun hnode => ?_, fun hnode => ?_⟩
      · exact node?_of_mem hdistinct (hperm.subset (mem_entries_of_node? hloc hnode)) hloc
      · exact node?_of_mem hdistinct' (hperm.symm.subset (mem_entries_of_node? hloc hnode)) hloc
  names := fun loc => hperm.filterMap _

/-! ### Tracing paths -/

theorem follow_relisted (h : Relisted fs' fs)
    (detour : Location → List String → Except OsCause Location) (here : Location)
    (names : List String) :
    fs'.follow purpose detour here names = fs.follow purpose detour here names := by
  induction names generalizing here with
  | nil => rfl
  | cons name rest ih =>
    rw [follow, follow]
    simp only [h.node, ih]

theorem traceFrom_relisted (h : Relisted fs' fs) (links : Nat) (here : Location)
    (names : List String) :
    fs'.traceFrom purpose links here names = fs.traceFrom purpose links here names := by
  induction links generalizing here names with
  | zero => exact follow_relisted h _ here names
  | succ fewer ih =>
    have hdetour : fs'.traceFrom purpose fewer = fs.traceFrom purpose fewer :=
      funext fun here => funext fun names => ih here names
    rw [traceFrom, traceFrom, hdetour]
    exact follow_relisted h _ here names

/-- Paths lead to the same places, and are refused for the same causes. -/
theorem Relisted.locate_eq (h : Relisted fs' fs) (p : Path) : fs'.locate p = fs.locate p := by
  simp only [locate, trace, h.cwd, h.node, traceFrom_relisted h]

theorem Relisted.isDirectory_eq (h : Relisted fs' fs) (p : Path) :
    fs'.isDirectory p = fs.isDirectory p := by
  rw [isDirectory, isDirectory, h.locate_eq]

end FileSystem

namespace Walk

open FileSystem

variable {fs fs' : FileSystem} {o : Options} {visited : List Location} {pending : List Visit}
  {walk : Walk} {v : Visit} {loc : Location}

/-! ### Walks -/

theorem entersDirectory_relisted (h : Relisted fs' fs) (name : String) :
    entersDirectory fs' o v loc name = entersDirectory fs o v loc name := by
  rw [entersDirectory, entersDirectory, h.node, h.isDirectory_eq]

theorem descend_relisted (h : Relisted fs' fs) : descend fs' o v loc = descend fs o v loc := by
  rw [descend, descend]
  simp only [entersDirectory_relisted h]
  exact ordered_eq_of_perm ((h.names loc).filter _)

theorem filesIn_relisted (h : Relisted fs' fs) : filesIn fs' o v loc = filesIn fs o v loc := by
  rw [filesIn, filesIn]
  simp only [entersDirectory_relisted h]
  rw [ordered_eq_of_perm ((h.names loc).filter _)]

theorem arrive_relisted (h : Relisted fs' fs) :
    arrive fs' o visited v = arrive fs o visited v := by
  simp only [arrive, h.locate_eq, h.node]

/-- The two walks go the same way. -/
theorem visitAll_relisted (h : Relisted fs' fs) :
    visitAll fs' o visited walk pending = visitAll fs o visited walk pending := by
  fun_induction visitAll fs o visited walk pending with
  | case1 visited walk => rw [visitAll]
  | case2 visited walk v rest warning hwarned ih =>
    rw [visitAll_warned ((arrive_relisted h).trans hwarned), ih]
  | case3 visited walk v rest loc harrived ih =>
    rw [visitAll_arrived ((arrive_relisted h).trans harrived), filesIn_relisted h,
      descend_relisted h, ih]

/-- **A walk does not depend on the order in which directories list their entries**, nor do its
warnings, whatever links there are. -/
theorem walk_relisted (h : Relisted fs' fs) : fs'.walk o = fs.walk o := by
  rw [FileSystem.walk, FileSystem.walk, visitAll_relisted h]

/-- The plugin whose links lead in circles, listed from the other end. -/
def tangledReversed : FileSystem where
  entries := tangled.entries.reverse
  cwd := []
  homes := []

theorem walk_relisted_tangled :
    tangledReversed.Relisted tangled ∧ tangledReversed.namesIn ["p"] ≠ tangled.namesIn ["p"] ∧
      tangledReversed.walk tangledOptions = tangled.walk tangledOptions := by
  have hrelisted : tangledReversed.Relisted tangled :=
    relisted_of_perm (by decide +kernel) tangled.entries.reverse_perm rfl
  exact ⟨hrelisted, by decide +kernel, walk_relisted hrelisted⟩

end Walk

end PluginSweep
