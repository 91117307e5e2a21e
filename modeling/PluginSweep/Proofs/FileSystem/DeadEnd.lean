/-
PluginSweep/Proofs/FileSystem/DeadEnd.lean

Where no trace goes on.  A trace goes on from directories and from links, so a
place that is free or holds a file is the end of every trace that meets it
(`DeadEnd`).  To put a file there changes what is at the end of traces, but no
way through the tree (`sameWays_put`): a path that leads somewhere leads there
still.  The end of a trace for a file is such a place, unless it is a directory
(`deadEnd_of_trace`).
-/
import PluginSweep.Proofs.FileSystem.Ways
import PluginSweep.Proofs.FileSystem.Write

namespace PluginSweep.FileSystem

variable {fs : FileSystem} {loc other : Location} {purpose : Purpose} {bytes : List UInt8}

/-- If there is anything at the location, it is a file. -/
def DeadEnd (fs : FileSystem) (loc : Location) : Prop :=
  ∀ node, fs.node? loc = some node → ∃ bytes, node = .file bytes

theorem DeadEnd.ne_directory (h : fs.DeadEnd loc) : fs.node? loc ≠ some .directory := by
  intro hnode
  obtain ⟨bytes, hfile⟩ := h _ hnode
  cases hfile

theorem DeadEnd.ne_link (h : fs.DeadEnd loc) (target : String) :
    fs.node? loc ≠ some (.link target) := by
  intro hnode
  obtain ⟨bytes, hfile⟩ := h _ hnode
  cases hfile

theorem DeadEnd.ne_nil (h : fs.DeadEnd loc) : loc ≠ [] := by
  rintro rfl
  exact h.ne_directory rfl

/-! ### Putting a file where no trace goes on -/

theorem node?_put_directory_iff (h : fs.DeadEnd other) :
    (fs.put other (.file bytes)).node? loc = some .directory ↔ fs.node? loc = some .directory := by
  by_cases heq : loc = other
  · subst heq
    rw [node?_put_self h.ne_nil]
    simp [h.ne_directory]
  · rw [node?_put_of_ne heq]

theorem node?_put_link_iff (h : fs.DeadEnd other) {target : String} :
    (fs.put other (.file bytes)).node? loc = some (.link target) ↔
      fs.node? loc = some (.link target) := by
  by_cases heq : loc = other
  · subst heq
    rw [node?_put_self h.ne_nil]
    simp [h.ne_link target]
  · rw [node?_put_of_ne heq]

/-- No trace goes on from there afterwards either, nor from any other place where none did. -/
theorem DeadEnd.put (hother : fs.DeadEnd other) (h : fs.DeadEnd loc) :
    (fs.put other (.file bytes)).DeadEnd loc := by
  intro node hnode
  cases node with
  | file b => exact ⟨b, rfl⟩
  | directory => exact absurd ((node?_put_directory_iff hother).mp hnode) h.ne_directory
  | link target => exact absurd ((node?_put_link_iff hother).mp hnode) (h.ne_link target)

@[simp] theorem cwd_put {node : Node} : (fs.put loc node).cwd = fs.cwd := by
  rw [put]
  split <;> rfl

/-- The ways through the tree stay the same. -/
theorem sameWays_put (hend : fs.DeadEnd other) (bytes : List UInt8) :
    SameWays (fs.put other (.file bytes)) fs :=
  ⟨cwd_put, fun _ => node?_put_directory_iff hend, fun _ _ => node?_put_link_iff hend⟩

/-- **A path leads where it led**, when a file is put where no trace goes on. -/
theorem trace_put_of_deadEnd {p : Path} (hend : fs.DeadEnd other)
    (h : fs.trace purpose p = .ok loc) : (fs.put other (.file bytes)).trace purpose p = .ok loc :=
  (sameWays_put hend bytes).trace_iff.mpr h

/-! ### Where a trace for a file ends -/

/-- The working directory is one, and so are those above it. -/
def StandsInDirectory (fs : FileSystem) : Prop :=
  ∀ loc, loc <+: fs.cwd → fs.node? loc = some .directory

theorem StandsInDirectory.put (h : fs.StandsInDirectory) (hother : fs.DeadEnd other) :
    (fs.put other (.file bytes)).StandsInDirectory := by
  intro loc hloc
  rw [cwd_put] at hloc
  exact (node?_put_directory_iff hother).mpr (h loc hloc)

/-- A trace for a file ends where no trace goes on, unless there is a directory. -/
theorem deadEnd_of_trace {p : Path} (hcwd : fs.StandsInDirectory)
    (h : fs.trace .file p = .ok loc) (hfree : fs.node? loc ≠ some .directory) :
    fs.DeadEnd loc := by
  intro node hnode
  cases node with
  | file bytes => exact ⟨bytes, rfl⟩
  | directory => exact absurd hnode hfree
  | link target =>
    rw [trace] at h
    split at h
    · cases h
    · refine absurd h (traceFrom_ne_of_link hnode (by decide) fun hinside => ?_)
      split at hinside
      · exact node?_link_ne_nil hnode (List.prefix_nil.mp hinside)
      · rw [hcwd loc hinside] at hnode
        cases hnode

/-- A file can be written where no trace goes on. -/
theorem write_of_deadEnd {p : Path} (hadmits : admits p = true)
    (htrace : fs.trace .file p = .ok loc) (hend : fs.DeadEnd loc) :
    (write p bytes).run.run fs = (.ok (), fs.put loc (.file bytes)) := by
  rw [run_write, if_pos hadmits, htrace]
  dsimp only
  rcases hnode : fs.node? loc with - | (bytes' | - | target)
  · rfl
  · rfl
  · exact absurd hnode hend.ne_directory
  · exact absurd hnode (hend.ne_link target)

end PluginSweep.FileSystem
