/-
PluginSweep/Proofs/FileSystem/Ways.lean

Trees with the same ways through them.  A trace goes on from directories and from
links, so trees that have the same directories and the same links (`SameWays`) are
traced alike, whatever files they hold.

The one thing that files decide is how a trace is lost: on a file that is in the way,
or where nothing is.  So the two traces are the same, or both are lost (`trace_alike`),
and a path leads somewhere in one tree exactly if it leads there in the other
(`SameWays.trace_iff`).
-/
import PluginSweep.Proofs.FileSystem.Below

namespace PluginSweep.FileSystem

variable {fs fs' fs'' : FileSystem} {purpose : Purpose} {here loc : Location}
  {names : List String} {p : Path}

/-- The trees have the same directories and the same links, and paths start at the same
location. -/
structure SameWays (fs' fs : FileSystem) : Prop where
  cwd : fs'.cwd = fs.cwd
  directory : ∀ loc, fs'.node? loc = some .directory ↔ fs.node? loc = some .directory
  link : ∀ loc target, fs'.node? loc = some (.link target) ↔ fs.node? loc = some (.link target)

namespace SameWays

theorem refl (fs : FileSystem) : SameWays fs fs :=
  ⟨rfl, fun _ => Iff.rfl, fun _ _ => Iff.rfl⟩

theorem symm (h : SameWays fs' fs) : SameWays fs fs' :=
  ⟨h.cwd.symm, fun loc => (h.directory loc).symm, fun loc target => (h.link loc target).symm⟩

theorem trans (h₁ : SameWays fs'' fs') (h₂ : SameWays fs' fs) : SameWays fs'' fs :=
  ⟨h₁.cwd.trans h₂.cwd, fun loc => (h₁.directory loc).trans (h₂.directory loc),
    fun loc target => (h₁.link loc target).trans (h₂.link loc target)⟩

end SameWays

/-! ### Traces that are lost -/

/-- A file is in the way, or nothing is where the trace should go on. -/
def Lost (traced : Except OsCause Location) : Prop :=
  traced = .error .noEntry ∨ traced = .error .notDirectory

/-- The traces are the same, or both are lost. -/
def Alike (traced' traced : Except OsCause Location) : Prop :=
  traced' = traced ∨ Lost traced' ∧ Lost traced

theorem Alike.ok_iff {traced' traced : Except OsCause Location} (h : Alike traced' traced) :
    traced' = .ok loc ↔ traced = .ok loc := by
  rcases h with rfl | ⟨rfl | rfl, rfl | rfl⟩ <;> simp

/-- Traces that are alike fail alike, but for how they are lost. -/
theorem Alike.error_iff {traced' traced : Except OsCause Location} {cause : OsCause}
    (h : Alike traced' traced) (hentry : cause ≠ .noEntry) (hdirectory : cause ≠ .notDirectory) :
    traced' = .error cause ↔ traced = .error cause := by
  rcases h with rfl | ⟨rfl | rfl, rfl | rfl⟩ <;>
    simp [hentry.symm, hdirectory.symm]

/-- No name leads on from what is no directory. -/
theorem lost_follow {detour : Location → List String → Except OsCause Location} {name : String}
    {rest : List String} (hhere : fs.node? here ≠ some .directory) :
    Lost (fs.follow purpose detour here (name :: rest)) := by
  rw [follow]
  split
  · exact absurd ‹_› hhere
  · exact .inr rfl
  · exact .inl rfl

/-! ### Traces in trees with the same ways -/

theorem follow_alike {detour detour' : Location → List String → Except OsCause Location}
    (hways : SameWays fs' fs)
    (hdetour : ∀ here names, Alike (detour' here names) (detour here names))
    (here : Location) (names : List String) :
    Alike (fs'.follow purpose detour' here names) (fs.follow purpose detour here names) := by
  induction names generalizing here with
  | nil => exact .inl rfl
  | cons name rest ih =>
    by_cases hhere : fs.node? here = some .directory
    · -- Both trees are at a directory, and go on by the name.
      have hhere' := (hways.directory here).mpr hhere
      rw [follow, follow, hhere', hhere]
      dsimp only
      split
      · exact ih here
      · split
        · -- The name leads up.
          exact ih here.dropLast
        · split
          · exact .inl rfl
          · split
            · exact .inl rfl
            · rcases hthere : fs.node? (here ++ [name]) with - | (bytes | - | target)
              · -- There may be a file in the other tree.
                rcases hthere' : fs'.node? (here ++ [name]) with - | (bytes' | - | target')
                · exact .inl rfl
                · cases rest with
                  | nil => exact .inl rfl
                  | cons next rest =>
                    refine .inr ⟨lost_follow ?_, .inl rfl⟩
                    rw [hthere']
                    exact fun heq => by cases heq
                · rw [(hways.directory _).mp hthere'] at hthere
                  cases hthere
                · rw [(hways.link _ _).mp hthere'] at hthere
                  cases hthere
              · -- There may be another file in the other tree, or nothing.
                rcases hthere' : fs'.node? (here ++ [name]) with - | (bytes' | - | target')
                · cases rest with
                  | nil => exact .inl rfl
                  | cons next rest =>
                    refine .inr ⟨.inl rfl, lost_follow ?_⟩
                    rw [hthere]
                    exact fun heq => by cases heq
                · exact ih _
                · rw [(hways.directory _).mp hthere'] at hthere
                  cases hthere
                · rw [(hways.link _ _).mp hthere'] at hthere
                  cases hthere
              · -- A directory is one in both trees, and so is a link.
                rw [(hways.directory _).mpr hthere]
                exact ih _
              · rw [(hways.link _ _).mpr hthere]
                dsimp only
                split
                · exact .inl rfl
                · exact hdetour _ _
    · exact .inr ⟨lost_follow (mt (hways.directory here).mp hhere), lost_follow hhere⟩

theorem traceFrom_alike (hways : SameWays fs' fs) (links : Nat) (here : Location)
    (names : List String) :
    Alike (fs'.traceFrom purpose links here names) (fs.traceFrom purpose links here names) := by
  induction links generalizing here names with
  | zero => exact follow_alike hways (fun _ _ => .inl rfl) here names
  | succ fewer ih => exact follow_alike hways ih here names

/-- **Paths are traced alike in trees with the same ways.** -/
theorem trace_alike (hways : SameWays fs' fs) (purpose : Purpose) (p : Path) :
    Alike (fs'.trace purpose p) (fs.trace purpose p) := by
  rw [trace, trace, hways.cwd]
  split
  · exact .inl rfl
  · exact traceFrom_alike hways _ _ _

namespace SameWays

theorem trace_iff (h : SameWays fs' fs) :
    fs'.trace purpose p = .ok loc ↔ fs.trace purpose p = .ok loc :=
  (trace_alike h purpose p).ok_iff

theorem locate_directory_iff (h : SameWays fs' fs) :
    fs'.locate p = .ok (loc, .directory) ↔ fs.locate p = .ok (loc, .directory) := by
  rw [locate_eq_ok_iff, locate_eq_ok_iff, h.trace_iff, h.directory]

end SameWays

end PluginSweep.FileSystem
