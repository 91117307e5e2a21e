/-
PluginSweep/Proofs/Walk/Candidate.lean

What a candidate is.  Every candidate of a walk is determined by the names that
lead to it from the root (`candidateAt`), so two candidates with the same path
are the same (`eq_of_path_eq`), and each has an extension that the walk wants.
-/
import PluginSweep.Walk

namespace PluginSweep.Walk

variable {fs : FileSystem} {o : Options}

/-! ### Candidates by name -/

/-- The candidate to which the names lead from the root. -/
def candidateAt (o : Options) (below : List String) : Candidate where
  path := ⟨o.root.anchor, o.root.names ++ below⟩
  relpath := "/".intercalate below
  extension := Path.extension ⟨o.root.anchor, o.root.names ++ below⟩

theorem candidateAt_inj {below below' : List String}
    (h : (candidateAt o below).path = (candidateAt o below').path) : below = below' :=
  List.append_cancel_left (Path.mk.inj h).2

/-- The path of an entry of the directory that is visited. -/
theorem Visit.append_path (v : Visit) (o : Options) (name : String) :
    (v.path o).append ⟨"", [name]⟩ = ⟨o.root.anchor, o.root.names ++ (v.below ++ [name])⟩ := by
  rw [Path.append, if_neg (by simp [Path.isAbsolute]), Visit.path, List.append_assoc]

theorem candidate?_eq (v : Visit) (name : String) :
    candidate? o v name =
      if o.wants (candidateAt o (v.below ++ [name])).extension then
        some (candidateAt o (v.below ++ [name]))
      else none := by
  rw [candidate?, v.append_path]
  rfl

theorem candidate?_eq_some {v : Visit} {name : String} {file : Candidate}
    (h : candidate? o v name = some file) :
    file = candidateAt o (v.below ++ [name]) ∧ o.wants file.extension := by
  rw [candidate?_eq] at h
  split at h
  · rename_i hwants
    obtain rfl := Option.some.inj h
    exact ⟨rfl, hwants⟩
  · cases h

theorem candidate?_of_wants {v : Visit} {name : String}
    (h : o.wants (candidateAt o (v.below ++ [name])).extension = true) :
    candidate? o v name = some (candidateAt o (v.below ++ [name])) := by
  rw [candidate?_eq, if_pos h]

/-! ### Candidates of a walk -/

/-- What holds of everything that a directory can list holds of all that a walk lists. -/
theorem forall_mem_visitAll {P : Candidate → Prop}
    (hP : ∀ v name file, candidate? o v name = some file → P file)
    {visited : List Location} {walk : Walk} {pending : List Visit}
    (hwalk : ∀ file ∈ walk.files, P file) :
    ∀ file ∈ (visitAll fs o visited walk pending).files, P file := by
  fun_induction visitAll fs o visited walk pending with
  | case1 => exact hwalk
  | case2 _ _ _ _ _ _ ih => exact ih hwalk
  | case3 _ _ v _ loc _ ih =>
    refine ih fun file hfile => ?_
    rcases List.mem_append.mp hfile with hfile | hfile
    · exact hwalk file hfile
    · obtain ⟨name, -, hname⟩ := List.mem_filterMap.mp hfile
      exact hP v name file hname

variable {walk : Walk}

/-- Every candidate is the one to which some names lead, and has a wanted extension. -/
theorem exists_candidateAt (h : fs.walk o = .ok walk) {file : Candidate}
    (hfile : file ∈ walk.files) :
    (∃ below, file = candidateAt o below) ∧ o.wants file.extension := by
  rw [FileSystem.walk] at h
  split at h
  · obtain rfl := Except.ok.inj h
    refine forall_mem_visitAll
      (P := fun file => (∃ below, file = candidateAt o below) ∧ o.wants file.extension) ?_ ?_
      file hfile
    · intro v name file hname
      obtain ⟨heq, hwants⟩ := candidate?_eq_some hname
      exact ⟨⟨_, heq⟩, hwants⟩
    · intro file hfile
      cases hfile
  · cases h

/-- Two candidates of a walk with the same path are the same. -/
theorem eq_of_path_eq (h : fs.walk o = .ok walk) {file file' : Candidate}
    (hfile : file ∈ walk.files) (hfile' : file' ∈ walk.files) (hpath : file.path = file'.path) :
    file = file' := by
  obtain ⟨⟨below, rfl⟩, -⟩ := exists_candidateAt h hfile
  obtain ⟨⟨below', rfl⟩, -⟩ := exists_candidateAt h hfile'
  rw [candidateAt_inj hpath]

end PluginSweep.Walk
