/-
PluginSweep/Proofs/Ledger.lean

Recording sections, and what stands against executing a plugin.  A section is
recorded exactly if its name is new, and it is then the last one
(`record_eq_ok_iff`); it is refused exactly if the name is known
(`record_eq_error_iff`).  A section on high-risk functions has nothing against
executing the plugin exactly if it has no findings, did not fail and left out no
file (`obstacleIn_eq_none_iff`).
-/
import Mathlib.Algebra.GroupWithZero.Nat
import PluginSweep.Ledger

namespace PluginSweep.Ledger

variable {l l' : Ledger} {s : Section}

theorem record_eq_ok_iff :
    l.record s = .ok l' ↔ l.get? s.name = none ∧ l' = ⟨l.sections ++ [s]⟩ := by
  unfold record
  rcases l.get? s.name with - | known
  · constructor
    · intro h
      exact ⟨rfl, (Except.ok.inj h).symm⟩
    · rintro ⟨-, rfl⟩
      rfl
  · constructor
    · intro h
      cases h
    · rintro ⟨h, -⟩
      cases h

theorem obstacleIn_eq_none_iff :
    obstacleIn s = none ↔ s.findings = [] ∧ s.error = none ∧ s.skipped = [] := by
  unfold obstacleIn Section.count Section.failed
  rcases s.findings with - | ⟨f, fs⟩
  · rcases s.error with - | e
    · rcases s.skipped with - | ⟨entry, entries⟩
      · simp
      · simp
    · simp
  · simp

/-- The section of a name is one of the recorded sections, and bears the name. -/
theorem of_get? {name : String} (h : l.get? name = some s) : s ∈ l.sections ∧ s.name = name := by
  rw [get?] at h
  have hname := List.find?_some h
  exact ⟨List.mem_of_find?_eq_some h, beq_iff_eq.mp hname⟩

theorem get?_of_mem (h : s ∈ l.sections) : ∃ s', l.get? s.name = some s' := by
  rw [← Option.isSome_iff_exists, get?, List.find?_isSome]
  exact ⟨s, h, beq_self_eq_true s.name⟩

theorem get?_eq_none_iff {name : String} :
    l.get? name = none ↔ name ∉ l.sections.map (·.name) := by
  simp [get?, List.find?_eq_none]

theorem record_eq_error_iff {e : AlreadyRecorded} :
    l.record s = .error e ↔ s.name ∈ l.sections.map (·.name) ∧ e = ⟨s.name⟩ := by
  have hnew : l.get? s.name = none ↔ s.name ∉ l.sections.map (·.name) := get?_eq_none_iff
  unfold record
  rcases hfound : l.get? s.name with - | known
  · constructor
    · intro h
      cases h
    · rintro ⟨h, -⟩
      exact absurd h (hnew.mp hfound)
  · obtain ⟨hmem, hname⟩ := of_get? hfound
    have hknown : s.name ∈ l.sections.map (·.name) := hname ▸ List.mem_map_of_mem hmem
    constructor
    · intro h
      exact ⟨hknown, (Except.error.inj h).symm⟩
    · rintro ⟨-, rfl⟩
      rfl

/-- A section stays in its place when others come after it. -/
theorem get?_of_isPrefix {name : String} (hl : l.sections <+: l'.sections)
    (h : l.get? name = some s) : l'.get? name = some s := by
  obtain ⟨more, hmore⟩ := hl
  rw [get?] at h ⊢
  rw [← hmore, List.find?_append, h, Option.some_or]

theorem total_eq_sum : l.total = (l.sections.map Section.count).sum := by
  rw [total, List.sum_eq_foldl, List.foldl_map]

end PluginSweep.Ledger
