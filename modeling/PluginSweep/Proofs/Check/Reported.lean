/-
PluginSweep/Proofs/Check/Reported.lean

Lines that a check reports.  A check reports a line of a text if one of its rules has a finding
there.  That depends on the line and on nothing else in the text: some rule of the check tries a
pattern on lines, and reports this one (`reports_iff`).
-/
import PluginSweep.Proofs.Rule.Numbering

namespace PluginSweep.Check

variable {name relpath text : String} {check : Check} {r : Rule} {p : Pattern} {i : Nat}
  {line : List Char}

/-- The check of the name reports the line of the number in a text. -/
def Reports (name relpath text : String) (number : Nat) : Prop :=
  ∃ check, find? name = some check ∧
    ∃ f ∈ check.rules.flatMap (·.scan relpath text), f.line = some (number : Int)

/-- A check reports a line exactly if one of its rules does. -/
theorem reports_iff (hcheck : find? name = some check)
    (hline : (Text.lines text.toList)[i]? = some line) :
    Reports name relpath text (i + 1) ↔
      ∃ r ∈ check.rules, ∃ p, r.linePattern = some p ∧ r.reportsLine p line = true := by
  constructor
  · rintro ⟨found, hfound, f, hf, hnumber⟩
    obtain rfl := Option.some.inj (hcheck.symm.trans hfound)
    obtain ⟨r, hr, hscan⟩ := List.mem_flatMap.mp hf
    obtain ⟨p, hp⟩ := Rule.exists_linePattern hscan hnumber
    rw [Rule.scan_eq_scanFrom hp] at hscan
    obtain ⟨j, other, hother, hreports, rfl⟩ := Rule.mem_scanFrom_iff.mp hscan
    -- No two lines have the same number.
    have hsame : j = i := by
      have hnumbers := Int.ofNat.inj (Option.some.inj hnumber)
      omega
    rw [hsame, hline] at hother
    obtain rfl := Option.some.inj hother
    exact ⟨r, hr, p, hp, hreports⟩
  · rintro ⟨r, hr, p, hp, hreports⟩
    refine ⟨check, hcheck, r.report relpath (1 + i) line, List.mem_flatMap.mpr ⟨r, hr, ?_⟩, ?_⟩
    · rw [Rule.scan_eq_scanFrom hp]
      exact Rule.mem_scanFrom_iff.mpr ⟨i, line, hline, hreports, rfl⟩
    · rw [Nat.add_comm]
      rfl

/-- A check that excuses no line reports those in which the pattern of one of its rules is found. -/
theorem reports_iff_exists_found (hcheck : find? name = some check)
    (hexclude : ∀ r ∈ check.rules, r.exclude = none)
    (hline : (Text.lines text.toList)[i]? = some line) :
    Reports name relpath text (i + 1) ↔
      ∃ r ∈ check.rules, ∃ p, r.linePattern = some p ∧ p.found r.caseRule line = true := by
  rw [reports_iff hcheck hline]
  refine exists_congr fun r => and_congr_right fun hr => exists_congr fun p => and_congr_right ?_
  intro _
  rw [Rule.reportsLine, hexclude r hr, Option.any_none, Bool.not_false, Bool.and_true]

/-- A check of one rule that excuses no line reports those in which its pattern is found. -/
theorem reports_iff_found (hcheck : find? name = some check) (hrule : check.rules = [r])
    (hp : r.linePattern = some p) (hexclude : r.exclude = none)
    (hline : (Text.lines text.toList)[i]? = some line) :
    Reports name relpath text (i + 1) ↔ p.found r.caseRule line = true := by
  have hnone : ∀ r' ∈ check.rules, r'.exclude = none := by
    rw [hrule]
    rintro r' hr'
    rw [List.mem_singleton.mp hr', hexclude]
  rw [reports_iff_exists_found hcheck hnone hline, hrule]
  constructor
  · rintro ⟨r', hr', p', hp', hfound⟩
    obtain rfl := List.mem_singleton.mp hr'
    obtain rfl := Option.some.inj (hp.symm.trans hp')
    exact hfound
  · intro hfound
    exact ⟨r, List.mem_singleton_self r, p, hp, hfound⟩

end PluginSweep.Check
