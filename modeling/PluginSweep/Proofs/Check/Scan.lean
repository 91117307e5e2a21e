/-
PluginSweep/Proofs/Check/Scan.lean

What a scan amounts to.  A scan reads files while it runs, so its result seems to
depend on when they are read.  It does not: if `text` says what reading a file
brings, the findings and the files left out are those of `outcome`, which takes
the files one by one and reads nothing.

Where an outcome is empty, every file that some rule applies to has a text, and
none of these rules finds anything in it (`outcome_empty`).
-/
import PluginSweep.Check.Table
import PluginSweep.Proofs.Rule.Lines

namespace PluginSweep

/-! ### What a check finds -/

namespace Check

variable {check : Check} {default : List String} {text : Candidate → Except OsError String}

/-- What the rules of the check find in a file. -/
def findingsIn (check : Check) (default : List String)
    (text : Candidate → Except OsError String) (file : Candidate) : List Finding :=
  match text file with
  | .ok t => (check.rulesFor file.extension default).flatMap (·.scan file.relpath t)
  | .error _ => []

/-- The entry for the file, if some rule applies to it and it cannot be read. -/
def skippedIn (check : Check) (default : List String)
    (text : Candidate → Except OsError String) (file : Candidate) : Option String :=
  if (check.rulesFor file.extension default).isEmpty then none
  else match text file with
    | .ok _ => none
    | .error e => some (skippedEntry file.relpath e)

/-- What a scan of the files amounts to. -/
def outcome (check : Check) (default : List String)
    (text : Candidate → Except OsError String) (files : List Candidate) : Scan where
  findings := check.inRuleOrder (files.flatMap (check.findingsIn default text))
  skipped := files.filterMap (check.skippedIn default text)

/-- Every finding is one of a rule of the check. -/
theorem exists_rule_of_mem_findingsIn {file : Candidate} {f : Finding}
    (h : f ∈ check.findingsIn default text file) : ∃ r ∈ check.rules, f.rule = r.name := by
  unfold findingsIn at h
  split at h
  · obtain ⟨r, hr, hf⟩ := List.mem_flatMap.mp h
    exact ⟨r, (List.mem_filter.mp hr).1, (Rule.of_mem_scan hf).1⟩
  · cases h

/-- Putting findings of the rules in order loses none of them. -/
theorem mem_inRuleOrder {found : List Finding} {f : Finding} (hf : f ∈ found)
    (hrule : ∃ r ∈ check.rules, f.rule = r.name) : f ∈ check.inRuleOrder found := by
  obtain ⟨r, hr, heq⟩ := hrule
  rw [inRuleOrder, List.mem_flatMap]
  exact ⟨r, hr, List.mem_filter.mpr ⟨hf, beq_iff_eq.mpr heq⟩⟩

/-- What a rule that applies to a file finds in its text is found by the check. -/
theorem mem_findings_outcome {files : List Candidate} {file : Candidate} {t : String} {r : Rule}
    {f : Finding} (hfile : file ∈ files) (ht : text file = .ok t)
    (hr : r ∈ check.rulesFor file.extension default) (hf : f ∈ r.scan file.relpath t) :
    f ∈ (check.outcome default text files).findings := by
  have hin : f ∈ check.findingsIn default text file := by
    rw [findingsIn, ht]
    exact List.mem_flatMap.mpr ⟨r, hr, hf⟩
  exact mem_inRuleOrder (List.mem_flatMap.mpr ⟨file, hfile, hin⟩)
    (exists_rule_of_mem_findingsIn hin)

/-- Where nothing is found and no file is left out, every file that some rule applies to has a
text, in which none of the rules finds anything. -/
theorem outcome_empty {files : List Candidate}
    (hfindings : (check.outcome default text files).findings = [])
    (hskipped : (check.outcome default text files).skipped = [])
    {file : Candidate} (hfile : file ∈ files)
    (hrules : check.rulesFor file.extension default ≠ []) :
    ∃ t, text file = .ok t ∧
      ∀ r ∈ check.rulesFor file.extension default, r.scan file.relpath t = [] := by
  have hread := List.filterMap_eq_nil_iff.mp hskipped file hfile
  rw [skippedIn, if_neg (by simpa using hrules)] at hread
  split at hread
  · rename_i t ht
    refine ⟨t, ht, fun r hr => ?_⟩
    rw [List.eq_nil_iff_forall_not_mem]
    intro f hf
    have hfound := mem_findings_outcome hfile ht hr hf
    rw [hfindings] at hfound
    cases hfound
  · cases hread

end Check

end PluginSweep
