/-
PluginSweep/Proofs/Sweep/Lint.lean

The section on the files with syntax errors.  The step of a sweep that checks the syntax adds
nothing of its own to what the check ends with: the files with errors are the findings of its
section, each about the file as a whole, the files that were not checked are those left out, and
if the check is a failure, so is the section (`lint_accounts_for_all`).
-/
import PluginSweep.Proofs.Sweep.Work
import PluginSweep.Proofs.Tool.Lint

namespace PluginSweep.Sweep

open Dialogue Lint

variable {s : Settings} {files : List Candidate} {title : String} {l : Ledger}

/-- The section that shows what a syntax check ended with. -/
def shown (title : String) : Except StepFailure LintOutcome → Section
  | .ok o =>
    { name := Tool.lint
      title
      severity := .critical
      findings := o.failing.map fun path => ⟨Tool.lint, path, none, "syntax error"⟩
      skipped := o.unchecked }
  | .error f =>
    { name := Tool.lint
      title
      severity := .critical
      error := some f.message }

/-- The step shows what the check ends with. -/
theorem runs_toolSection_lint_iff {past now : List Started} {o : Except LaunchError Section} :
    Runs recorded (toolSection s files Tool.lint title) past o now ↔
      ∃ done v, Launched s.seconds "php" files done past now ∧ Concludes done v ∧
        o = .ok (shown title v) := by
  rw [toolSection, show standardsOf? s Tool.lint = none from rfl]
  simp only [runs_bind_iff, runs_run_iff]
  constructor
  · rintro ⟨_, _, ⟨done, v, hlaunched, hconcludes, rfl⟩, hrest⟩
    refine ⟨done, v, ?_⟩
    cases v with
    | ok outcome | error f =>
      obtain ⟨rfl, rfl⟩ := runs_pure_iff.mp hrest
      exact ⟨hlaunched, hconcludes, rfl⟩
  · rintro ⟨done, v, hlaunched, hconcludes, rfl⟩
    refine ⟨_, now, ⟨done, v, hlaunched, hconcludes, rfl⟩, ?_⟩
    cases v with
    | ok outcome | error f => exact runs_pure_iff.mpr ⟨rfl, rfl⟩

theorem runs_warnAll_recorded_iff {warnings : List Warning} {u : Unit} {past now : List Started} :
    Runs recorded (Asking.warnAll warnings) past u now ↔ now = past := by
  induction warnings generalizing past with
  | nil => exact runs_pure_iff.trans (and_iff_right rfl)
  | cons w rest ih =>
    rw [Asking.warnAll, runs_bind_iff]
    constructor
    · rintro ⟨_, t, hwarn, hrest⟩
      rw [ih.mp hrest, Asking.runs_warn_recorded hwarn]
    · rintro rfl
      exact ⟨(), _, runs_inquire_iff.mpr rfl, ih.mpr rfl⟩

/-- Recording a section starts no tool. -/
theorem runs_record_recorded_iff {made : Section} {x y : SweepState × List Started}
    {o : Except SweepError Ledger} :
    Work.Runs recorded (record l made) x o y ↔
      o = (l.record made).mapError .alreadyRecorded ∧ y = x := by
  rw [record, runs_asking_bind_iff]
  simp only [runs_warnAll_recorded_iff]
  constructor
  · rintro ⟨_, _, rfl, hrest⟩
    split at hrest
    · rename_i l' hrecord
      rw [hrecord]
      exact Work.runs_pure_iff.mp hrest
    · rename_i e hrecord
      rw [hrecord]
      exact Work.runs_throw_iff.mp hrest
  · rintro ⟨rfl, rfl⟩
    refine ⟨(), _, rfl, ?_⟩
    cases l.record made with
    | ok l' => exact Work.runs_pure_iff.mpr ⟨rfl, rfl⟩
    | error e => exact Work.runs_throw_iff.mpr ⟨rfl, rfl⟩

theorem runs_stepSection_lint_iff {x y : SweepState × List Started}
    {o : Except SweepError Section} :
    Work.Runs recorded (stepSection s files (.tool Tool.lint title)) x o y ↔
      ∃ done v, Launched s.seconds "php" files done x.2 y.2 ∧ Concludes done v ∧
        y.1 = x.1 ∧ o = .ok (shown title v) := by
  rw [stepSection, runs_asking_bind_iff]
  simp only [runs_toolSection_lint_iff]
  constructor
  · rintro ⟨_, now, ⟨done, v, hlaunched, hconcludes, rfl⟩, hrest⟩
    obtain ⟨rfl, rfl⟩ := Work.runs_pure_iff.mp hrest
    exact ⟨done, v, hlaunched, hconcludes, rfl, rfl⟩
  · rintro ⟨done, v, hlaunched, hconcludes, hst, rfl⟩
    refine ⟨_, y.2, ⟨done, v, hlaunched, hconcludes, rfl⟩, Work.runs_pure_iff.mpr ⟨rfl, ?_⟩⟩
    exact Prod.ext hst rfl

/-- **A syntax check accounts for every file.**  Whatever came of starting the tool for the files,
the check ends with a result or with a failure; and however the launches turn out there is a run,
in which the tool is started once for each file, in order.  If there are files and the tool ran for
none, the run ends with the last failure; otherwise with the files for which the tool ended badly,
those for which it did not run, each with the reason, and one as its exit code unless both lists
are empty; for all others the tool ended with zero.  The section that the step records in the
ledger shows just these lists, or that failure. -/
theorem lint_accounts_for_all (files : List Candidate) :
    (∀ done, ∃ v, Concludes done v ∧
      (({} : Progress).noteAll done).result = v.mapError .failure) ∧
    (∀ seconds binary past (launches : List Launch), files.length = launches.length →
      (∀ l ∈ launches, l ≠ .undecodable) →
        ∃ o, Runs recorded (Lint.run seconds binary files) past o
          (past ++ List.zipWith (Lint.started binary) files launches)) ∧
    (∀ seconds binary past o now, Runs recorded (Lint.run seconds binary files) past o now ↔
      ∃ done v, Launched seconds binary files done past now ∧ Concludes done v ∧
        o = v.mapError .failure) ∧
    ∀ s title l x o y,
      Work.Runs recorded (stepSection s files (.tool Tool.lint title) >>= record l) x o y ↔
        ∃ done v, Launched s.seconds "php" files done x.2 y.2 ∧ Concludes done v ∧
          y.1 = x.1 ∧ o = (l.record (shown title v)).mapError .alreadyRecorded := by
  refine ⟨exists_concludes, fun seconds binary past _ => exists_run seconds binary past,
    fun seconds binary past o now => runs_run_iff, fun s title l x o y => ?_⟩
  rw [Work.runs_bind_iff]
  simp only [runs_stepSection_lint_iff, runs_record_recorded_iff]
  constructor
  · rintro (⟨_, z, ⟨done, v, hlaunched, hconcludes, hst, heq⟩, rfl, rfl⟩ | ⟨e, hstep, -⟩)
    · obtain rfl := Except.ok.inj heq
      exact ⟨done, v, hlaunched, hconcludes, hst, rfl⟩
    · obtain ⟨_, _, -, -, -, heq⟩ := hstep
      cases heq
  · rintro ⟨done, v, hlaunched, hconcludes, hst, rfl⟩
    exact .inl ⟨_, y, ⟨done, v, hlaunched, hconcludes, hst, rfl⟩, rfl, rfl⟩

/-- Five files. -/
def mixedFiles : List Candidate :=
  ["a.php", "b.php", "c.php", "d.php", "e.php"].map fun name => ⟨⟨"/", ["p", name]⟩, name, ".php"⟩

/-- For each of them, the tool ends in another way. -/
def mixedLaunches : List Launch :=
  [.timedOut, .exited 255 (some "Parse error") none, .exited 0 (some "No syntax errors") none,
    .exited (-9) none none, .refused "Cannot allocate memory"]

/-- What comes of it for each file. -/
def mixedChecked : List Checked :=
  List.zipWith (fun file launched => ⟨file, launched (Lint.command "php" file)⟩) mixedFiles
    [fun _ => .error (.timedOut "php" 60), fun c => .ok ⟨c, 255, "Parse error", ""⟩,
      fun c => .ok ⟨c, 0, "No syntax errors", ""⟩, fun c => .ok ⟨c, -9, "", ""⟩,
      fun _ => .error (.notStarted "php" "Cannot allocate memory")]

/-- What comes of the check. -/
def mixedOutcome : LintOutcome :=
  ⟨["b.php", "d.php"], ["a.php: 'php' timed out after 60s",
    "e.php: 'php' failed to start: Cannot allocate memory"]⟩

theorem lint_accounts_for_all_mixed :
    mixedFiles.length = mixedLaunches.length ∧ (∀ l ∈ mixedLaunches, l ≠ .undecodable) ∧
      Concludes mixedChecked (.ok mixedOutcome) ∧
      (∃ o, Runs recorded (Lint.run 60 "php" mixedFiles) [] o
        ([] ++ List.zipWith (Lint.started "php") mixedFiles mixedLaunches)) ∧
      Runs recorded (Lint.run 60 "php" mixedFiles) [] (.ok mixedOutcome)
        (List.zipWith (Lint.started "php") mixedFiles mixedLaunches) := by
  have hlength : mixedFiles.length = mixedLaunches.length := rfl
  have htext : ∀ l ∈ mixedLaunches, l ≠ .undecodable := by decide
  obtain ⟨hends, hexists, hruns, -⟩ := lint_accounts_for_all mixedFiles
  -- The tool ran for some of the files, so that there is an account.
  have hconcludes : Concludes mixedChecked (.ok mixedOutcome) := by
    obtain ⟨v, hv, -⟩ := hends mixedChecked
    cases v with
    | ok o =>
      have houtcome : (({} : Progress).noteAll mixedChecked).outcome = mixedOutcome := by
        decide +kernel
      rwa [accounts_iff.mp hv.2, houtcome] at hv
    | error f =>
      have hran : ¬ ∀ e ∈ mixedChecked, e.failure? ≠ none := by decide +kernel
      exact absurd hv.1 hran
  have hlaunched : Launched 60 "php" mixedFiles mixedChecked []
      (List.zipWith (Lint.started "php") mixedFiles mixedLaunches) :=
    ⟨rfl, _, rfl, .cons ⟨rfl, rfl⟩ (.cons ⟨rfl, rfl⟩ (.cons ⟨rfl, rfl⟩ (.cons ⟨rfl, rfl⟩
      (.cons ⟨rfl, rfl⟩ .nil))))⟩
  exact ⟨hlength, htext, hconcludes, hexists 60 "php" [] mixedLaunches hlength htext,
    (hruns _ _ _ _ _).mpr ⟨mixedChecked, _, hlaunched, hconcludes, rfl⟩⟩

end PluginSweep.Sweep
