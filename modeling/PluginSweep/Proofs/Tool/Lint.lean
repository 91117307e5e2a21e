/-
PluginSweep/Proofs/Tool/Lint.lean

What becomes of each file in a syntax check.  The check goes through the files and keeps three
things: the files with errors, the files for which the tool did not run, and the last reason for
that.  How far it has come after some files is put together here from what came of each of them
(`Progress.noteAll_eq`), whatever that is.

So a run starts the tool once for each file, in order, and what it ends with accounts for all of
them (`runs_run_iff`, `concludes_iff`): a file stands among those with errors, among those that
were not checked, or the tool ended with zero; and only if the tool ran for no file at all is the
check a failure, for the last of the reasons.  There is such a run however the launches turn out
(`exists_run`).
-/
import Mathlib.Data.List.Forall2
import PluginSweep.Proofs.Tool.Started
import PluginSweep.Tool.Lint

namespace PluginSweep

open Dialogue

namespace Launch

variable {l : Launch}

/-- A launch that brings text brings a result or a failure. -/
theorem exists_launched (h : l ≠ .undecodable) (seconds : Int) (command : Command) :
    ∃ launched : Except StepFailure ToolResult,
      l.result seconds command = launched.mapError .failure := by
  rcases result_cases h seconds command with ⟨-, r, hresult, -⟩ | ⟨-, f, hresult⟩
  · exact ⟨.ok r, hresult⟩
  · exact ⟨.error f, hresult⟩

theorem ne_undecodable_of_result {seconds : Int} {command : Command}
    {launched : Except StepFailure ToolResult}
    (h : l.result seconds command = launched.mapError .failure) : l ≠ .undecodable := by
  rintro rfl
  cases launched <;> cases h

end Launch

namespace Lint

/-- A file, and what came of starting the tool for it. -/
structure Checked where
  file : Candidate
  launched : Except StepFailure ToolResult

namespace Checked

/-- Why the tool did not run for the file, if it did not. -/
def failure? (e : Checked) : Option StepFailure :=
  match e.launched with
  | .ok _ => none
  | .error f => some f

/-- The tool ran for the file, and ended with another code than zero. -/
def endedBadly (e : Checked) : Bool :=
  match e.launched with
  | .ok r => r.exitCode != 0
  | .error _ => false

/-- The entry for the file, if it was not checked. -/
def unchecked? (e : Checked) : Option String :=
  e.failure?.map fun f => e.file.relpath ++ ": " ++ f.message

/-- The command was started for the file, and this came of it. -/
structure CameOf (seconds : Int) (binary : String) (e : Checked) (s : Started) : Prop where
  command : s.command = Lint.command binary e.file
  result : s.launch.result seconds s.command = e.launched.mapError .failure

/-- A tool that ran and did not end badly ended with zero. -/
theorem exists_of_not_endedBadly {e : Checked} (hbad : e.endedBadly = false)
    (hran : e.failure? = none) : ∃ r, e.launched = .ok r ∧ r.exitCode = 0 := by
  obtain ⟨file, f | r⟩ := e
  · cases hran
  · exact ⟨r, rfl, by simpa [endedBadly] using hbad⟩

end Checked

variable {seconds : Int} {binary : String} {p : Progress} {files : List Candidate}
  {done : List Checked} {past now : List Started}

/-! ### Progress -/

/-- Takes note of what came of the files, one after the other. -/
def Progress.noteAll (p : Progress) (done : List Checked) : Progress :=
  done.foldl (fun p e => p.note e.file e.launched) p

/-- How far the check has come after some files: one file more is one entry more in one of the
lists, or in none. -/
theorem Progress.noteAll_eq (p : Progress) (done : List Checked) :
    p.noteAll done =
      { outcome :=
          ⟨p.outcome.failing ++ (done.filter (·.endedBadly)).map (·.file.relpath),
            p.outcome.unchecked ++ done.filterMap (·.unchecked?)⟩
        checked := p.checked || done.any (·.failure?.isNone)
        lastFailure := (done.filterMap (·.failure?)).getLast?.or p.lastFailure } := by
  induction done generalizing p with
  | nil => simp [noteAll]
  | cons e done ih =>
    rw [noteAll, List.foldl_cons, ← noteAll, ih]
    obtain ⟨file, f | r⟩ := e
    · simp [note, Checked.endedBadly, Checked.unchecked?, Checked.failure?, List.getLast?_cons]
    · cases hcode : r.exitCode == 0 <;>
        simp [note, Checked.endedBadly, Checked.unchecked?, Checked.failure?, ToolResult.ok, bne,
          hcode]

/-! ### Runs -/

/-- The tool was started once for each of the files, in order, and this came of it. -/
structure Launched (seconds : Int) (binary : String) (files : List Candidate)
    (done : List Checked) (past now : List Started) : Prop where
  files : done.map (·.file) = files
  started : ∃ started, now = past ++ started ∧
    List.Forall₂ (Checked.CameOf seconds binary) done started

theorem launched_nil_iff :
    Launched seconds binary [] done past now ↔ done = [] ∧ now = past := by
  constructor
  · rintro ⟨hfiles, started, rfl, hcame⟩
    obtain rfl := List.map_eq_nil_iff.mp hfiles
    obtain rfl := List.forall₂_nil_left_iff.mp hcame
    exact ⟨rfl, List.append_nil _⟩
  · rintro ⟨rfl, rfl⟩
    exact ⟨rfl, [], (List.append_nil _).symm, .nil⟩

theorem launched_cons_iff {file : Candidate} :
    Launched seconds binary (file :: files) done past now ↔
      ∃ launched rest launch, done = ⟨file, launched⟩ :: rest ∧
        launch.result seconds (command binary file) = launched.mapError .failure ∧
        Launched seconds binary files rest (past ++ [⟨command binary file, launch⟩]) now := by
  constructor
  · rintro ⟨hfiles, started, rfl, hcame⟩
    cases hcame with
    | nil => cases hfiles
    | @cons e s rest startedRest hfirst hrest =>
      obtain ⟨rfl, hlater⟩ := List.cons.inj hfiles
      obtain ⟨_, launch⟩ := s
      obtain ⟨hcommand, hresult⟩ := hfirst
      dsimp only at hcommand hresult
      subst hcommand
      exact ⟨e.launched, rest, launch, rfl, hresult, hlater, startedRest, by simp, hrest⟩
  · rintro ⟨launched, rest, launch, rfl, hresult, rfl, started, rfl, hcame⟩
    exact ⟨rfl, ⟨command binary file, launch⟩ :: started, by simp, .cons ⟨rfl, hresult⟩ hcame⟩

/-- One file: the tool is started for it, what came of that is taken note of, and the check goes
on. -/
theorem runs_checkFiles_cons_iff {file : Candidate} {o : Except LaunchError Progress} :
    Runs recorded (checkFiles seconds binary (file :: files) p) past o now ↔
      ∃ launched launch,
        launch.result seconds (command binary file) = launched.mapError .failure ∧
        Runs recorded (checkFiles seconds binary files (p.note file launched))
          (past ++ [⟨command binary file, launch⟩]) o now := by
  rw [checkFiles, runs_bind_iff]
  constructor
  · rintro ⟨result, next, hlaunch, hrest⟩
    obtain ⟨launch, ⟨htext, rfl⟩, rfl⟩ := Asking.runs_launch_iff.mp hlaunch
    obtain ⟨launched, hresult⟩ := launch.exists_launched htext seconds (command binary file)
    refine ⟨launched, launch, hresult, ?_⟩
    rw [hresult] at hrest
    -- A launch that failed is warned of first.
    cases launched with
    | ok r => exact hrest
    | error f =>
      obtain ⟨_, _, hwarn, hrest⟩ := runs_bind_iff.mp hrest
      obtain rfl := Asking.runs_warn_recorded hwarn
      exact hrest
  · rintro ⟨launched, launch, hresult, hrest⟩
    have htext := launch.ne_undecodable_of_result hresult
    refine ⟨_, _, Asking.runs_launch_iff.mpr ⟨launch, ⟨htext, rfl⟩, rfl⟩, ?_⟩
    rw [hresult]
    cases launched with
    | ok r => exact hrest
    | error f => exact runs_bind_iff.mpr ⟨(), _, runs_inquire_iff.mpr rfl, hrest⟩

/-- **A run starts the tool once for each file**, and takes note of what came of each. -/
theorem runs_checkFiles_iff {o : Except LaunchError Progress} :
    Runs recorded (checkFiles seconds binary files p) past o now ↔
      ∃ done, Launched seconds binary files done past now ∧ o = .ok (p.noteAll done) := by
  induction files generalizing p past with
  | nil =>
    rw [checkFiles, runs_pure_iff]
    constructor
    · rintro ⟨rfl, rfl⟩
      exact ⟨[], launched_nil_iff.mpr ⟨rfl, rfl⟩, rfl⟩
    · rintro ⟨done, hlaunched, rfl⟩
      obtain ⟨rfl, rfl⟩ := launched_nil_iff.mp hlaunched
      exact ⟨rfl, rfl⟩
  | cons file files ih =>
    rw [runs_checkFiles_cons_iff]
    constructor
    · rintro ⟨launched, launch, hresult, hrest⟩
      obtain ⟨rest, hlaunched, rfl⟩ := ih.mp hrest
      exact ⟨⟨file, launched⟩ :: rest,
        launched_cons_iff.mpr ⟨launched, rest, launch, rfl, hresult, hlaunched⟩, rfl⟩
    · rintro ⟨done, hlaunched, rfl⟩
      obtain ⟨launched, rest, launch, rfl, hresult, hrest⟩ := launched_cons_iff.mp hlaunched
      exact ⟨launched, launch, hresult, ih.mpr ⟨rest, hrest, rfl⟩⟩

/-! ### What a run ends with -/

/-- The check brings all that is to be said of the files. -/
structure Accounts (done : List Checked) (o : LintOutcome) : Prop where
  /-- The files with errors are those for which the tool ended with another code than zero. -/
  failing : o.failing = (done.filter (·.endedBadly)).map (·.file.relpath)
  /-- The files that were not checked are those for which the tool did not run. -/
  unchecked : o.unchecked = done.filterMap fun e =>
    e.failure?.map fun f => e.file.relpath ++ ": " ++ f.message
  /-- For every other file the tool ended with zero. -/
  rest : ∀ e ∈ done, e.endedBadly = false → e.failure? = none →
    ∃ r, e.launched = .ok r ∧ r.exitCode = 0
  exitCode : o.exitCode = if o.failing = [] ∧ o.unchecked = [] then 0 else 1

/-- What the check ends with, from what came of each file: it is a failure, for the last reason,
if there are files and the tool ran for none of them. -/
def Concludes (done : List Checked) : Except StepFailure LintOutcome → Prop
  | .error f => (∀ e ∈ done, e.failure? ≠ none) ∧
      ∃ e, done.getLast? = some e ∧ e.failure? = some f
  | .ok o => (done = [] ∨ ∃ e ∈ done, e.failure? = none) ∧ Accounts done o

theorem accounts_iff {o : LintOutcome} :
    Accounts done o ↔ o = (({} : Progress).noteAll done).outcome := by
  rw [Progress.noteAll_eq]
  constructor
  · rintro ⟨hfailing, hunchecked, -, -⟩
    obtain ⟨failing, unchecked⟩ := o
    dsimp only at hfailing hunchecked
    rw [hfailing, hunchecked]
    rfl
  · rintro rfl
    refine ⟨rfl, rfl, fun e _ hbad hran => e.exists_of_not_endedBadly hbad hran, ?_⟩
    simp [LintOutcome.exitCode]

/-- Where the tool ran for no file, the last reason is that of the last file. -/
theorem getLast?_filterMap_failure? {e : Checked} (hlast : done.getLast? = some e)
    {f : StepFailure} (hfailed : e.failure? = some f) :
    (done.filterMap (·.failure?)).getLast? = some f := by
  obtain ⟨front, rfl⟩ := List.getLast?_eq_some_iff.mp hlast
  rw [List.filterMap_append, List.filterMap_cons_some hfailed, List.filterMap_nil,
    List.getLast?_concat]

theorem result_noteAll_of_ran (hran : done = [] ∨ ∃ e ∈ done, e.failure? = none) :
    (({} : Progress).noteAll done).result = .ok (({} : Progress).noteAll done).outcome := by
  rcases hran with rfl | ⟨e, he, hnone⟩
  · rfl
  · have hchecked : (({} : Progress).noteAll done).checked = true := by
      rw [Progress.noteAll_eq, Bool.false_or, List.any_eq_true]
      exact ⟨e, he, by rw [hnone]; rfl⟩
    rw [Progress.result, hchecked]

theorem result_noteAll_of_not_ran (hall : ∀ e ∈ done, e.failure? ≠ none) {e : Checked}
    (hlast : done.getLast? = some e) {f : StepFailure} (hfailed : e.failure? = some f) :
    (({} : Progress).noteAll done).result = .error (.failure f) := by
  have hchecked : (({} : Progress).noteAll done).checked = false := by
    rw [Progress.noteAll_eq, Bool.false_or, List.any_eq_false]
    intro e he
    simpa using hall e he
  have hreason : (({} : Progress).noteAll done).lastFailure = some f := by
    rw [Progress.noteAll_eq, getLast?_filterMap_failure? hlast hfailed, Option.some_or]
  rw [Progress.result, hchecked, hreason]

/-- What the check amounts to is what the files say. -/
theorem concludes_iff {v : Except StepFailure LintOutcome} :
    Concludes done v ↔ (({} : Progress).noteAll done).result = v.mapError .failure := by
  by_cases hran : done = [] ∨ ∃ e ∈ done, e.failure? = none
  · -- The tool ran for some file, or there was none: an account is given.
    rw [result_noteAll_of_ran hran]
    cases v with
    | ok o =>
      rw [Concludes, accounts_iff, and_iff_right hran]
      exact ⟨fun heq => heq ▸ rfl, fun heq => (Except.ok.inj heq).symm⟩
    | error f =>
      refine iff_of_false ?_ nofun
      rintro ⟨hall, e, hlast, -⟩
      rcases hran with rfl | ⟨e', he', hnone⟩
      · cases hlast
      · exact hall e' he' hnone
  · -- It ran for none, and the last failure is what is said.
    obtain ⟨hne, hall⟩ := not_or.mp hran
    have hall : ∀ e ∈ done, e.failure? ≠ none := fun e he hnone => hall ⟨e, he, hnone⟩
    have hlast : done.getLast? = some (done.getLast hne) := List.getLast?_eq_some_getLast hne
    obtain ⟨f, hfailed⟩ := Option.ne_none_iff_exists'.mp (hall _ (List.getLast_mem hne))
    rw [result_noteAll_of_not_ran hall hlast hfailed]
    cases v with
    | ok o => exact iff_of_false (fun h => hran h.1) nofun
    | error f' =>
      constructor
      · rintro ⟨-, e, hlast', hfailed'⟩
        obtain rfl := Option.some.inj (hlast.symm.trans hlast')
        rw [Option.some.inj (hfailed.symm.trans hfailed')]
        rfl
      · intro heq
        obtain rfl := LaunchError.failure.inj (Except.error.inj heq)
        exact ⟨hall, _, hlast, hfailed⟩

/-- Whatever came of the files, the check ends with a result or with a failure. -/
theorem exists_concludes (done : List Checked) :
    ∃ v, Concludes done v ∧ (({} : Progress).noteAll done).result = v.mapError .failure := by
  have hends : ∀ p : Progress, ∃ v : Except StepFailure LintOutcome,
      p.result = v.mapError .failure := by
    intro p
    rw [Progress.result]
    split
    · exact ⟨.error _, rfl⟩
    · exact ⟨.ok _, rfl⟩
  obtain ⟨v, hv⟩ := hends (({} : Progress).noteAll done)
  exact ⟨v, concludes_iff.mpr hv, hv⟩

/-- **A run of the check starts the tool once for each file**, in order, and ends with what came of
them. -/
theorem runs_run_iff {o : Except LaunchError LintOutcome} :
    Runs recorded (run seconds binary files) past o now ↔
      ∃ done v, Launched seconds binary files done past now ∧ Concludes done v ∧
        o = v.mapError .failure := by
  rw [run, runs_bind_iff]
  simp only [runs_checkFiles_iff, runs_pure_iff]
  constructor
  · rintro ⟨_, _, ⟨done, hlaunched, rfl⟩, rfl, rfl⟩
    obtain ⟨v, hconcludes, hv⟩ := exists_concludes done
    exact ⟨done, v, hlaunched, hconcludes, hv⟩
  · rintro ⟨done, v, hlaunched, hconcludes, rfl⟩
    exact ⟨_, _, ⟨done, hlaunched, rfl⟩, (concludes_iff.mp hconcludes).symm, rfl⟩

/-- The command that is started for a file, with what came of it. -/
def started (binary : String) (file : Candidate) (launch : Launch) : Started :=
  ⟨command binary file, launch⟩

theorem exists_cameOf (seconds : Int) (binary : String) {launches : List Launch}
    (hlength : files.length = launches.length) (htext : ∀ l ∈ launches, l ≠ .undecodable) :
    ∃ done : List Checked, done.map (·.file) = files ∧
      List.Forall₂ (Checked.CameOf seconds binary) done
        (List.zipWith (started binary) files launches) := by
  induction files generalizing launches with
  | nil => exact ⟨[], rfl, .nil⟩
  | cons file files ih =>
    obtain ⟨launch, launches, rfl⟩ := List.exists_cons_of_length_eq_add_one hlength.symm
    obtain ⟨hfirst, hrest⟩ := List.forall_mem_cons.mp htext
    obtain ⟨launched, hresult⟩ := launch.exists_launched hfirst seconds (command binary file)
    obtain ⟨done, rfl, hcame⟩ := ih (Nat.succ.inj hlength) hrest
    exact ⟨⟨file, launched⟩ :: done, rfl, .cons ⟨rfl, hresult⟩ hcame⟩

/-- **However the launches turn out, the check comes to an end.** -/
theorem exists_run (seconds : Int) (binary : String) (past : List Started)
    {launches : List Launch} (hlength : files.length = launches.length)
    (htext : ∀ l ∈ launches, l ≠ .undecodable) :
    ∃ o, Runs recorded (run seconds binary files) past o
      (past ++ List.zipWith (started binary) files launches) := by
  obtain ⟨done, hfiles, hcame⟩ := exists_cameOf seconds binary hlength htext
  obtain ⟨v, hconcludes, -⟩ := exists_concludes done
  exact ⟨_, runs_run_iff.mpr ⟨done, v, ⟨hfiles, _, rfl, hcame⟩, hconcludes, rfl⟩⟩

end Lint

end PluginSweep
