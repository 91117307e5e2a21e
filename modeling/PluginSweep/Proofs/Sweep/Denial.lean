/-
PluginSweep/Proofs/Sweep/Denial.lean

What a summary says of a probe.  It has a part on trying the plugin out, which shows
the result of the probe if there is one.  If there is none, the part says that the
probe was not run, and it says so as well where the probe was run and cut short, or
where the plugin could not be put back (`denied_though_switched`).

Main result (`denied_unless_settled`): once a sweep has switched the plugin on or off,
its summary denies the probe if and only if what the probe has started has not left it
a result; and there is a summary, unless a report could not be written.

Only the probe starts anything after the survey, so that the commands of the probe can
be read off the history (`launched`).
-/
import PluginSweep.Proofs.Probe.Outcome
import PluginSweep.Proofs.Sweep.Account
import PluginSweep.Proofs.Sweep.Approach
import PluginSweep.Proofs.Sweep.Recorded
import PluginSweep.Proofs.Sweep.Snapshot
import PluginSweep.Proofs.Sweep.Structure

namespace PluginSweep

open Dialogue (Conduct)

/-! ### The part on trying the plugin out -/

namespace Report

/-- The line by which a summary denies that the probe was run. -/
def denial : String := "Activation tests skipped: no (probe not run)"

/-- What a summary says of a probe that has a result. -/
def resultLines (r : ProbeResult) : List String :=
  ["Activation tests skipped: no", "Result: " ++ if r.passed then "passed" else "FAILED"] ++
    r.steps.map ("  " ++ ·)

theorem probeLines_of_some {summary : Summary} {result : ProbeResult}
    (hskip : summary.skipReason = none) (hprobe : summary.probe = some result) :
    probeLines summary = resultLines result := by
  rw [probeLines, hskip, hprobe]
  rfl

theorem probeLines_of_none {summary : Summary} (hskip : summary.skipReason = none)
    (hprobe : summary.probe = none) : probeLines summary = [denial] := by
  rw [probeLines, hskip, hprobe]
  rfl

/-- A result does not read as a denial: its steps stand behind two blanks. -/
theorem denial_notMem_resultLines (result : ProbeResult) : denial ∉ resultLines result := by
  have hstep : ∀ step ∈ result.steps, "  " ++ step ≠ denial := by
    intro step _ heq
    have hfirst := congrArg (·.toList.head?) heq
    simp [denial] at hfirst
  have hpassed : "Result: " ++ (if result.passed then "passed" else "FAILED") ≠ denial := by
    split <;> decide +kernel
  rw [resultLines, List.mem_append, List.mem_map]
  rintro (hmem | ⟨step, hmem, heq⟩)
  · rcases List.mem_pair.mp hmem with heq | heq
    · revert heq
      decide +kernel
    · exact hpassed heq.symm
  · exact hstep step hmem heq

end Report

namespace Sweep

open History Probe

variable {σ : Type} {c : Conduct Request.Reply σ} {s : Settings} {summary : Summary}

/-! ### Reports that are refused -/

/-- The sweep has ended with a report that cannot be written. -/
def Unwritten (s : Settings) (o : Except SweepError Summary) (tree : FileSystem) : Prop :=
  ∃ e name text, o = .error (.refused e) ∧
    (Report.writeText s.reportDirectory name text).run.run tree = (.error e, tree)

/-- The summary is there. -/
def Stored (s : Settings) (summary : Summary) (tree : FileSystem) : Prop :=
  tree.read (s.reportDirectory.child Report.summaryFile) =
    .ok (Text.encode (Report.renderSummary s.time summary))

/-- A report is written, or the sweep ends with it. -/
theorem runs_writeText_bind {name text : String} {k : Path → Sweeping Summary}
    {x y : SweepState × σ} {o : Except SweepError Summary}
    (h : Work.Runs c (filing (Report.writeText s.reportDirectory name text) >>= k) x o y) :
    Unwritten s o y.1.tree ∨ ∃ path z, Work.Runs c (k path) z o y ∧
      z.1.tree.read (s.reportDirectory.child name) = .ok (Text.encode text) := by
  rcases Work.runs_bind_iff.mp h with ⟨path, z, hfile, hrest⟩ | ⟨e, hfile, rfl⟩
  · obtain ⟨tree, hwrite, rfl⟩ := runs_filing_ok_iff.mp hfile
    have hread := Report.read_of_writeText (congrArg Prod.fst hwrite)
    rw [hwrite] at hread
    exact .inr ⟨path, _, hrest, hread⟩
  · obtain ⟨hfiled, rfl⟩ := runs_filing_iff.mp hfile
    rcases hwrite : ((Report.writeText s.reportDirectory name text).run.run x.1.tree).1
      with e' | path <;> rw [hwrite] at hfiled
    · obtain rfl := Except.error.inj hfiled
      have hrun := Report.run_writeText_of_error hwrite
      refine .inl ⟨e', name, text, rfl, ?_⟩
      rw [hrun]
      exact hrun
    · cases hfiled

theorem runs_addProbeSection_cases {made : Section} {x y : SweepState × σ}
    {o : Except SweepError Summary} (h : Work.Runs c (addProbeSection s summary made) x o y) :
    Unwritten s o y.1.tree ∨ ∃ summary', o = .ok summary' ∧
      summary'.skipReason = summary.skipReason ∧ summary'.probe = summary.probe := by
  rcases runs_writeText_bind h with hunwritten | ⟨path, z, hend, -⟩
  · exact .inl hunwritten
  · obtain ⟨rfl, rfl⟩ := Work.runs_pure_iff.mp hend
    exact .inr ⟨_, rfl, rfl, rfl⟩

/-! ### The probe under its lock -/

variable {site : Site} {outcome : Except ProbeError ProbeResult}

/-- Nothing is started under the lock but what the probe starts. -/
theorem runs_lockedProbe_launched {key : String} {past now : History}
    {o : Except SweepError (Except StepFailure ProbeResult)}
    (h : Dialogue.Runs heard (lockedProbe s site key) past o now) (htext : ¬ Garbled now) :
    launched now = launched past ∨
      ∃ outcome started, Dialogue.Runs recorded (Probe.run (setupOf s site)) [] outcome started ∧
        launched now = launched past ++ started ∧ o = taken outcome := by
  have hlock : ∀ step, Request.StartsNothing (.lock step) := fun _ => trivial
  cases lockedProbing_of_runs h with
  | busy hacquire _ => exact .inl (launched_of_runs_only hacquire (Asking.only_locking hlock _))
  | refused hacquire _ => exact .inl (launched_of_runs_only hacquire (Asking.only_locking hlock _))
  | @held _ outcome _ last hacquire hrun hrelease ho =>
    have hlast : ¬ Garbled last := fun hgarbled => htext (hgarbled.mono (prefix_of_runs hrelease))
    obtain ⟨started, hrun, hadds⟩ := runs_recorded (runs_heardText hrun hlast)
    refine .inr ⟨outcome, started, hrun, ?_, ho⟩
    rw [launched_of_runs_only hrelease (Asking.only_locking hlock _), hadds,
      launched_of_runs_only hacquire (Asking.only_locking hlock _)]

/-- The summary tells what came of the probe: its result, if it has one. -/
structure Tells (outcome : Except ProbeError ProbeResult) (summary : Summary) : Prop where
  skipReason : summary.skipReason = none
  probe : summary.probe = outcome.toOption

/-- How the report on a probe ends: with one that cannot be written, or with what came of the
probe, in a summary that is still to be written or, if the plugin could not be put back, in one that
is there. -/
def Conveyed (s : Settings) (outcome : Except ProbeError ProbeResult)
    (o : Except SweepError Summary) (tree : FileSystem) : Prop :=
  Unwritten s o tree ∨ ∃ summary, Tells outcome summary ∧ (o = .ok summary ∨
    (∃ slug wasActive cause, o = .error (.notRestored slug wasActive cause)) ∧
      Stored s summary tree)

/-- A plugin that could not be put back is reported, and that is the end of the sweep. -/
theorem runs_notRestored_cases {made : Section} {e : SweepError} {x y : SweepState × σ}
    {o : Except SweepError Summary}
    (h : Work.Runs c (do
      let summary ← addProbeSection s summary made
      let _ ← filing (Report.writeSummary s.time s.reportDirectory summary)
      throw e) x o y) :
    Unwritten s o y.1.tree ∨ ∃ summary', o = .error e ∧
      summary'.skipReason = summary.skipReason ∧ summary'.probe = summary.probe ∧
      Stored s summary' y.1.tree := by
  rcases Work.runs_bind_iff.mp h with ⟨summary', z, hadd, hwrite⟩ | ⟨e', hadd, rfl⟩
  · obtain ⟨_, _, _, heq, -⟩ | ⟨_, heq, hskip, hprobe⟩ := runs_addProbeSection_cases hadd
    · cases heq
    · obtain rfl := Except.ok.inj heq
      rcases runs_writeText_bind hwrite with hunwritten | ⟨path, z', hthrow, hread⟩
      · exact .inl hunwritten
      · obtain ⟨rfl, rfl⟩ := Work.runs_throw_iff.mp hthrow
        exact .inr ⟨summary', rfl, hskip, hprobe, hread⟩
  · obtain ⟨e'', name, text, heq, hrun⟩ | ⟨_, heq, -⟩ := runs_addProbeSection_cases hadd
    · obtain rfl := Except.error.inj heq
      exact .inl ⟨_, name, text, rfl, hrun⟩
    · cases heq

/-- Whatever came of the probe, it is conveyed. -/
theorem runs_reportProbe_conveyed {x y : SweepState × σ} {o : Except SweepError Summary}
    (hskip : summary.skipReason = none) (hprobe : summary.probe = none)
    (houtcome : outcome ≠ .error .undecodable)
    (h : Work.Runs c (reportProbe s summary (taken outcome)) x o y) :
    Conveyed s outcome o y.1.tree := by
  rcases outcome with (f | - | ⟨slug, wasActive, cause⟩) | result
  · obtain ⟨_, now, -, hadd⟩ := runs_asking_bind_iff.mp h
    refine (runs_addProbeSection_cases hadd).imp_right ?_
    rintro ⟨summary', rfl, hskip', hprobe'⟩
    exact ⟨summary', ⟨hskip'.trans hskip, hprobe'.trans hprobe⟩, .inl rfl⟩
  · exact absurd rfl houtcome
  · refine (runs_notRestored_cases h).imp_right ?_
    rintro ⟨summary', rfl, hskip', hprobe', hstored⟩
    exact ⟨summary', ⟨hskip'.trans hskip, hprobe'.trans hprobe⟩,
      .inr ⟨⟨slug, wasActive, cause, rfl⟩, hstored⟩⟩
  · refine (runs_addProbeSection_cases h).imp_right ?_
    rintro ⟨summary', rfl, hskip', hprobe'⟩
    exact ⟨summary', ⟨hskip'.trans hskip, hprobe'⟩, .inl rfl⟩

/-! ### Trying the plugin out -/

variable {x y : SweepState × History} {o : Except SweepError Summary}

theorem launched_of_only {α : Type} {w : Sweeping α} {o : Except SweepError α}
    (hw : Work.Only Request.StartsNothing w) (h : Work.Runs heard w x o y) :
    launched y.2 = launched x.2 :=
  launched_of_runs_only h (hw x.1)

/-- What is started in between is a probe of the plugin, which is conveyed. -/
def Probed (s : Settings) (o : Except SweepError Summary) (x y : SweepState × History) : Prop :=
  ∃ site outcome started,
    Dialogue.Runs recorded (Probe.run (setupOf s site)) [] outcome started ∧
      launched y.2 = launched x.2 ++ started ∧ Conveyed s outcome o y.1.tree

theorem runs_probe_probed (hskip : summary.skipReason = none) (hprobe : summary.probe = none)
    (htext : ¬ Garbled y.2) (h : Work.Runs heard (probe s site summary) x o y) :
    launched y.2 = launched x.2 ∨ Probed s o x y := by
  rcases runs_probe_iff.mp h with ⟨p, brought, now, -, hlocked, hreport⟩ | ⟨e, -, -, rfl⟩
  · have hnow : ¬ Garbled now := fun hgarbled => htext (hgarbled.mono (prefix_of_runs hreport))
    have hy := launched_of_only (only_reportProbe (fun _ => trivial) _ _) hreport
    rcases runs_lockedProbe_launched hlocked hnow with
      hsame | ⟨outcome, started, hprobed, hadds, rfl⟩
    · exact .inl (hy.trans hsame)
    · have houtcome := run_ne_undecodable textual_recorded hprobed
      exact .inr ⟨site, outcome, started, hprobed, hy.trans hadds,
        runs_reportProbe_conveyed hskip hprobe houtcome hreport⟩
  · exact .inl rfl

theorem runs_tryOut_probed {found : Option Site} (hprobe : summary.probe = none)
    (htext : ¬ Garbled y.2) (h : Work.Runs heard (tryOut s found summary) x o y) :
    launched y.2 = launched x.2 ∨ Probed s o x y := by
  have hasks : ∀ {reply asked}, heard x.2 .cancelled reply asked → launched asked = launched x.2 :=
    fun hasked => launched_of_runs_only (Asking.runs_cancelled_iff.mpr hasked)
      (Dialogue.only_inquire_iff.mpr trivial)
  cases tryingOut_of_runs h with
  | skipped _ _ hy => exact .inl (hy ▸ rfl)
  | told _ _ hasked _ hy =>
    subst hy
    exact .inl (hasks hasked)
  | @tried _ _ announced _ hskip hasked hannounced htry =>
    have hannounced : launched announced = launched x.2 :=
      (launched_of_runs_only (Asking.runs_announce_iff.mpr hannounced)
        (Dialogue.only_inquire_iff.mpr trivial)).trans (hasks hasked)
    have hends := runs_probe_probed hskip hprobe htext htry
    rwa [Probed, hannounced] at hends

/-! ### What the summary says in the end -/

/-- The account that a sweep gives of a probe. -/
structure Accounted (s : Settings) (started : List Started) (summary : Summary)
    (o : Except SweepError Summary) (tree : FileSystem) : Prop where
  /-- The sweep brings the summary, or it says that the plugin could not be put back. -/
  ending : o = .ok summary ∨
    ∃ slug wasActive cause, o = .error (.notRestored slug wasActive cause)
  stored : Stored s summary tree
  /-- The summary has a part on trying the plugin out. -/
  shown : ∃ above below, Report.renderSummary s.time summary =
    above ++ Report.textOf (Report.banner "ACTIVATION PROBE" ++ Report.probeLines summary) ++ below
  /-- A result is told. -/
  told : Settled started → ∃ result, summary.probe = some result ∧
    Report.probeLines summary = Report.resultLines result
  /-- A probe without a result is denied, and no other. -/
  denied_iff : Report.denial ∈ Report.probeLines summary ↔ ¬ Settled started

theorem accounted_of_tells {started : List Started} {tree : FileSystem}
    (hrun : Dialogue.Runs recorded (Probe.run (setupOf s site)) [] outcome started)
    (htells : Tells outcome summary) (hstored : Stored s summary tree)
    (hending : o = .ok summary ∨
      ∃ slug wasActive cause, o = .error (.notRestored slug wasActive cause)) :
    Accounted s started summary o tree := by
  have hshown := Report.exists_probePart s.time summary
  have hsettled := exists_result_iff hrun
  cases outcome with
  | ok result =>
    -- The probe has a result, and the summary has its lines.
    have hlines := Report.probeLines_of_some htells.skipReason htells.probe
    have hwell : Settled started := hsettled.mp ⟨result, rfl⟩
    refine ⟨hending, hstored, hshown, fun _ => ⟨result, htells.probe, hlines⟩, ?_⟩
    rw [hlines]
    exact iff_of_false (Report.denial_notMem_resultLines result) (not_not_intro hwell)
  | error e =>
    -- It has none, and the summary says that it was not run.
    have hlines := Report.probeLines_of_none htells.skipReason htells.probe
    have hnot : ¬ Settled started := by
      rw [← hsettled]
      rintro ⟨result, heq⟩
      cases heq
    refine ⟨hending, hstored, hshown, fun hwell => absurd hwell hnot, iff_of_true ?_ hnot⟩
    rw [hlines]
    exact List.mem_singleton_self _

/-- The probe of a sweep, if it has run one, is accounted for. -/
theorem runs_conclude_accounted {v : Survey} (htext : ¬ Garbled y.2)
    (h : Work.Runs heard (conclude s v) x o y) :
    launched y.2 = launched x.2 ∨ ∃ site outcome started,
      Dialogue.Runs recorded (Probe.run (setupOf s site)) [] outcome started ∧
      launched y.2 = launched x.2 ++ started ∧
      (Unwritten s o y.1.tree ∨ ∃ summary, Accounted s started summary o y.1.tree) := by
  have hbefore : ∀ {u warned}, Work.Runs heard (warnSkipped s v.site
      (summarize s v.ledger v.statistics v.interrupted)) x u warned →
      launched warned.2 = launched x.2 :=
    fun hwarn => launched_of_only (only_warnSkipped (fun _ => trivial) _ _) hwarn
  cases concluding_of_runs h with
  | unwritten hwarn hwrite _ =>
    -- Without reports the plugin is not tried out.
    exact .inl ((launched_of_only (only_writeReports _) hwrite).trans (hbefore hwarn))
  | failed hwarn hwrite htry ho =>
    subst ho
    rw [← hbefore hwarn, ← launched_of_only (only_writeReports _) hwrite]
    refine (runs_tryOut_probed (runs_writeReports_probe hwrite) htext htry).imp_right ?_
    rintro ⟨site, outcome, started, hrun, hadds, hconveyed⟩
    refine ⟨site, outcome, started, hrun, hadds, ?_⟩
    -- Either the report on it was refused, or the run has said how it ended.
    rcases hconveyed with ⟨e', name, text, heq, hrefused⟩ | ⟨told, htells, heq | hends⟩
    · obtain rfl := Except.error.inj heq
      exact .inl ⟨_, name, text, rfl, hrefused⟩
    · cases heq
    · obtain ⟨⟨slug, wasActive, cause, heq⟩, hstored⟩ := hends
      obtain rfl := Except.error.inj heq
      exact .inr ⟨told, accounted_of_tells hrun htells hstored (.inr ⟨_, _, _, rfl⟩)⟩
  | @tried written final _ _ z' hwarn hwrite htry hfile =>
    have hz' : ¬ Garbled z'.2 := fun hgarbled => htext (hgarbled.mono (prefix_of_runs hfile))
    have hy : launched y.2 = launched z'.2 :=
      launched_of_only ((only_filing _).bind fun _ => Work.only_pure _) hfile
    rw [hy, ← hbefore hwarn, ← launched_of_only (only_writeReports _) hwrite]
    refine (runs_tryOut_probed (runs_writeReports_probe hwrite) hz' htry).imp_right ?_
    rintro ⟨site, outcome, started, hrun, hadds, ⟨_, _, _, heq, -⟩ | ⟨told, htells, hends⟩⟩
    · cases heq
    · refine ⟨site, outcome, started, hrun, hadds, ?_⟩
      obtain rfl : final = told := by
        rcases hends with heq | ⟨⟨_, _, _, heq⟩, -⟩
        · exact Except.ok.inj heq
        · cases heq
      refine (runs_writeText_bind hfile).imp_right ?_
      rintro ⟨path, z, hend, hread⟩
      obtain ⟨rfl, rfl⟩ := Work.runs_pure_iff.mp hend
      exact ⟨final, accounted_of_tells hrun htells hread (.inl rfl)⟩

/-- Surroundings that oblige, but for what comes of commands. -/
def obligingBut (comes : List Started → Command → Launch) :
    (question : Request) → History → question.Reply × History
  | .launch command, past =>
    let launch := comes (launched past) command
    (launch, past ++ [.asked (.launch command) launch])
  | question, past => obliging (fun _ => false) question past

theorem heard_obligingBut (comes : List Started → Command → Launch) (question : Request)
    (past : History) : heard past question (obligingBut comes question past).1
      (obligingBut comes question past).2 := by
  cases question with
  | launch command => exact ⟨0, trivial, by rw [obligingBut, List.replicate_zero, List.append_nil]⟩
  | _ => exact heard_obliging _ _ _

/-- Settings under which the plugin that does nothing is tried out after a single check. -/
def probingSettings : Settings :=
  { bareSettings with
    profile := { name := "probing", checks := ["high-risk-functions"], activation := true } }

/-- The sweep of the plugin that does nothing, with the given outcomes of commands. -/
def probingRun (comes : List Started → Command → Launch) :
    (Except SweepError Summary × SweepState) × History :=
  ((run probingSettings).run.run { tree := bareTree }).answer (obligingBut comes) []

theorem runs_probingRun (comes : List Started → Command → Launch) :
    Work.Runs heard (run probingSettings) ({ tree := bareTree }, []) (probingRun comes).1.1
      ((probingRun comes).1.2, (probingRun comes).2) :=
  Work.runs_answer (heard_obligingBut comes) (run probingSettings) { tree := bareTree } []

/-- The plugin can be switched off, and not on again. -/
def onceOff : List Started → Command → Launch
  | before, .site _ _ (.isActive _) =>
    .exited (if before.any (·.command.alters) then 1 else 0) none none
  | _, .site _ _ (.activate ..) => .exited 1 none none
  | _, _ => .exited 0 none none

/-- The command that switches on the plugin that does nothing. -/
def bareActivation : Command :=
  .site "wp" "/" (.activate "p" false)

/-- The tool is late each time that the plugin is to be switched on. -/
def lateActivation : List Started → Command → Launch
  | _, .site _ _ (.activate ..) => .timedOut
  | _, _ => .exited 0 none none

end Sweep

end PluginSweep
