/-
PluginSweep/Proofs/Sweep/Conclusion.lean

What a sweep does after its survey.  Writing the reports asks nothing, and what
it changes of the summary is the sections alone.  Everything else that may alter
a site is asked for while the plugin is tried out, and trying it out begins with
the question whether the run has been told to end, a no, and an announcement
(`Opened`).
-/
import PluginSweep.Proofs.Report.Summary
import PluginSweep.Proofs.Request.History
import PluginSweep.Proofs.Sweep.Harmless
import PluginSweep.Proofs.Sweep.Work

namespace PluginSweep.Sweep

open History
open Dialogue (Conduct)

variable {σ : Type} {c : Conduct Request.Reply σ} {s : Settings}

/-! ### The reports -/

/-- The summary is the other one but for its sections and for what came of trying the plugin
out. -/
def Continues (summary summary' : Summary) : Prop :=
  summary'.skipReason = summary.skipReason ∧ summary'.interrupted = summary.interrupted

theorem writeSections_continues {time : String} {dir : Path} {known : Report.Descriptions}
    {summary : Summary} {tree : FileSystem} :
    Continues summary ((Report.writeSections time dir known summary).run tree).1.2 := by
  rw [Report.writeSections, StateT.run_bind]
  rcases (Report.writeStatistics time dir summary).run.run tree with ⟨e | path, tree'⟩
  · exact ⟨rfl, rfl⟩
  · exact ⟨rfl, rfl⟩

theorem runs_writeReports {summary : Summary} {x y : SweepState × σ}
    {o : Except SweepError Summary} (h : Work.Runs c (writeReports s summary) x o y) :
    y.2 = x.2 ∧ ∀ summary', o = .ok summary' → Continues summary summary' := by
  cases writingReports_iff.mp h with
  | unprepared _ ho hy => exact ⟨hy ▸ rfl, fun summary' heq => by cases ho.symm.trans heq⟩
  | @prepared base _ written _ _ hwrite ho hy =>
    refine ⟨hy ▸ rfl, fun summary' heq => ?_⟩
    cases written with
    | ok paths =>
      obtain rfl := Except.ok.inj (ho.symm.trans heq)
      have hcontinues := @writeSections_continues s.time s.reportDirectory Report.descriptions
        summary base
      rwa [hwrite] at hcontinues
    | error e => cases ho.symm.trans heq

/-- Work that follows other work and succeeds continues the summary if both do. -/
theorem Continues.trans {summary₁ summary₂ summary₃ : Summary} (h₁ : Continues summary₁ summary₂)
    (h₂ : Continues summary₂ summary₃) : Continues summary₁ summary₃ :=
  ⟨h₂.1.trans h₁.1, h₂.2.trans h₁.2⟩

theorem runs_reportProbe {summary summary' : Summary}
    {outcome : Except SweepError (Except StepFailure ProbeResult)} {x y : SweepState × σ}
    (h : Work.Runs c (reportProbe s summary outcome) x (.ok summary') y) :
    Continues summary summary' := by
  obtain ⟨outcome, now, -, hadd⟩ := exists_outcome_of_reportProbe h
  obtain rfl := eq_of_addProbeSection hadd
  cases outcome with
  | ok result => exact ⟨rfl, rfl⟩
  | error f => exact ⟨rfl, rfl⟩

theorem runs_probe {site : Site} {summary summary' : Summary} {x y : SweepState × σ}
    (h : Work.Runs c (probe s site summary) x (.ok summary') y) : Continues summary summary' := by
  obtain ⟨p, brought, now, -, -, hreport⟩ :=
    (runs_probe_iff.mp h).resolve_right fun ⟨e, _, heq, _⟩ => by cases heq
  exact runs_reportProbe hreport

theorem runs_tryOut_ok {site : Option Site} {summary summary' : Summary} {x y : SweepState × σ}
    (h : Work.Runs c (tryOut s site summary) x (.ok summary') y) : Continues summary summary' := by
  cases tryingOut_of_runs h with
  | skipped _ heq _ => exact Except.ok.inj heq ▸ ⟨rfl, rfl⟩
  | told _ _ _ heq _ => exact Except.ok.inj heq ▸ ⟨rfl, rfl⟩
  | tried _ _ _ _ hprobe => exact runs_probe hprobe

/-- **A sweep that comes to its end says what its survey said about being interrupted**, and the
summary is where it should be. -/
theorem runs_conclude_ok {v : Survey} {summary : Summary} {x y : SweepState × σ}
    (h : Work.Runs c (conclude s v) x (.ok summary) y) :
    summary.interrupted = v.interrupted ∧
      y.1.tree.read (s.reportDirectory.child Report.summaryFile) =
        .ok (Text.encode (Report.renderSummary s.time summary)) := by
  obtain ⟨_, written, _, _, path, -, hwrite, htry, hfiled⟩ := exists_parts_of_conclude h
  have hcontinues := ((runs_writeReports hwrite).2 written rfl).trans (runs_tryOut_ok htry)
  refine ⟨hcontinues.2, ?_⟩
  obtain ⟨hpath, rfl⟩ := runs_filing_iff.mp hfiled
  have hwritten := filed_eq_ok hpath.symm
  rw [Report.writeSummary] at hwritten ⊢
  dsimp only
  exact Report.read_of_writeText hwritten

/-! ### Trying the plugin out -/

variable {x y : SweepState × History}

/-- All that has been asked since is harmless. -/
def Quiet (past now : History) : Prop :=
  ∀ question reply, .asked question reply ∈ now →
    .asked question reply ∈ past ∨ question.Harmless

/-- The plugin has been begun to be tried out: right after `past`, in which the run was not told
to end, that was asked once more, and the trial was announced. -/
def Opened (past now : History) : Prop :=
  .told ∉ past ∧ ∃ m, past ++ .asked .cancelled false :: (List.replicate m .told ++
    [.asked (.announce activationTitle) ()]) <+: now

theorem Quiet.refl (past : History) : Quiet past past :=
  fun _ _ h => .inl h

theorem Quiet.trans {past now later : History} (h₁ : Quiet past now) (h₂ : Quiet now later) :
    Quiet past later := by
  intro question reply hmem
  rcases h₂ question reply hmem with hnow | hharmless
  · exact h₁ question reply hnow
  · exact .inr hharmless

theorem quiet_of_only {α : Type} {w : Sweeping α} (hw : Work.Only Request.Harmless w)
    {o : Except SweepError α} (h : Work.Runs heard w x o y) : Quiet x.2 y.2 :=
  fun _ _ hmem => mem_of_runs_only h (hw x.1) hmem

/-- The question and the announcement with which trying the plugin out begins. -/
theorem opened_of_announced {past asked announced now : History}
    (hasked : heard past .cancelled false asked)
    (hannounced : heard asked (.announce activationTitle) () announced)
    (hnow : announced <+: now) : Opened past now := by
  obtain ⟨n, htold, rfl⟩ := hasked
  obtain ⟨m, -, rfl⟩ := hannounced
  have hnone : Event.told ∉ past ++ List.replicate n Event.told :=
    fun hmem => Bool.false_ne_true (htold.mpr hmem)
  -- Had the run been told to end since, the reply would have been yes.
  obtain rfl : n = 0 := Classical.byContradiction fun hpos =>
    hnone (List.mem_append_right _ (List.mem_replicate.mpr ⟨hpos, rfl⟩))
  rw [List.replicate_zero, List.append_nil] at hnone hnow
  refine ⟨hnone, m, ?_⟩
  simpa using hnow

/-- Trying the plugin out is quiet, unless there is a site, nothing stands against it, and it has
been opened. -/
theorem runs_tryOut {site : Option Site} {summary : Summary} {o : Except SweepError Summary}
    (h : Work.Runs heard (tryOut s site summary) x o y) :
    Quiet x.2 y.2 ∨ (site.isSome ∧ summary.skipReason = none ∧ Opened x.2 y.2) := by
  cases tryingOut_of_runs h with
  | skipped _ _ hy => exact .inl (hy ▸ Quiet.refl _)
  | told _ _ hasked _ hy =>
    have honly : Asking.cancelled.Only Request.Harmless := Dialogue.only_inquire_iff.mpr trivial
    subst hy
    exact .inl (quiet_of_only (only_asking honly)
      (runs_asking_iff.mpr ⟨_, Asking.runs_cancelled_iff.mpr hasked, rfl, rfl⟩))
  | tried hsite hnone hasked hannounced hprobe =>
    exact .inr ⟨hsite ▸ rfl, hnone, opened_of_announced hasked hannounced (prefix_of_runs hprobe)⟩

/-- Saying that the plugin is not tried out is harmless, and is done only then. -/
theorem runs_warnSkipped {site : Option Site} {summary : Summary} {o : Except SweepError Unit}
    (h : Work.Runs heard (warnSkipped s site summary) x o y) :
    Quiet x.2 y.2 ∧ (summary.skipReason = none → y.2 = x.2) := by
  unfold warnSkipped at h
  split at h
  · rename_i hskip
    have honly : ∀ w, (Asking.warn w).Only Request.Harmless :=
      fun w => Dialogue.only_inquire_iff.mpr trivial
    refine ⟨quiet_of_only (only_asking (honly _)) h, fun hnone => ?_⟩
    rw [hskip] at hnone
    cases hnone
  · obtain ⟨-, rfl⟩ := Work.runs_pure_iff.mp h
    exact ⟨Quiet.refl _, fun _ => rfl⟩

/-- Nothing is asked between saying that the plugin is not tried out and trying it out. -/
theorem runs_tryOut_warned {v : Survey} {written : Summary} {o : Except SweepError Summary}
    {warned z : SweepState × History}
    (hwarn : Work.Runs heard (warnSkipped s v.site
      (summarize s v.ledger v.statistics v.interrupted)) x (.ok ()) warned)
    (hwrite : Work.Runs heard (writeReports s (summarize s v.ledger v.statistics v.interrupted))
      warned (.ok written) z)
    (htry : Work.Runs heard (tryOut s v.site written) z o y) :
    Quiet x.2 y.2 ∨ (v.site.isSome ∧ v.ledger.obstacle = none ∧ Opened x.2 y.2) := by
  obtain ⟨hquiet, hsame⟩ := runs_warnSkipped hwarn
  obtain ⟨hz, hcontinues⟩ := runs_writeReports hwrite
  have hopens := runs_tryOut htry
  rw [hz] at hopens
  rcases hopens with hrest | ⟨hsite, hnone, hopened⟩
  · exact .inl (hquiet.trans hrest)
  · rw [(hcontinues written rfl).1] at hnone
    refine .inr ⟨hsite, Option.map_eq_none_iff.mp hnone, ?_⟩
    -- With nothing standing against it, nothing has been said either.
    rw [← hsame hnone]
    exact hopened

/-- **After the survey, all is quiet unless trying the plugin out has been opened**, and that is
so only if there is a site and nothing stands against it. -/
theorem runs_conclude {v : Survey} {o : Except SweepError Summary}
    (h : Work.Runs heard (conclude s v) x o y) :
    Quiet x.2 y.2 ∨ (v.site.isSome ∧ v.ledger.obstacle = none ∧ Opened x.2 y.2) := by
  cases concluding_of_runs h with
  | unwritten hwarn hwrite _ =>
    rw [(runs_writeReports hwrite).1]
    exact .inl (runs_warnSkipped hwarn).1
  | failed hwarn hwrite htry _ => exact runs_tryOut_warned hwarn hwrite htry
  | @tried _ _ _ _ z' hwarn hwrite htry hfile =>
    -- Writing the summary asks nothing.
    have hy : y.2 = z'.2 := by
      rcases Work.runs_bind_iff.mp hfile with ⟨_, z, hfiled, hend⟩ | ⟨e, hfiled, -⟩
      · obtain ⟨-, rfl⟩ := runs_filing_iff.mp hfiled
        obtain ⟨-, rfl⟩ := Work.runs_pure_iff.mp hend
        rfl
      · obtain ⟨-, rfl⟩ := runs_filing_iff.mp hfiled
        rfl
    rw [hy]
    exact runs_tryOut_warned hwarn hwrite htry

end PluginSweep.Sweep
