/-
PluginSweep/Proofs/Sweep/Account.lean

What a summary says of trying the plugin out.  A sweep that ends with a summary has never
said that the plugin could not be put back; and if the summary has the result of a probe,
that is the result of the probe which the sweep was heard to make under the lock of its
site (`runs_run_accounts`).
-/
import PluginSweep.Proofs.Sweep.Conclusion
import PluginSweep.Proofs.Sweep.Stage

namespace PluginSweep.Sweep

open Dialogue (Conduct Runs listening)

variable {α σ : Type} {s : Settings} {site : Site} {key : String} {summary summary' : Summary}
  {past now heard : List Said} {x y : SweepState × List Said}

/-- The summary says what came of trying the plugin out, and that was not given up. -/
structure Accounts (s : Settings) (summary : Summary) (heard : List Said) : Prop where
  tried : ∀ result, summary.probe = some result → TriedOut s heard (.ok result)
  settled : ¬ Raised s heard

theorem accounts_of_early (hearly : ∀ x ∈ heard, x.1.Early) (hnone : summary.probe = none) :
    Accounts s summary heard := by
  refine ⟨fun result heq => ?_, ?_⟩
  · rw [hnone] at heq
    cases heq
  · rintro ⟨slug, wasActive, cause, htried⟩
    obtain ⟨x, hx, hnot⟩ := htried.exists_took
    exact hnot (hearly x hx)

theorem early_of_runs {w : Sweeping α} {o : Except SweepError α}
    (h : Work.Runs listening w x o y) (hw : Work.Only Request.Early w)
    (hx : ∀ z ∈ x.2, z.1.Early) : ∀ z ∈ y.2, z.1.Early := by
  intro z hz
  rcases Dialogue.mem_of_listening (Dialogue.runs_iff_reaches.mp h) (hw x.1) hz with hz | hz
  · exact hx z hz
  · exact hz

/-- What comes of trying the plugin out under the lock. -/
theorem runs_lockedProbe {o : Except SweepError (Except StepFailure ProbeResult)}
    (h : Runs listening (lockedProbe s site key) past o now) (hnow : now <+: heard)
    (hearly : ∀ x ∈ past, x.1.Early) (hsite : s.probedSite = some site) :
    (∀ result, o = .ok (.ok result) → TriedOut s heard (.ok result)) ∧
      (Raised s heard → ∃ e, o = .error e) := by
  cases lockedProbing_of_runs h with
  | busy hacquire ho =>
    subst ho
    refine ⟨fun result heq => ?_, fun ⟨slug, wasActive, cause, htried⟩ => ?_⟩
    · cases heq
    · -- A probe that could not put the plugin back had the lock.
      obtain ⟨⟨held, heq⟩, -⟩ := htried.acquired hsite hearly hacquire hnow
      cases heq
  | refused _ ho =>
    -- The lock file was refused, and the run has an error.
    subst ho
    refine ⟨fun result heq => ?_, fun _ => ⟨_, rfl⟩⟩
    cases heq
  | @held held outcome mid last hacquire hrun hrelease ho =>
    -- The probe has been run, and there is only one such run.
    subst ho
    have hlast : last <+: heard :=
      (Dialogue.prefix_of_listening (Dialogue.runs_iff_reaches.mp hrelease)).trans hnow
    have hmid : mid <+: heard :=
      (Dialogue.prefix_of_listening (Dialogue.runs_iff_reaches.mp hrun)).trans hlast
    refine ⟨fun result heq => ?_, fun ⟨slug, wasActive, cause, htried⟩ => ?_⟩
    · obtain rfl := eq_ok_of_taken heq
      exact ⟨site, key, held, mid, last, ⟨hsite, past, hearly, hacquire⟩, hrun, hlast⟩
    · obtain ⟨-, last', hrun', hlast'⟩ := htried.acquired hsite hearly hacquire hmid
      obtain ⟨rfl, -⟩ := hrun.unique hlast hrun' hlast'
      exact ⟨_, rfl⟩

section Reports

variable {c : Conduct Request.Reply σ} {x y : SweepState × σ}

theorem writeSections_probe (time : String) (dir : Path) (known : Report.Descriptions)
    (summary : Summary) (tree : FileSystem) :
    ((Report.writeSections time dir known summary).run tree).1.2.probe = summary.probe := by
  rw [Report.writeSections, StateT.run_bind]
  rcases (Report.writeStatistics time dir summary).run.run tree with ⟨e | path, tree'⟩
  · rfl
  · rfl

theorem runs_writeReports_probe (h : Work.Runs c (writeReports s summary) x (.ok summary') y) :
    summary'.probe = summary.probe := by
  obtain ⟨base, mid, paths, -, hwrite, -⟩ := runs_writeReports_ok_iff.mp h
  have hprobe := writeSections_probe s.time s.reportDirectory Report.descriptions summary base
  rwa [hwrite] at hprobe

/-- The result of a probe gets into the summary. -/
theorem runs_reportProbe_probe {o : Except SweepError (Except StepFailure ProbeResult)}
    (h : Work.Runs c (reportProbe s summary o) x (.ok summary') y) :
    (∃ result, o = .ok (.ok result) ∧ summary'.probe = some result) ∨
      (∃ f, o = .ok (.error f)) ∧ summary'.probe = summary.probe := by
  obtain ⟨outcome, now, rfl, hadd⟩ := exists_outcome_of_reportProbe h
  obtain rfl := eq_of_addProbeSection hadd
  cases outcome with
  | ok result => exact .inl ⟨result, rfl, rfl⟩
  | error f => exact .inr ⟨⟨f, rfl⟩, rfl⟩

end Reports

theorem runs_probe_accounts (h : Work.Runs listening (probe s site summary) x (.ok summary') y)
    (hearly : ∀ z ∈ x.2, z.1.Early) (hsite : s.probedSite = some site)
    (hnone : summary.probe = none) : Accounts s summary' y.2 := by
  obtain ⟨p, brought, now, -, hlocked, hreport⟩ :=
    (runs_probe_iff.mp h).resolve_right fun ⟨e, _, heq, _⟩ => by cases heq
  have hnow : now <+: y.2 := Dialogue.prefix_of_listening (Dialogue.runs_iff_reaches.mp hreport)
  obtain ⟨htried, hraised⟩ := runs_lockedProbe hlocked hnow hearly hsite
  rcases runs_reportProbe_probe hreport with ⟨result, rfl, hprobe⟩ | ⟨⟨f, rfl⟩, hprobe⟩
  · refine ⟨fun result' heq => ?_, fun h => by cases (hraised h).choose_spec⟩
    obtain rfl := Option.some.inj (hprobe.symm.trans heq)
    exact htried _ rfl
  · refine ⟨fun result' heq => ?_, fun h => by cases (hraised h).choose_spec⟩
    rw [hprobe, hnone] at heq
    cases heq

theorem runs_tryOut_accounts {found : Option Site}
    (h : Work.Runs listening (tryOut s found summary) x (.ok summary') y)
    (hearly : ∀ z ∈ x.2, z.1.Early) (hsite : found = s.probedSite)
    (hnone : summary.probe = none) : Accounts s summary' y.2 := by
  have hasks : ∀ {reply asked}, listening x.2 .cancelled reply asked →
      ∀ z ∈ asked, z.1.Early := fun hasked =>
    early_of_runs (y := (x.1, _))
      (runs_asking_iff.mpr ⟨_, Asking.runs_cancelled_iff.mpr hasked, rfl, rfl⟩)
      (only_asking (Dialogue.only_inquire_iff.mpr trivial)) hearly
  cases tryingOut_of_runs h with
  | skipped _ heq hy =>
    obtain rfl := Except.ok.inj heq
    exact accounts_of_early (hy ▸ hearly) hnone
  | told _ _ hasked heq hy =>
    obtain rfl := Except.ok.inj heq
    subst hy
    exact accounts_of_early (hasks hasked) hnone
  | tried hfound _ hasked hannounced hprobe =>
    have hannounced := early_of_runs (x := (x.1, _)) (y := (x.1, _))
      (runs_asking_iff.mpr ⟨_, Asking.runs_announce_iff.mpr hannounced, rfl, rfl⟩)
      (only_asking (Dialogue.only_inquire_iff.mpr trivial)) (hasks hasked)
    exact runs_probe_accounts hprobe hannounced (hsite.symm.trans hfound) hnone

theorem runs_conclude_accounts {v : Survey}
    (h : Work.Runs listening (conclude s v) x (.ok summary) y) (hearly : ∀ z ∈ x.2, z.1.Early)
    (hsite : v.site = s.probedSite) : Accounts s summary y.2 := by
  obtain ⟨_, written, _, _, path, hwarn, hwrite, htry, hfiled⟩ := exists_parts_of_conclude h
  obtain ⟨-, rfl⟩ := runs_filing_iff.mp hfiled
  have hz₁ := early_of_runs hwarn (only_warnSkipped (fun _ => trivial) _ _) hearly
  have hz₂ := early_of_runs hwrite (only_writeReports _) hz₁
  exact (runs_tryOut_accounts htry hz₂ hsite (runs_writeReports_probe hwrite) :)

/-- **A summary says what came of trying the plugin out.** -/
theorem runs_run_accounts {st : SweepState}
    (h : Work.Runs listening (run s) (st, []) (.ok summary) y) : Accounts s summary y.2 := by
  obtain ⟨v, z, hsurvey, hconclude⟩ := Work.runs_bind_ok_iff.mp h
  have hearly := early_of_runs hsurvey (only_survey_early s) fun z hz => by cases hz
  exact runs_conclude_accounts hconclude hearly (runs_survey_site hsurvey)

end PluginSweep.Sweep
