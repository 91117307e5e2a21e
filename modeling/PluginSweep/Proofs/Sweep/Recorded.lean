/-
PluginSweep/Proofs/Sweep/Recorded.lean

What a whole run has recorded.  A summary has the sections of the survey, each with
the number of its report, and possibly one more on trying the plugin out
(`runs_conclude_sections`).  So the sections that a run has recorded can be spoken of
whether or not it comes to a summary (`Recorded`).

In steady surroundings in which each launch brings a result or a failure, a run that
is left alone either ends with its opening, or records for every step the section
that the step has in the world (`runs_run_left_alone`).
-/
import PluginSweep.Proofs.Sweep.Conclusion
import PluginSweep.Proofs.Sweep.Steps
import PluginSweep.Proofs.Report.Writing

namespace PluginSweep

open Dialogue (Conduct)

/-! ### Sections in a summary -/

/-- A section that is refused is the last that is tried. -/
theorem Report.run_writeSectionsFrom_error {time : String} {dir : Path} {known : Descriptions}
    {index : Nat} {s : Section} {rest : List Section} {tree tree' : FileSystem} {e : OsError}
    (h : (writeSection time dir (withArtifact index s)
      ((known.lookup s.name).getD "")).run.run tree = (.error e, tree')) :
    (writeSectionsFrom time dir known index (s :: rest)).run tree =
      ((.error e, withArtifact index s :: rest), tree') := by
  rw [writeSectionsFrom, StateT.run_bind, h]
  rfl

/-- Sections that are written all have their numbers. -/
theorem Report.writeSectionsFrom_named {time : String} {dir : Path} {known : Descriptions}
    {index : Nat} {sections : List Section} {tree : FileSystem} {paths : List Path}
    (h : ((writeSectionsFrom time dir known index sections).run tree).1.1 = .ok paths) :
    ((writeSectionsFrom time dir known index sections).run tree).1.2 =
      withArtifacts index sections := by
  induction sections generalizing index tree paths with
  | nil => rfl
  | cons s rest ih =>
    rcases hwrite : (writeSection time dir (withArtifact index s)
      ((known.lookup s.name).getD "")).run.run tree with ⟨e | path, tree'⟩
    · rw [run_writeSectionsFrom_error hwrite] at h
      cases h
    · rw [run_writeSectionsFrom_cons hwrite] at h ⊢
      dsimp only at h ⊢
      rcases hrest : ((writeSectionsFrom time dir known (index + 1) rest).run tree').1.1
        with e | others
      · rw [hrest] at h
        cases h
      · rw [ih hrest]
        rfl

/-- The sections of the summary are written after the statistics. -/
theorem Report.writeSections_named {time : String} {dir : Path} {known : Descriptions}
    {summary : Summary} {tree : FileSystem} {paths : List Path}
    (h : ((writeSections time dir known summary).run tree).1.1 = .ok paths) :
    ((writeSections time dir known summary).run tree).1.2.sections =
      withArtifacts 1 summary.sections := by
  rcases hfirst : (writeStatistics time dir summary).run.run tree with ⟨e | path, tree'⟩
  · -- Where the statistics cannot be written, nothing is.
    have hrun : (writeSections time dir known summary).run tree =
        ((.error e, summary), tree') := by
      rw [writeSections, StateT.run_bind, hfirst]
      rfl
    rw [hrun] at h
    cases h
  · have hrun : (writeSections time dir known summary).run tree =
        (((((writeSectionsFrom time dir known 1 summary.sections).run tree').1.1.map (path :: ·)),
          { summary with
            sections := ((writeSectionsFrom time dir known 1 summary.sections).run tree').1.2 }),
          ((writeSectionsFrom time dir known 1 summary.sections).run tree').2) := by
      rw [writeSections, StateT.run_bind, hfirst]
      rfl
    rw [hrun] at h ⊢
    dsimp only at h ⊢
    rcases hwritten : ((writeSectionsFrom time dir known 1 summary.sections).run tree').1.1
      with e | others
    · rw [hwritten] at h
      cases h
    · exact writeSectionsFrom_named hwritten

theorem Report.withArtifact_name (index : Int) (made : Section) :
    (withArtifact index made).name = made.name := rfl

namespace Sweep

variable {σ : Type} {c : Conduct Request.Reply σ} {s : Settings} {summary summary' : Summary}

/-- The summary has the given sections with their numbers, and others only on trying the plugin
out. -/
def Lists (recorded : List Section) (summary : Summary) : Prop :=
  ∃ more, summary.sections = Report.withArtifacts 1 recorded ++ more ∧
    ∀ sec ∈ more, sec.name = activationName

theorem runs_writeReports_sections {x y : SweepState × σ}
    (h : Work.Runs c (writeReports s summary) x (.ok summary') y) :
    summary'.sections = Report.withArtifacts 1 summary.sections := by
  obtain ⟨base, mid, paths, -, hwrite, -⟩ := runs_writeReports_ok_iff.mp h
  have hnamed := Report.writeSections_named (congrArg (fun made => made.1.1) hwrite)
  rwa [hwrite] at hnamed

/-- Trying the plugin out succeeds by adding the section on it. -/
theorem runs_probe_adds {site : Site} {x y : SweepState × σ}
    (h : Work.Runs c (probe s site summary) x (.ok summary') y) :
    ∃ outcome tried z, tried.sections = summary.sections ∧ z.1 = x.1 ∧
      Work.Runs c (addProbeSection s tried (probeSection s outcome)) z (.ok summary') y := by
  obtain ⟨p, brought, now, -, -, hreport⟩ :=
    (runs_probe_iff.mp h).resolve_right fun ⟨e, _, heq, _⟩ => by cases heq
  obtain ⟨outcome, now', -, hadd⟩ := exists_outcome_of_reportProbe hreport
  refine ⟨outcome, withProbe summary outcome, (x.1, now'), ?_, rfl, hadd⟩
  cases outcome <;> rfl

/-- Either nothing is tried out, or a section on that is added. -/
theorem runs_tryOut_cases {site : Option Site} {x y : SweepState × σ}
    (h : Work.Runs c (tryOut s site summary) x (.ok summary') y) :
    (summary' = summary ∧ y.1 = x.1) ∨
    ∃ outcome tried z, tried.sections = summary.sections ∧ z.1 = x.1 ∧
      Work.Runs c (addProbeSection s tried (probeSection s outcome)) z (.ok summary') y := by
  cases tryingOut_of_runs h with
  | skipped _ heq hy => exact .inl ⟨Except.ok.inj heq, hy ▸ rfl⟩
  | told _ _ _ heq hy => exact .inl ⟨Except.ok.inj heq, hy ▸ rfl⟩
  | @tried _ _ announced _ _ _ _ hprobe =>
    exact .inr (runs_probe_adds (x := (x.1, announced)) hprobe)

theorem probeSection_name (s : Settings) (outcome : Except StepFailure ProbeResult) :
    (probeSection s outcome).name = activationName := by
  cases outcome with
  | ok result => rfl
  | error f => rfl

/-- The section on trying the plugin out, if there is one. -/
def OnProbe (s : Settings) (probed : List Section) : Prop :=
  probed = [] ∨ ∃ outcome, probed = [probeSection s outcome]

/-- Trying the plugin out adds at most a section of its own. -/
theorem runs_tryOut_sections {site : Option Site} {x y : SweepState × σ}
    (h : Work.Runs c (tryOut s site summary) x (.ok summary') y) :
    ∃ probed, OnProbe s probed ∧ summary'.sections =
      summary.sections ++ Report.withArtifacts (summary.sections.length + 1) probed := by
  rcases runs_tryOut_cases h with ⟨rfl, -⟩ | ⟨outcome, tried, z, hsame, -, hadd⟩
  · exact ⟨[], .inl rfl, (List.append_nil _).symm⟩
  · refine ⟨[probeSection s outcome], .inr ⟨outcome, rfl⟩, ?_⟩
    rw [eq_of_addProbeSection hadd, hsame]
    rfl

/-- A summary has the sections of the survey and the one on trying the plugin out, numbered
throughout. -/
theorem runs_conclude_probed {v : Survey} {x y : SweepState × σ}
    (h : Work.Runs c (conclude s v) x (.ok summary) y) :
    ∃ probed, OnProbe s probed ∧
      summary.sections = Report.withArtifacts 1 (v.ledger.sections ++ probed) := by
  obtain ⟨_, written, _, _, _, -, hwrite, htry, -⟩ := exists_parts_of_conclude h
  obtain ⟨probed, hprobed, hsections⟩ := runs_tryOut_sections htry
  refine ⟨probed, hprobed, ?_⟩
  rw [hsections, runs_writeReports_sections hwrite, Report.length_withArtifacts,
    Report.withArtifacts_append, Nat.add_comm 1]
  rfl

/-- **A summary has the sections that the survey has recorded**, with their numbers. -/
theorem runs_conclude_sections {v : Survey} {x y : SweepState × σ}
    (h : Work.Runs c (conclude s v) x (.ok summary) y) : Lists v.ledger.sections summary := by
  obtain ⟨probed, hprobed, hsections⟩ := runs_conclude_probed h
  rw [Report.withArtifacts_append] at hsections
  refine ⟨_, hsections, fun sec hsec => ?_⟩
  rcases hprobed with rfl | ⟨outcome, rfl⟩
  · cases hsec
  · rw [List.mem_singleton.mp hsec, Report.withArtifact_name, probeSection_name]

/-- The run from `x` that ended with `o` at `y` had recorded the sections: its survey had ended
with them, and if there is a summary, it lists them. -/
structure Recorded (c : Conduct Request.Reply σ) (s : Settings) (x : SweepState × σ)
    (recorded : List Section) (o : Except SweepError Summary) (y : SweepState × σ) : Prop where
  surveyed : ∃ v z, Work.Runs c (survey s) x (.ok v) z ∧ Work.Runs c (conclude s v) z o y ∧
    v.ledger.sections = recorded
  listed : ∀ summary, o = .ok summary → Lists recorded summary

theorem recorded_of_runs {v : Survey} {o : Except SweepError Summary} {x y z : SweepState × σ}
    (hsurvey : Work.Runs c (survey s) x (.ok v) z) (hconclude : Work.Runs c (conclude s v) z o y) :
    Recorded c s x v.ledger.sections o y where
  surveyed := ⟨v, z, hsurvey, hconclude, rfl⟩
  listed := by
    rintro summary rfl
    exact runs_conclude_sections hconclude

/-- The run from `x` ended with its opening, for the error `e`, and has recorded nothing. -/
def Unopened (c : Conduct Request.Reply σ) (s : Settings) (x : SweepState × σ) (e : SweepError)
    (o : Except SweepError Summary) (y : SweepState × σ) : Prop :=
  Work.Runs c (opening s) x (.error e) y ∧ o = .error e

/-! ### Runs that are left alone -/

open History

variable {world : World} {tree : FileSystem} {steps : List Step}

/-- Steps with different names do not fail where each launch brings a result or a failure. -/
theorem runs_runSteps_ok {files : List Candidate} (hworld : Textual world)
    (hknown : ∀ step ∈ steps, step.Known) (hnames : (steps.map Step.name).Nodup)
    {x y : SweepState × History} {o : Except SweepError Ledger} (hx : ¬ Garbled x.2)
    (h : Work.Runs (steady world) (runSteps s files steps {}) x o y) : ∃ l, o = .ok l := by
  have hnew : (({} : Ledger).sections.map (·.name) ++ steps.map Step.name).Nodup := hnames
  have hsound : Soundly (.undecodable = ·) _ (runSteps s files steps {}) :=
    soundly_runSteps rfl hknown hnew
  have hheard := runs_heard_of_steady h
  cases o with
  | ok l => exact ⟨l, rfl⟩
  | error e =>
    obtain rfl := hsound.fails _ _ _ hheard
    have hgarbled := (hsound.garbled _ _ _ hheard).mpr (.inr rfl)
    exact absurd hgarbled (not_garbled_of_runs_steady hworld h hx)

/-- A survey that is not cut short by its opening ends with the steps taken and recorded. -/
theorem runs_survey_steady (hplan : plan s.profile = .ok steps)
    (hnames : (s.profile.checks ++ s.profile.tools).Nodup) (hworld : Textual world)
    {o : Except SweepError Survey} {y : SweepState × History}
    (h : Work.Runs (steady world) (survey s) ({ tree }, []) o y) :
    (∃ e, openingIn world s tree = .error e ∧ o = .error e ∧
      Work.Runs (steady world) (opening s) ({ tree }, []) (.error e) y) ∨
    ∃ opened x v z begun made between,
      openingIn world s tree = .ok opened ∧ o = .ok v ∧
      Work.Runs (steady world) (opening s) ({ tree }, []) (.ok opened) x ∧
      x.1 = { tree } ∧ x.2.countP grants = 0 ∧ v.site = opened.1 ∧ v.statistics = opened.2.2 ∧
      Taken world s tree opened.2.1 steps {} x v.ledger z begun made between ∧
      Work.Runs (steady world) (asking Asking.cancelled) z (.ok v.interrupted) y := by
  obtain ⟨hknown, hstepNames⟩ := plan_eq_ok hplan
  rw [survey_eq_opening hplan] at h
  rcases Work.runs_bind_iff.mp h with ⟨opened, x, hopening, hfinish⟩ | ⟨e, hopening, rfl⟩
  · -- The steps are taken in a state that the opening has left as it was.
    obtain ⟨hopened, hx, hcount⟩ := runs_opening_steady hopening
    have hheard := runs_heard_of_steady hopening
    obtain ⟨walk, hfiles, hwalk⟩ := runs_opening_files hheard
    have hgarbled := not_garbled_of_runs_steady hworld hopening not_garbled_nil
    have hfaithful : Faithful world tree opened.2.1 x.1 := hx ▸ faithful_initial
    have hapart : Apart opened.2.1 := hfiles ▸ apart_of_walk hwalk
    rcases Work.runs_bind_iff.mp hfinish with ⟨l, z, hsteps, hend⟩ | ⟨e, hsteps, -⟩
    · obtain ⟨begun, made, between, htaken⟩ :=
        runs_runSteps_steady hapart hfaithful (obeyed_of_runs hheard obeyed_nil) hsteps
      obtain ⟨interrupted, now, hask, hdone⟩ := runs_asking_bind_iff.mp hend
      obtain ⟨rfl, rfl⟩ := Work.runs_pure_iff.mp hdone
      exact .inr ⟨opened, x, _, z, begun, made, between, hopened.symm, rfl, hopening, hx, hcount,
        rfl, rfl, htaken, runs_asking_iff.mpr ⟨_, hask, rfl, rfl⟩⟩
    · obtain ⟨l, heq⟩ := runs_runSteps_ok hworld hknown (hstepNames ▸ hnames) hgarbled hsteps
      cases heq
  · -- The opening has failed.
    exact .inl ⟨e, (runs_opening_steady hopening).1.symm, rfl, hopening⟩

/-- **A run that is left alone records for every step the section that the step has in the
world**, unless it ends with its opening. -/
theorem runs_run_left_alone (hplan : plan s.profile = .ok steps)
    (hnames : (s.profile.checks ++ s.profile.tools).Nodup) (hworld : Textual world)
    {o : Except SweepError Summary} {y : SweepState × History}
    (h : Work.Runs (steady world) (run s) ({ tree }, []) o y) (hleft : .told ∉ y.2) :
    (∃ e, openingIn world s tree = .error e ∧
      Unopened (steady world) s ({ tree }, []) e o y) ∨
    ∃ opened recorded, openingIn world s tree = .ok opened ∧
      (∃ walk, candidates s tree = .ok walk ∧ walk.files = opened.2.1) ∧
      Recorded (steady world) s ({ tree }, []) recorded o y ∧
      List.Forall₂ (BringsIn world s tree opened.2.1) steps recorded := by
  have hsurveyed : ∀ {o' z}, Work.Runs (steady world) (survey s) ({ tree }, []) o' z →
      .told ∉ z.2 →
      (∃ e, openingIn world s tree = .error e ∧ o' = .error e ∧
        Work.Runs (steady world) (opening s) ({ tree }, []) (.error e) z) ∨
      ∃ opened v, openingIn world s tree = .ok opened ∧ o' = .ok v ∧
        (∃ walk, candidates s tree = .ok walk ∧ walk.files = opened.2.1) ∧
        List.Forall₂ (BringsIn world s tree opened.2.1) steps v.ledger.sections := by
    intro o' z hsurvey hz
    rcases runs_survey_steady hplan hnames hworld hsurvey with
      hunopened | ⟨opened, x, v, w, begun, made, between, hopened, rfl, hopening, -, -, -, -,
        htaken, hask⟩
    · exact .inl hunopened
    · obtain ⟨walk, hfiles, hwalk⟩ := runs_opening_files (runs_heard_of_steady hopening)
      have hw : .told ∉ w.2 := fun htold =>
        hz ((prefix_of_runs (runs_heard_of_steady hask)).subset htold)
      -- The run was let go on for all steps.
      have hall : begun = steps.length := by
        by_contra hnot
        exact hw (htaken.told (Nat.lt_of_le_of_ne htaken.within hnot))
      have hbrings := htaken.brings
      have hledger := htaken.ledger
      rw [hall, List.take_length] at hbrings
      rw [hall, List.drop_length] at hledger
      refine .inr ⟨opened, v, hopened, rfl, ⟨walk, hwalk, hfiles⟩, ?_⟩
      rw [hledger]
      simpa using hbrings
  rcases Work.runs_bind_iff.mp h with ⟨v, z, hsurvey, hconclude⟩ | ⟨e, hsurvey, rfl⟩
  · have hz : .told ∉ z.2 := fun htold =>
      hleft ((prefix_of_runs (runs_heard_of_steady hconclude)).subset htold)
    rcases hsurveyed hsurvey hz with ⟨e, -, heq, -⟩ | ⟨opened, v', hopened, heq, hwalk, hbrings⟩
    · cases heq
    · obtain rfl := Except.ok.inj heq
      exact .inr ⟨opened, _, hopened, hwalk, recorded_of_runs hsurvey hconclude, hbrings⟩
  · rcases hsurveyed hsurvey hleft with ⟨e', hopened, heq, hopening⟩ | ⟨opened, v, -, heq, -⟩
    · obtain rfl := Except.error.inj heq
      exact .inl ⟨e, hopened, hopening, rfl⟩
    · cases heq

end Sweep

end PluginSweep
