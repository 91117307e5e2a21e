/-
PluginSweep/Proofs/Sweep/Structure.lean

The structure of a run.  Once the site is found, a sweep with a built-in profile has one
section for each check of the profile, then one for each tool, and one on trying the
plugin out exactly if that was done (`Structured`).  Each section has the number of its
place in the name of its report, and its report is there.  This holds both where the
sweep comes to its end and where the plugin could not be put back, and the sweep ends in
no other way (`run_structured`).

The argument: a survey fails only for want of a site or for bytes that are no text
(`soundly_survey`), and the first is excluded by what the tool has replied
(`not_siteFound`).  What follows a survey is known (`runs_conclude_concluded`), and of
what may cut it short nothing is left where the lock file can be opened.
-/
import PluginSweep.Proofs.Sweep.Completion
import PluginSweep.Proofs.Sweep.Keeping
import PluginSweep.Proofs.Sweep.Kept

namespace PluginSweep.Sweep

open History

variable {s : Settings} {place : String → Location} {tree ready : FileSystem}
  {o : Except SweepError Summary} {y : SweepState × History} {past now : History}

/-! ### What is assumed of the surroundings -/

/-- The tool has found the site in which the plugin is to be tried out, if it is to be. -/
def SiteFound (s : Settings) (now : History) : Prop :=
  ∀ site, s.probedSite = some site →
    ∃ out err, .asked (.launch (site.command .isInstalled)) (.exited 0 out err) ∈ now

/-- The lock file of the site can be opened: it has a name, which is made of the canonical form of
the root, and no step towards the lock is refused. -/
structure LockOpens (s : Settings) (ready : FileSystem) (now : History) : Prop where
  named : ∀ site, s.probedSite = some site → ∃ key, ready.canonical site.root = .ok key
  opened : ¬ LockRefused now

theorem SiteFound.mono (h : SiteFound s past) (hpast : past <+: now) : SiteFound s now := by
  intro site hsite
  obtain ⟨out, err, hmem⟩ := h site hsite
  exact ⟨out, err, hpast.subset hmem⟩

/-- Where the precondition fails for want of a site, the tool has not found it. -/
theorem not_siteFound_of_runs_precondition {root : Path} {st : SweepState}
    (h : Work.Runs heard (precondition s) (st, []) (.error (.noSite root)) y) :
    ¬ SiteFound s y.2 := by
  rw [precondition] at h
  rcases hprobed : s.probedSite with - | site <;> rw [hprobed] at h
  · cases (Work.runs_pure_iff.mp h).1
  · obtain ⟨outcome, asked, hask, hrest⟩ := runs_asking_bind_iff.mp h
    rcases outcome with e | (_ | _)
    · cases (Work.runs_throw_iff.mp hrest).1
    · obtain ⟨-, rfl⟩ := Work.runs_throw_iff.mp hrest
      obtain ⟨l, t, hlaunch, hbad, hends⟩ := Site.runs_isInstalled_false hask
      intro hfound
      obtain ⟨out, err, hmem⟩ := hfound site hprobed
      -- Only the launch can be what has been asked, for nothing had happened before it.
      have hearly : .asked (.launch (site.command .isInstalled)) (.exited 0 out err) ∈ t := by
        rcases hends with rfl | ⟨w, u, hwarn⟩
        · exact hmem
        · rcases mem_or_eq_of_heard hwarn hmem with hbefore | heq
          · exact hbefore
          · cases heq
      rcases mem_or_eq_of_heard hlaunch hearly with hnil | heq
      · cases hnil
      · cases heq
        exact hbad out err rfl
    · cases (Work.runs_pure_iff.mp hrest).1

theorem not_siteFound (hroot : FileSystem.admits s.target.root = true) {steps : List Step}
    (hplan : plan s.profile = .ok steps) (hnames : (s.profile.checks ++ s.profile.tools).Nodup)
    {root : Path} {st : SweepState}
    (h : Work.Runs heard (survey s) (st, []) (.error (.noSite root)) y) : ¬ SiteFound s y.2 := by
  rcases Work.runs_bind_iff.mp h with ⟨site, z, -, hrest⟩ | ⟨e, hprecondition, heq⟩
  · -- What follows the precondition does not fail like this.
    have hsound := soundly_afterPrecondition (E := fun e => e = .undecodable) rfl
      (fun tree e heq => absurd heq (candidates_ne_error hroot tree e)) hplan hnames site
    cases hsound.fails _ _ _ hrest
  · obtain rfl := Except.error.inj heq
    exact not_siteFound_of_runs_precondition hprecondition

/-- A survey that comes to its end has found the site. -/
theorem siteFound_of_survey {x z : SweepState × History} {v : Survey}
    (h : Work.Runs heard (survey s) x (.ok v) z) : SiteFound s z.2 := by
  obtain ⟨walk, steps, hsurveyed⟩ := runs_survey h
  intro site hsite
  exact hsurveyed.installed site (hsurveyed.site.trans hsite)

/-- The survey comes to its end, if the site is found and all that tools write is text. -/
theorem exists_survey (hroot : FileSystem.admits s.target.root = true) {steps : List Step}
    (hplan : plan s.profile = .ok steps) (hnames : (s.profile.checks ++ s.profile.tools).Nodup)
    (hfound : SiteFound s y.2) (htext : ¬ Garbled y.2)
    (h : Work.Runs heard (run s) ({ tree }, []) o y) :
    ∃ v z, Work.Runs heard (survey s) ({ tree }, []) (.ok v) z ∧
      Work.Runs heard (conclude s v) z o y := by
  rcases Work.runs_bind_iff.mp h with ⟨v, z, hsurvey, hconclude⟩ | ⟨e, hsurvey, -⟩
  · exact ⟨v, z, hsurvey, hconclude⟩
  · have hsound := soundly_survey hroot hplan hnames
    rcases hsound.fails _ _ _ hsurvey with ⟨root, rfl⟩ | rfl
    · exact absurd hfound (not_siteFound hroot hplan hnames hsurvey)
    · exact absurd ((hsound.garbled _ _ _ hsurvey).mpr (.inr rfl)) htext

/-! ### The structure -/

/-- The structure of a run in the tree `tree` whose survey came to its end with `v`, all that had
happened by then being `past`. -/
structure Structured (s : Settings) (tree : FileSystem) (v : Survey) (past : History)
    (summary : Summary) (o : Except SweepError Summary) (y : SweepState × History) : Prop where
  /-- The run brings the summary, or it says that the plugin could not be put back. -/
  ending : o = .ok summary ∨
    ∃ slug wasActive cause, o = .error (.notRestored slug wasActive cause)
  /-- The summary is there. -/
  stored : y.1.tree.read (s.reportDirectory.child Report.summaryFile) =
    .ok (Text.encode (Report.renderSummary s.time summary))
  tried : TriesOut s.probedSite (v.ledger.obstacle.map Obstacle.reason) past y.2 →
    summary.sections.map (·.name) = s.profile.checks ++ s.profile.tools ++ [activationName]
  untried : ¬ TriesOut s.probedSite (v.ledger.obstacle.map Obstacle.reason) past y.2 →
    summary.sections.map (·.name) = s.profile.checks ++ s.profile.tools
  once : (summary.sections.map (·.name)).Nodup
  /-- The first sections are those of the survey. -/
  surveyed : Report.withArtifacts 1 v.ledger.sections <+: summary.sections
  /-- Each section has the number of its place in the name of its report. -/
  numbered : ∀ (i : Nat) (hi : i < summary.sections.length),
    summary.sections[i].artifact = Report.sectionFile (i + 1) summary.sections[i].name
  /-- On the disk, every report that has a place of its own is as it was written. -/
  kept : tree.StandsInDirectory → ReportsKept s summary y

/-- What is concluded with a summary has the structure of a run. -/
theorem structured_of_summarized {v : Survey} {summary : Summary} {probed : List Section}
    (hsteps : v.ledger.sections.map (·.name) = s.profile.checks ++ s.profile.tools)
    (hnames : (s.profile.checks ++ s.profile.tools ++ [activationName]).Nodup)
    (hsite : v.site = s.probedSite)
    (ending : o = .ok summary ∨
      ∃ slug wasActive cause, o = .error (.notRestored slug wasActive cause))
    (sections : summary.sections = Report.withArtifacts 1 (v.ledger.sections ++ probed))
    (tried : TriesOut v.site (v.ledger.obstacle.map Obstacle.reason) past y.2 →
      probed.map (·.name) = [activationName])
    (untried : ¬ TriesOut v.site (v.ledger.obstacle.map Obstacle.reason) past y.2 → probed = [])
    (written : Report.Written s.reportDirectory place (reportFiles s.profile)
      (runReports s v summary probed) y.1.tree)
    (stands : tree.StandsInDirectory → y.1.tree.StandsInDirectory) :
    Structured s tree v past summary o y := by
  have hsectionNames : summary.sections.map (·.name) =
      s.profile.checks ++ s.profile.tools ++ probed.map (·.name) := by
    rw [sections, Report.map_name_withArtifacts, List.map_append, hsteps]
  have htried : TriesOut s.probedSite (v.ledger.obstacle.map Obstacle.reason) past y.2 →
      summary.sections.map (·.name) = s.profile.checks ++ s.profile.tools ++ [activationName] := by
    intro h
    rw [hsectionNames, tried (hsite ▸ h)]
  have huntried : ¬ TriesOut s.probedSite (v.ledger.obstacle.map Obstacle.reason) past y.2 →
      summary.sections.map (·.name) = s.profile.checks ++ s.profile.tools := by
    intro h
    rw [hsectionNames, untried (hsite ▸ h), List.map_nil, List.append_nil]
  refine ⟨ending, written.posted.read_last, htried, huntried, ?_, ?_, ?_,
    fun hstands => kept_of_posted (posted_shown sections written.posted) (stands hstands)⟩
  · by_cases h : TriesOut s.probedSite (v.ledger.obstacle.map Obstacle.reason) past y.2
    · rw [htried h]
      exact hnames
    · rw [huntried h]
      exact (List.nodup_append.mp hnames).1
  · -- Numbers are given from the first section on, whatever follows.
    rw [sections, Report.withArtifacts_append]
    exact List.prefix_append _ _
  · rw [sections]
    intro i hi
    rw [Report.artifact_getElem_withArtifacts hi, Nat.add_comm 1]

/-- The steps of the built-in profiles are known, and each has a name of its own, which is not that
of trying the plugin out. -/
theorem plan_of_mem_table : ∀ p ∈ Profile.table,
    (plan p).toBool = true ∧ (p.checks ++ p.tools ++ [activationName]).Nodup := by
  decide +kernel

theorem exists_plan_of_mem_table {p : Profile} (hprofile : p ∈ Profile.table) :
    ∃ steps, plan p = .ok steps ∧ (p.checks ++ p.tools ++ [activationName]).Nodup := by
  obtain ⟨hplanned, hnames⟩ := plan_of_mem_table p hprofile
  rcases hplan : plan p with e | steps <;> rw [hplan] at hplanned
  · cases hplanned
  · exact ⟨steps, rfl, hnames⟩

/-- **The structure of a run.**  Where the site is found, all that tools write is text, every report
can be written and the lock file can be opened, the sweep ends with a summary, or because the plugin
could not be put back; in either case the summary is there, and it has the sections of the checks,
those of the tools, and, exactly if the plugin is tried out, one on that. -/
theorem run_structured (hprofile : s.profile ∈ Profile.table)
    (hroot : FileSystem.admits s.target.root = true)
    (hprepare : (Report.prepare s.reportDirectory).run.run tree = (.ok (), ready))
    (hwritable : Report.Writable s.reportDirectory place (reportFiles s.profile) ready)
    (hfound : SiteFound s y.2) (htext : ¬ Garbled y.2) (hlock : LockOpens s ready y.2)
    (h : Work.Runs heard (run s) ({ tree }, []) o y) :
    ∃ v past summary, (∃ st, Work.Runs heard (survey s) ({ tree }, []) (.ok v) (st, past)) ∧
      past <+: y.2 ∧ Structured s tree v past summary o y := by
  obtain ⟨steps, hplan, hnames⟩ := exists_plan_of_mem_table hprofile
  have hstepNames := (List.nodup_append.mp hnames).1
  obtain ⟨v, z, hsurvey, hconclude⟩ := exists_survey hroot hplan hstepNames hfound htext h
  have hsound := soundly_survey hroot hplan hstepNames
  have hsteps := hsound.brings _ _ _ hsurvey
  have hsite : v.site = s.probedSite := by
    obtain ⟨walk, steps', hsurveyed⟩ := runs_survey hsurvey
    exact hsurveyed.site
  obtain rfl : z.1.tree = tree := hsound.tree _ _ _ hsurvey
  cases runs_conclude_concluded hsteps hprepare hwritable hconclude with
  | @summarized summary _ _ ending sections tried untried written =>
    exact ⟨v, z.2, summary, ⟨z.1, hsurvey⟩, prefix_of_runs hconclude,
      structured_of_summarized hsteps hnames hsite ending sections tried untried written
        fun hstands => runs_conclude_stands hstands hconclude⟩
  | cut probed named _ short =>
    -- Nothing is left that could cut it short.
    obtain ⟨key, hkey⟩ := hlock.named _ (hsite ▸ probed)
    cases short with
    | misplaced unnamed =>
      rw [named key hkey] at unnamed
      cases unnamed
    | refused refusal => exact absurd refusal hlock.opened
    | garbled bytes => exact absurd bytes htext

/-! ### The plugin that does nothing -/

theorem not_garbled_of_calm (h : now.all calm = true) : ¬ Garbled now := by
  rintro ⟨command, hmem⟩
  cases List.all_eq_true.mp h _ hmem

theorem not_lockRefused_of_calm (h : now.all calm = true) : ¬ LockRefused now := by
  rintro ⟨step, reply, hmem, hrefuses⟩
  have hcalm := List.all_eq_true.mp h _ hmem
  cases step with
  | openFile file => cases reply <;> [cases hcalm; cases hrefuses]
  | lockFile handle => cases reply <;> [cases hcalm; cases hrefuses]
  | stamp handle => cases reply <;> [cases hcalm; cases hrefuses]
  | _ => cases hrefuses

/-- Its sweep has the structure of a run. -/
theorem run_structured_bare :
    bareSettings.profile ∈ Profile.table ∧
      FileSystem.admits bareSettings.target.root = true ∧
      (Report.prepare bareSettings.reportDirectory).run.run bareTree = (.ok (), bareReady) ∧
      Report.Writable bareSettings.reportDirectory barePlace (reportFiles bareSettings.profile)
        bareReady ∧
      ∃ o y, SiteFound bareSettings y.2 ∧ ¬ Garbled y.2 ∧ LockOpens bareSettings bareReady y.2 ∧
        Work.Runs heard (run bareSettings) ({ tree := bareTree }, []) o y ∧
        ∃ v past summary,
          (∃ st, Work.Runs heard (survey bareSettings) ({ tree := bareTree }, []) (.ok v)
            (st, past)) ∧
          past <+: y.2 ∧ Structured bareSettings bareTree v past summary o y := by
  have hprofile : bareSettings.profile ∈ Profile.table := by
    decide +kernel
  have hroot : FileSystem.admits bareSettings.target.root = true := by
    decide +kernel
  have hprepare : (Report.prepare bareSettings.reportDirectory).run.run bareTree =
      (.ok (), bareReady) := rfl
  have hwritable : Report.Writable bareSettings.reportDirectory barePlace
      (reportFiles bareSettings.profile) bareReady := bareReady_ready.toWritable
  refine ⟨hprofile, hroot, hprepare, hwritable, ?_⟩
  obtain ⟨summary, st, now, hsteady, -, -, hcalm⟩ := exists_bareRun
  have hrun : Work.Runs heard (run bareSettings) ({ tree := bareTree }, []) (.ok summary)
      (st, now) := runs_heard_of_steady hsteady
  have hfound : SiteFound bareSettings now := by
    obtain ⟨v, z, hsurvey, hconclude⟩ := Work.runs_bind_ok_iff.mp hrun
    exact (siteFound_of_survey hsurvey).mono (prefix_of_runs hconclude)
  have hlock : LockOpens bareSettings bareReady now := by
    refine ⟨fun site hsite => ?_, not_lockRefused_of_calm hcalm⟩
    obtain rfl := Option.some.inj hsite
    exact ⟨⟨"/", []⟩, by decide +kernel⟩
  have htext := not_garbled_of_calm hcalm
  exact ⟨_, (st, now), hfound, htext, hlock, hrun,
    run_structured hprofile hroot hprepare hwritable hfound htext hlock hrun⟩

/-! ### A report that cannot be written -/

/-- The directory for reports is there, and in it the name of the first section's report is that of
a link that leads nowhere. -/
def danglingTree : FileSystem :=
  { bareTree with entries := bareTree.entries ++
      [(["r"], .directory), (["r", "01-missing-abspath-guards.txt"], .link "/nowhere/x")] }

/-- The sweep of the plugin that does nothing, with its reports there. -/
def danglingRun : (Except SweepError Summary × SweepState) × History :=
  ((run bareSettings).run.run { tree := danglingTree }).answer (obliging fun _ => false) []

/-- The sweep has ended because a file could not be written. -/
def endsRefused : Except SweepError Summary → Bool
  | .error (.refused _) => true
  | _ => false

/-- A sweep that ends because a file could not be written has found the site before, for no survey
ends that way. -/
theorem siteFound_of_refused {e : OsError} (hprofile : s.profile ∈ Profile.table)
    (hroot : FileSystem.admits s.target.root = true)
    (h : Work.Runs heard (run s) ({ tree }, []) (.error (.refused e)) y) : SiteFound s y.2 := by
  rcases Work.runs_bind_iff.mp h with ⟨v, z, hsurvey, hconclude⟩ | ⟨e', hsurvey, heq⟩
  · exact (siteFound_of_survey hsurvey).mono (prefix_of_runs hconclude)
  · obtain ⟨steps, hplan, hnames⟩ := exists_plan_of_mem_table hprofile
    have hsound := soundly_survey hroot hplan (List.nodup_append.mp hnames).1
    obtain rfl := Except.error.inj heq
    rcases hsound.fails _ _ _ hsurvey with ⟨root, herror⟩ | herror
    · cases herror
    · cases herror

/-- **One link is enough to lose the summary.**  The directory for reports can be prepared and
written to, and nothing else is amiss; but a link with the name of a report leads nowhere, and the
sweep ends with the refusal to write it. -/
theorem dangling_report_is_refused :
    bareSettings.profile ∈ Profile.table ∧
      FileSystem.admits bareSettings.target.root = true ∧
      ∃ ready e y, (Report.prepare bareSettings.reportDirectory).run.run danglingTree =
          (.ok (), ready) ∧
        ((Report.writeText bareSettings.reportDirectory Report.summaryFile "").run.run
          ready).1.toBool = true ∧
        SiteFound bareSettings y.2 ∧ ¬ Garbled y.2 ∧ LockOpens bareSettings ready y.2 ∧
        Work.Runs heard (run bareSettings) ({ tree := danglingTree }, [])
          (.error (.refused e)) y := by
  have hprofile : bareSettings.profile ∈ Profile.table := by
    decide +kernel
  have hroot : FileSystem.admits bareSettings.target.root = true := by
    decide +kernel
  have hrun : Work.Runs heard (run bareSettings) ({ tree := danglingTree }, []) danglingRun.1.1
      (danglingRun.1.2, danglingRun.2) :=
    Work.runs_answer (heard_obliging fun _ => false) (run bareSettings)
      { tree := danglingTree } []
  have hends : endsRefused danglingRun.1.1 = true ∧ danglingRun.2.all calm = true := by
    decide +kernel
  have hprepared : ((Report.prepare bareSettings.reportDirectory).run.run danglingTree).1.toBool
        = true ∧
      ((Report.prepare bareSettings.reportDirectory).run.run danglingTree).2 = danglingTree := by
    decide +kernel
  have hprepare : (Report.prepare bareSettings.reportDirectory).run.run danglingTree =
      (.ok (), danglingTree) := by
    rcases hresult : (Report.prepare bareSettings.reportDirectory).run.run danglingTree with
      ⟨e | _, ready⟩ <;> rw [hresult] at hprepared
    · cases hprepared.1
    · rw [show ready = danglingTree from hprepared.2]
  -- What the run comes to is not to be evaluated again.
  generalize danglingRun = swept at hrun hends
  obtain ⟨⟨ending, st⟩, now⟩ := swept
  obtain ⟨hrefused, hcalm⟩ := hends
  cases ending with
  | ok summary => cases hrefused
  | error e =>
    cases e with
    | refused e =>
      refine ⟨hprofile, hroot, danglingTree, e, (st, now), hprepare, by decide +kernel, ?_,
        not_garbled_of_calm hcalm, ⟨fun site hsite => ?_, not_lockRefused_of_calm hcalm⟩, hrun⟩
      · exact siteFound_of_refused hprofile hroot hrun
      · obtain rfl := Option.some.inj hsite
        exact ⟨⟨"/", []⟩, by decide +kernel⟩
    | _ => cases hrefused

end PluginSweep.Sweep
