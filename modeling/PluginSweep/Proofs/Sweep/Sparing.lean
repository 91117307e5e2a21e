/-
PluginSweep/Proofs/Sweep/Sparing.lean

What a sweep does to the files of its tree.  Up to the reports it does nothing to them
(`soundly_survey_anyhow`).  Then the directory for reports is prepared, which may remove
files, and all that is written afterwards goes where no file is that was there before
(`Shielded`).  So a sweep leaves every file but those that are reserved for reports
(`runs_run_spares`), however it ends.
-/
import PluginSweep.Proofs.Sweep.Keeping
import PluginSweep.Proofs.Sweep.Structure

namespace PluginSweep.Sweep

open History
open Dialogue (Conduct)

variable {α σ : Type} {c : Conduct Request.Reply σ} {s : Settings} {loc : Location}
  {bytes : List UInt8}

/-! ### Names of reports -/

/-- All reports of the built-in profiles have names of reports. -/
theorem isReport_of_mem_reportFiles :
    ∀ p ∈ Profile.table, ∀ file ∈ reportFiles p, Report.IsReport file := by
  decide +kernel

/-- The report on trying the plugin out has the name of one, where the sections are those of the
profile. -/
theorem isReport_activation (hprofile : s.profile ∈ Profile.table) {sections : List Section}
    (hsteps : sections.map (·.name) = s.profile.checks ++ s.profile.tools) :
    Report.IsReport (Report.sectionFile (sections.length + 1) activationName) := by
  have hlength : sections.length = (s.profile.checks ++ s.profile.tools).length := by
    rw [← hsteps, List.length_map]
  rw [hlength]
  exact isReport_of_mem_reportFiles _ hprofile _ (mem_reportFiles_activation _)

/-! ### The reports -/

theorem map_name_writeSectionsFrom (time : String) (dir : Path) (known : Report.Descriptions)
    (index : Nat) (sections : List Section) (tree : FileSystem) :
    ((Report.writeSectionsFrom time dir known index sections).run tree).1.2.map (·.name) =
      sections.map (·.name) := by
  induction sections generalizing index tree with
  | nil => rfl
  | cons made rest ih =>
    rw [Report.writeSectionsFrom, StateT.run_bind]
    rcases (Report.writeSection time dir (Report.withArtifact index made)
      ((known.lookup made.name).getD "")).run.run tree with ⟨e | path, tree'⟩
    · rfl
    · exact congrArg (made.name :: ·) (ih (index + 1) tree')

/-- Writing the reports on sections changes the names of none. -/
theorem map_name_writeSections (time : String) (dir : Path) (known : Report.Descriptions)
    (summary : Summary) (tree : FileSystem) :
    ((Report.writeSections time dir known summary).run tree).1.2.sections.map (·.name) =
      summary.sections.map (·.name) := by
  rw [Report.writeSections, StateT.run_bind]
  rcases (Report.writeStatistics time dir summary).run.run tree with ⟨e | path, tree'⟩
  · rfl
  · exact map_name_writeSectionsFrom time dir known 1 summary.sections tree'

/-- The reports on the steps leave every file that is not reserved, and if they are written, it is
out of the way of all that follow. -/
theorem runs_writeReports_spares (hprofile : s.profile ∈ Profile.table) {summary : Summary}
    (hsteps : summary.sections.map (·.name) = s.profile.checks ++ s.profile.tools)
    {x y : SweepState × σ} {o : Except SweepError Summary}
    (hfile : x.1.tree.node? loc = some (.file bytes))
    (hfree : ¬ Report.Reserved s.reportDirectory x.1.tree loc)
    (h : Work.Runs c (writeReports s summary) x o y) :
    y.1.tree.node? loc = some (.file bytes) ∧
      ∀ summary', o = .ok summary' → Report.Shielded s.reportDirectory loc bytes y.1.tree ∧
        summary'.sections.map (·.name) = s.profile.checks ++ s.profile.tools := by
  have hreports := isReport_of_mem_reportFiles _ hprofile
  have hnames : ∀ file ∈ Report.sectionFiles 1 (summary.sections.map (·.name)),
      Report.IsReport file := by
    rw [hsteps]
    exact fun file hmem => hreports file (mem_reportFiles_of_sectionFiles hmem)
  cases writingReports_iff.mp h with
  | unprepared hprepare ho hy =>
    -- The directory could not be prepared, and only reports have been removed.
    have hkept := Report.node?_prepare hfile hfree
    rw [hprepare] at hkept
    subst hy
    exact ⟨hkept, fun summary' heq => by cases ho.symm.trans heq⟩
  | @prepared base mid written numbered hprepare hwrite ho hy =>
    -- The file has outlasted that, and no report is written over it.
    have hall := Report.keeps_writeSections s.time Report.descriptions
      (Report.keeps_writeText (hreports _ List.mem_cons_self))
      (fun file hfile => Report.keeps_writeText (hnames file hfile))
      (Report.shielded_of_prepare hfile hfree hprepare)
    have hsections :=
      map_name_writeSections s.time s.reportDirectory Report.descriptions summary base
    rw [hwrite] at hall hsections
    subst hy
    refine ⟨hall.file, fun summary' heq => ⟨hall, ?_⟩⟩
    cases written with
    | ok paths =>
      obtain rfl := Except.ok.inj (ho.symm.trans heq)
      exact hsections.trans hsteps
    | error e => cases ho.symm.trans heq

/-- What follows a survey leaves every file that is not reserved. -/
theorem runs_conclude_spares (hprofile : s.profile ∈ Profile.table) {v : Survey}
    (hsteps : v.ledger.sections.map (·.name) = s.profile.checks ++ s.profile.tools)
    {x y : SweepState × σ} {o : Except SweepError Summary}
    (hfile : x.1.tree.node? loc = some (.file bytes))
    (hfree : ¬ Report.Reserved s.reportDirectory x.1.tree loc)
    (h : Work.Runs c (conclude s v) x o y) : y.1.tree.node? loc = some (.file bytes) := by
  rcases Work.runs_bind_iff.mp h with ⟨_, z₁, hwarn, hreports⟩ | ⟨e, hwarn, -⟩
  · have htree := (runs_warnSkipped_tree hwarn).2
    rw [← htree] at hfile hfree
    rcases Work.runs_bind_iff.mp hreports with ⟨summary, z₂, hwrite, hrest⟩ | ⟨e, hwrite, -⟩
    · obtain ⟨-, hwritten⟩ := runs_writeReports_spares hprofile hsteps hfile hfree hwrite
      obtain ⟨hshielded, hsections⟩ := hwritten summary rfl
      -- Once the directory is prepared, the file is out of the way of all that is written.
      have hkeeps : KeepsTree c (Report.Shielded s.reportDirectory loc bytes) (do
          let summary ← tryOut s v.site summary
          let _ ← filing (Report.writeSummary s.time s.reportDirectory summary)
          pure summary) :=
        (keepsTree_tryOut v.site
          (Report.keeps_writeText (isReport_activation hprofile hsections))
          (Report.keeps_writeText Report.isReport_summaryFile)).bind fun _ =>
            (keepsTree_filing (Report.keeps_writeText Report.isReport_summaryFile _)).bind fun _ =>
              Work.within_pure _
      exact (hkeeps z₂ o y hshielded hrest).1.file
    · exact (runs_writeReports_spares hprofile hsteps hfile hfree hwrite).1
  · cases (runs_warnSkipped_tree hwarn).1

/-! ### The whole sweep -/

/-- A survey leaves the tree as it is, however it ends, and has one section for every check and
every tool. -/
theorem soundly_survey_anyhow (hprofile : s.profile ∈ Profile.table) :
    Soundly (fun _ => True)
      (fun v => v.ledger.sections.map (·.name) = s.profile.checks ++ s.profile.tools)
      (survey s) := by
  obtain ⟨steps, hplan, hnames⟩ := exists_plan_of_mem_table hprofile
  apply (soundly_precondition.mono fun _ _ => trivial).bind
  intro site _
  exact soundly_afterPrecondition trivial (fun _ _ _ => trivial) hplan
    (List.nodup_append.mp hnames).1 site

/-- **A sweep leaves every file that is not reserved for reports**, however it ends. -/
theorem runs_run_spares (hprofile : s.profile ∈ Profile.table)
    {x y : SweepState × History} {o : Except SweepError Summary}
    (hfile : x.1.tree.node? loc = some (.file bytes))
    (hfree : ¬ Report.Reserved s.reportDirectory x.1.tree loc)
    (h : Work.Runs heard (run s) x o y) : y.1.tree.node? loc = some (.file bytes) := by
  have hsound := soundly_survey_anyhow hprofile
  rcases Work.runs_bind_iff.mp h with ⟨v, z, hsurvey, hconclude⟩ | ⟨e, hsurvey, -⟩
  · rw [← hsound.tree _ _ _ hsurvey] at hfile hfree
    exact runs_conclude_spares hprofile (hsound.brings _ _ _ hsurvey) hfile hfree hconclude
  · rwa [hsound.tree _ _ _ hsurvey]

end PluginSweep.Sweep
