/-
PluginSweep/Proofs/Sweep/Filing.lean

How the reports of a sweep are written.  Steps have names that make names of reports, and
there are fewer than a hundred of them (`isReport_of_regular`).  So a sweep that comes to a
summary has prepared the directory for the reports, and has then written them one after
the other, each under a name of its own: the statistics, those on the steps, then possibly
one on trying the plugin out, and the summary last (`runs_conclude_wrote`).  This is so in
whatever surroundings and whatever links there are.
-/
import PluginSweep.Proofs.Report.Contents
import PluginSweep.Proofs.Sweep.Entries
import PluginSweep.Proofs.Sweep.Recorded
import PluginSweep.Proofs.Sweep.Reports

namespace PluginSweep.Sweep

open Dialogue (Conduct)

variable {σ : Type} {c : Conduct Request.Reply σ} {s : Settings} {summary summary' : Summary}
  {v : Survey} {base : FileSystem} {reports : List (String × String)} {x y : SweepState × σ}

/-! ### Names of reports -/

theorem plain_of_mem_stepNames : ∀ name ∈ stepNames, Report.Plain name := by
  simp [stepNames, Report.Plain, Check.table, Check.highRisk, Check.highRiskName,
    Check.uninstallName, Tool.titles, Tool.compatibility, Tool.codingStandards, Tool.lint]

/-- The sections of a regular ledger, and one more on trying the plugin out, have reports of such
names that the directory can be cleared of them. -/
theorem isReport_of_regular {l : Ledger} (hl : Regular l) :
    ∀ file ∈ Report.sectionFiles 1 (l.sections.map (·.name) ++ [activationName]),
      Report.IsReport file := by
  intro file hfile
  refine Report.isReport_of_mem_sectionFiles ?_ ?_ hfile
  · have hcount : stepNames.length ≤ 98 := by
      decide
    have hlength := Nat.le_trans hl.length_le hcount
    simp only [List.length_append, List.length_map, List.length_singleton]
    omega
  · intro name hname
    rcases List.mem_append.mp hname with hname | hname
    · obtain ⟨sec, hsec, rfl⟩ := List.mem_map.mp hname
      exact plain_of_mem_stepNames _ (hl.name_mem hsec)
    · rw [List.mem_singleton.mp hname]
      decide

/-! ### One report -/

/-- A report of a new name is written after the others. -/
theorem wrote_of_filing {name text : String} {path : Path}
    (hwrote : Report.Wrote s.reportDirectory base reports x.1.tree) (hname : Report.IsReport name)
    (hnew : ∀ e ∈ reports, e.1 ≠ name)
    (h : Work.Runs c (filing (Report.writeText s.reportDirectory name text)) x (.ok path) y) :
    Report.Wrote s.reportDirectory base (reports ++ [(name, text)]) y.1.tree := by
  obtain ⟨hpath, hy⟩ := runs_filing_iff.mp h
  rcases hwrite : (Report.writeText s.reportDirectory name text).run.run x.1.tree with
    ⟨written, tree⟩
  rw [hwrite] at hpath hy
  obtain rfl : written = .ok path := filed_eq_ok hpath.symm
  rw [hy]
  exact hwrote.write hname hnew hwrite

/-! ### Trying the plugin out -/

/-- The report on trying the plugin out, if there is one, is written after those that are there. -/
theorem runs_tryOut_wrote {site : Option Site}
    (hroom : Report.IsReport (Report.sectionFile (summary.sections.length + 1) activationName))
    (hwrote : Report.Wrote s.reportDirectory base reports x.1.tree)
    (hless : ∀ e ∈ reports, Report.fileNumber e.1 < summary.sections.length + 1)
    (h : Work.Runs c (tryOut s site summary) x (.ok summary') y) :
    ∃ probed, OnProbe s probed ∧
      summary'.sections =
        summary.sections ++ Report.withArtifacts (summary.sections.length + 1) probed ∧
      Report.Wrote s.reportDirectory base (reports ++ Report.sectionReports s.time
        Report.descriptions (summary.sections.length + 1) probed) y.1.tree := by
  rcases runs_tryOut_cases h with ⟨rfl, htree⟩ | ⟨outcome, tried, z, hsame, htree, hadd⟩
  · -- It was not tried out.
    refine ⟨[], .inl rfl, (List.append_nil _).symm, ?_⟩
    rw [htree]
    simpa [Report.sectionReports] using hwrote
  · -- It was, and its report comes after all others.
    refine ⟨[probeSection s outcome], .inr ⟨outcome, rfl⟩, ?_, ?_⟩
    · rw [eq_of_addProbeSection hadd, hsame]
      rfl
    · rw [← sectionReports_probed rfl (probeSection_name s outcome)]
      obtain ⟨path, z', hwrite, hend⟩ := Work.runs_bind_ok_iff.mp hadd
      obtain ⟨-, rfl⟩ := Work.runs_pure_iff.mp hend
      rw [hsame, Report.writeSection,
        Report.artifact_withArtifact _ (probeSection_name s outcome)] at hwrite
      rw [← htree] at hwrote
      exact wrote_of_filing hwrote hroom (Report.ne_sectionFile_of_lt hless) hwrite

/-! ### All reports -/

/-- **All reports are written one after the other**, once the directory has been prepared, when a
sweep comes to a summary. -/
theorem runs_conclude_wrote (hregular : Regular v.ledger)
    (h : Work.Runs c (conclude s v) x (.ok summary) y) :
    ∃ probed base, (Report.prepare s.reportDirectory).run.run x.1.tree = (.ok (), base) ∧
      summary.sections = Report.withArtifacts 1 (v.ledger.sections ++ probed) ∧
      Report.Wrote s.reportDirectory base (runReports s v summary probed) y.1.tree := by
  obtain ⟨_, written, _, _, path, hwarn, hwrite, htry, hfiled⟩ := exists_parts_of_conclude h
  rw [← (runs_warnSkipped_tree hwarn).2]
  have hfiles := isReport_of_regular hregular
  rw [Report.sectionFiles_append] at hfiles
  -- The directory is prepared, and the reports on the steps are written.
  obtain ⟨base, mid, paths, hprepare, hsections, hz⟩ := runs_writeReports_ok_iff.mp hwrite
  obtain ⟨rfl, hsteps⟩ := Report.wrote_of_writeSections
    (fun file hmem => hfiles file (List.mem_append_left _ hmem)) hsections
  have htree : mid = _ := (congrArg (·.1.tree) hz).symm
  rw [htree] at hsteps
  have hlength : (Report.filedSummary
      (summarize s v.ledger v.statistics v.interrupted)).sections.length =
        v.ledger.sections.length := Report.length_withArtifacts 1 _
  have hroom : Report.IsReport
      (Report.sectionFile (v.ledger.sections.length + 1) activationName) := by
    refine hfiles _ (List.mem_append_right _ ?_)
    rw [List.length_map, Nat.add_comm]
    exact List.mem_cons_self
  have hless : ∀ e ∈ stepReports s v, Report.fileNumber e.1 < v.ledger.sections.length + 1 :=
    fun e he => fileNumber_of_mem_stepReports he
  -- The plugin is tried out, and then the summary is written.
  rw [← hlength] at hroom hless
  obtain ⟨probed, -, hnumbered, hall⟩ := runs_tryOut_wrote hroom hsteps hless htry
  rw [hlength] at hnumbered hall
  refine ⟨probed, base, hprepare, ?_, ?_⟩
  · rw [hnumbered, Report.withArtifacts_append, Nat.add_comm 1]
    rfl
  · rw [Report.writeSummary] at hfiled
    exact wrote_of_filing hall Report.isReport_summaryFile
      (fun _ he => ne_summaryFile_of_mem_reports he) hfiled

end PluginSweep.Sweep
