/-
PluginSweep/Proofs/Sweep/Reports.lean

The reports of a sweep whose survey has come to its end.  They are written where they
can be: after the directory has been prepared, each of them has a place of its own with
at most a file in it.  Then the reports on the steps are written
(`runs_writeReports_ok`); trying the plugin out adds one to them and takes none away
(`runs_tryOut_standing`); and the summary is written last.  `Concluded` says which
sections and which reports there are in the end, `runs_conclude_concluded` that there is
no other end.

Only trying the plugin out may still end a sweep before its summary is written: when
its site is not where it should be, when the lock file is refused, or when a tool writes
bytes that are no text (`CutShort`).  A plugin that could not be put back is reported
like everything else.
-/
import PluginSweep.Proofs.FileSystem.Canonical
import PluginSweep.Proofs.Lock.Refusal
import PluginSweep.Proofs.Probe.Trial
import PluginSweep.Proofs.Report.Writing
import PluginSweep.Proofs.Sweep.Failure
import PluginSweep.Proofs.Sweep.Conclusion

namespace PluginSweep.Sweep

open History
open Dialogue (Conduct)

variable {σ : Type} {c : Conduct Request.Reply σ} {s : Settings}
  {place : String → Location} {names : List String} {reports : List (String × String)}

/-! ### Reports -/

/-- The names of all reports that a sweep with the profile may write. -/
def reportFiles (p : Profile) : List String :=
  Report.statisticsFile :: Report.summaryFile ::
    Report.sectionFiles 1 (p.checks ++ p.tools ++ [activationName])

/-- The reports on the steps: the statistics, and one for each section. -/
def stepReports (s : Settings) (v : Survey) : List (String × String) :=
  (Report.statisticsFile, Report.renderStatistics s.time
    (summarize s v.ledger v.statistics v.interrupted)) ::
    Report.sectionReports s.time Report.descriptions 1 v.ledger.sections

/-- All reports of a sweep that has come to the summary, in the order in which they are written:
those on the steps, then possibly one on trying the plugin out, and the summary. -/
def runReports (s : Settings) (v : Survey) (summary : Summary) (probed : List Section) :
    List (String × String) :=
  stepReports s v ++ Report.sectionReports s.time Report.descriptions
    (v.ledger.sections.length + 1) probed ++
      [(Report.summaryFile, Report.renderSummary s.time summary)]

/-- Reports stand, none of them with a number above that of the last section, and there is room
for two more: on trying the plugin out, and the summary. -/
structure Standing (s : Settings) (place : String → Location) (names : List String)
    (reports : List (String × String)) (summary : Summary) (tree : FileSystem) : Prop where
  written : Report.Written s.reportDirectory place names reports tree
  room : Report.sectionFile (summary.sections.length + 1) activationName ∈ names
  roomForSummary : Report.summaryFile ∈ names
  numbers : ∀ e ∈ reports, Report.fileNumber e.1 < summary.sections.length + 1
  apart : ∀ e ∈ reports, e.1 ≠ Report.summaryFile

theorem sectionFile_ne_summaryFile (index : Nat) (name : String) :
    Report.sectionFile (index + 1) name ≠ Report.summaryFile := by
  intro heq
  have hnumber := congrArg Report.fileNumber heq
  rw [Report.fileNumber_sectionFile, Report.fileNumber_summaryFile] at hnumber
  cases hnumber

/-- A report with a new name is written beside the others. -/
theorem runs_filing_writeText {name text : String} {x y : SweepState × σ}
    {o : Except SweepError Path}
    (hwritten : Report.Written s.reportDirectory place names reports x.1.tree)
    (hname : name ∈ names) (hnew : ∀ e ∈ reports, e.1 ≠ name)
    (h : Work.Runs c (filing (Report.writeText s.reportDirectory name text)) x o y) :
    o = .ok (s.reportDirectory.child name) ∧ y.2 = x.2 ∧
      Report.Written s.reportDirectory place names (reports ++ [(name, text)]) y.1.tree := by
  obtain ⟨tree', hwrite, hall⟩ := hwritten.write hname hnew text
  obtain ⟨ho, hy⟩ := runs_filing_iff.mp h
  rw [hwrite] at ho hy
  rw [ho, hy]
  exact ⟨rfl, rfl, hall⟩

/-- The reports on the steps are written. -/
theorem runs_writeReports_ok {summary : Summary} {ready : FileSystem} {x y : SweepState × σ}
    {o : Except SweepError Summary}
    (hprepare : (Report.prepare s.reportDirectory).run.run x.1.tree = (.ok (), ready))
    (hwritable : Report.Writable s.reportDirectory place names ready)
    (hstatistics : Report.statisticsFile ∈ names)
    (hsections : ∀ file ∈ Report.sectionFiles 1 (summary.sections.map (·.name)), file ∈ names)
    (h : Work.Runs c (writeReports s summary) x o y) :
    o = .ok { summary with sections := Report.withArtifacts 1 summary.sections } ∧ y.2 = x.2 ∧
      Report.Written s.reportDirectory place names
        ((Report.statisticsFile, Report.renderStatistics s.time summary) ::
          Report.sectionReports s.time Report.descriptions 1 summary.sections) y.1.tree := by
  obtain ⟨paths, tree', hrun, hall⟩ :=
    Report.Written.all hwritable s.time Report.descriptions hstatistics hsections
  cases writingReports_iff.mp h with
  | unprepared hprepare' _ _ => cases hprepare.symm.trans hprepare'
  | prepared hprepare' hwrite ho hy =>
    obtain ⟨-, rfl⟩ := Prod.mk.inj (hprepare.symm.trans hprepare')
    obtain ⟨heq, rfl⟩ := Prod.mk.inj (hrun.symm.trans hwrite)
    obtain ⟨rfl, rfl⟩ := Prod.mk.inj heq
    subst hy
    exact ⟨ho, rfl, hall⟩

/-- The tree after writing the reports is the prepared one with these files. -/
theorem runs_writeReports_tree {summary summary' : Summary} {ready : FileSystem}
    {x y : SweepState × σ}
    (hprepare : (Report.prepare s.reportDirectory).run.run x.1.tree = (.ok (), ready))
    (h : Work.Runs c (writeReports s summary) x (.ok summary') y) :
    y.1.tree = ((Report.writeSections s.time s.reportDirectory Report.descriptions summary).run
      ready).2 := by
  obtain ⟨base, mid, paths, hprepare', hwrite, rfl⟩ := runs_writeReports_ok_iff.mp h
  obtain ⟨-, rfl⟩ := Prod.mk.inj (hprepare.symm.trans hprepare')
  exact (congrArg Prod.snd hwrite).symm

/-! ### Trying the plugin out -/

/-- The report on trying the plugin out, which is in the section `made`. -/
def probeReport (s : Settings) (summary : Summary) (made : Section) : String × String :=
  (Report.sectionFile (summary.sections.length + 1) activationName,
    Report.renderSection s.time (Report.withArtifact (summary.sections.length + 1) made) "")

/-- The section on trying the plugin out is the last one, and its report stands beside the
others. -/
theorem runs_addProbeSection_standing {summary : Summary} {made : Section} {x y : SweepState × σ}
    {o : Except SweepError Summary} (hstanding : Standing s place names reports summary x.1.tree)
    (hmade : made.name = activationName)
    (h : Work.Runs c (addProbeSection s summary made) x o y) :
    o = .ok { summary with sections := summary.sections ++
        [Report.withArtifact (summary.sections.length + 1) made] } ∧ y.2 = x.2 ∧
      Report.Written s.reportDirectory place names (reports ++ [probeReport s summary made])
        y.1.tree := by
  -- No report has the number yet.
  have hnew : ∀ e ∈ reports,
      e.1 ≠ Report.sectionFile (summary.sections.length + 1) activationName :=
    Report.ne_sectionFile_of_lt hstanding.numbers
  have hfiling : ∀ {o z}, Work.Runs c (filing (Report.writeSection s.time s.reportDirectory
        (Report.withArtifact (summary.sections.length + 1) made) "")) x o z →
      (∃ path, o = .ok path) ∧ z.2 = x.2 ∧ Report.Written s.reportDirectory place names
        (reports ++ [probeReport s summary made]) z.1.tree := by
    intro o z hfile
    rw [Report.writeSection, Report.artifact_withArtifact _ hmade] at hfile
    obtain ⟨ho, hz, hall⟩ := runs_filing_writeText hstanding.written hstanding.room hnew hfile
    exact ⟨⟨_, ho⟩, hz, hall⟩
  rcases Work.runs_bind_iff.mp h with ⟨_, z, hfile, hend⟩ | ⟨e, hfile, -⟩
  · obtain ⟨-, hz, hall⟩ := hfiling hfile
    obtain ⟨rfl, rfl⟩ := Work.runs_pure_iff.mp hend
    exact ⟨rfl, hz, hall⟩
  · obtain ⟨⟨_, heq⟩, -, -⟩ := hfiling hfile
    cases heq

variable {x y : SweepState × History} {o : Except SweepError Summary}

/-- Trying the plugin out was cut short, by a site that is not where it should be, by a lock file,
or by a tool that wrote no text. -/
def CutShort (o : Except SweepError Summary) (now : History) : Prop :=
  (∃ e, o = .error (.path e)) ∨ (∃ e, o = .error (.refused e)) ∨
    (o = .error .undecodable ∧ Garbled now)

/-- What cuts trying the plugin out short, in the tree as it is then: the root of the site has no
canonical form, its lock is refused, or a tool has written no text. -/
inductive CutBy (site : Site) (tree : FileSystem) : Except SweepError Summary → History → Prop
  | misplaced {e : FileSystem.PathError} {now : History}
      (unnamed : tree.canonical site.root = .error e) : CutBy site tree (.error (.path e)) now
  | refused {e : OsError} {now : History} (lock : LockRefused now) :
      CutBy site tree (.error (.refused e)) now
  | garbled {now : History} (bytes : Garbled now) : CutBy site tree (.error .undecodable) now

theorem CutBy.short {site : Site} {tree : FileSystem} {now : History} (h : CutBy site tree o now) :
    CutShort o now := by
  cases h with
  | misplaced => exact .inl ⟨_, rfl⟩
  | refused => exact .inr (.inl ⟨_, rfl⟩)
  | garbled bytes => exact .inr (.inr ⟨rfl, bytes⟩)

/-- How trying the plugin out may end, and which reports stand then. -/
inductive Tried (s : Settings) (place : String → Location) (names : List String)
    (reports : List (String × String)) (summary : Summary) (site : Site) (tree : FileSystem) :
    Except SweepError Summary → SweepState × History → Prop
  /-- It is reported, and the summary can be written. -/
  | reported {made : Section} {summary' : Summary} {y : SweepState × History}
      (name : made.name = activationName)
      (sections : summary'.sections =
        summary.sections ++ [Report.withArtifact (summary.sections.length + 1) made])
      (written : Report.Written s.reportDirectory place names
        (reports ++ [probeReport s summary made]) y.1.tree) :
        Tried s place names reports summary site tree (.ok summary') y
  /-- The plugin could not be put back, and all is reported. -/
  | notRestored {made : Section} {summary' : Summary} {slug : String} {wasActive : Bool}
      {cause : Option StepFailure} {y : SweepState × History}
      (name : made.name = activationName)
      (sections : summary'.sections =
        summary.sections ++ [Report.withArtifact (summary.sections.length + 1) made])
      (written : Report.Written s.reportDirectory place names
        (reports ++ [probeReport s summary made] ++
          [(Report.summaryFile, Report.renderSummary s.time summary')]) y.1.tree) :
        Tried s place names reports summary site tree (.error (.notRestored slug wasActive cause)) y
  /-- It was cut short, and nothing was added. -/
  | cut {o : Except SweepError Summary} {y : SweepState × History}
      (written : Report.Written s.reportDirectory place names reports y.1.tree)
      (short : CutBy site tree o y.2) : Tried s place names reports summary site tree o y

/-- Trying the plugin out under the lock of its site brings a result or the failure of a step,
unless the plugin could not be put back, the lock file was refused, or a tool wrote no text. -/
theorem runs_lockedProbe_error {site : Site} {key : String} {past now : History} {e : SweepError}
    (h : Dialogue.Runs heard (lockedProbe s site key) past (.error e) now) :
    (∃ slug wasActive cause, e = .notRestored slug wasActive cause) ∨
      ((∃ refusal, e = .refused refusal) ∧ LockRefused now) ∨
      (e = .undecodable ∧ Garbled now) := by
  cases lockedProbing_of_runs h with
  | busy _ heq => cases heq
  | refused hacquire heq =>
    obtain rfl := Except.error.inj heq
    exact .inr (.inl ⟨⟨_, rfl⟩, Lock.lockRefused_of_runs_acquire hacquire⟩)
  | @held _ outcome _ last _ hprobe hrelease heq =>
    match outcome with
    | .ok result => cases heq
    | .error (.failure f) => cases heq
    | .error (.notRestored slug wasActive cause) =>
      obtain rfl := Except.error.inj heq
      exact .inl ⟨slug, wasActive, cause, rfl⟩
    | .error .undecodable =>
      obtain rfl := Except.error.inj heq
      -- Where all that tools write is text, a probe does not end like this.
      have hgarbled : Garbled last := by
        apply Classical.byContradiction
        intro hnot
        exact Probe.run_ne_undecodable Probe.textual_heardText (runs_heardText hprobe hnot) rfl
      exact .inr (.inr ⟨rfl, hgarbled.mono (prefix_of_runs hrelease)⟩)

/-- A plugin that could not be put back is reported, in a section and in the summary. -/
theorem runs_notRestored_standing {summary : Summary} {made : Section} {e : SweepError}
    (hstanding : Standing s place names reports summary x.1.tree)
    (hmade : made.name = activationName)
    (h : Work.Runs heard (do
      let summary ← addProbeSection s summary made
      let _ ← filing (Report.writeSummary s.time s.reportDirectory summary)
      throw e) x o y) :
    o = .error e ∧ ∃ summary' : Summary, summary'.sections =
        summary.sections ++ [Report.withArtifact (summary.sections.length + 1) made] ∧
      Report.Written s.reportDirectory place names
        (reports ++ [probeReport s summary made] ++
          [(Report.summaryFile, Report.renderSummary s.time summary')]) y.1.tree := by
  rcases Work.runs_bind_iff.mp h with ⟨summary', z, hadd, hfile⟩ | ⟨e', hadd, -⟩
  · obtain ⟨heq, -, hall⟩ := runs_addProbeSection_standing hstanding hmade hadd
    obtain rfl := Except.ok.inj heq
    -- The summary has a name of its own.
    have hnew : ∀ e ∈ reports ++ [probeReport s summary made], e.1 ≠ Report.summaryFile := by
      intro e he
      rcases List.mem_append.mp he with he | he
      · exact hstanding.apart e he
      · rw [List.mem_singleton.mp he]
        exact sectionFile_ne_summaryFile _ _
    rcases Work.runs_bind_iff.mp hfile with ⟨path, z', hwrite, hthrow⟩ | ⟨e', hwrite, -⟩
    · obtain ⟨-, -, hsummary⟩ :=
        runs_filing_writeText hall hstanding.roomForSummary hnew hwrite
      obtain ⟨rfl, rfl⟩ := Work.runs_throw_iff.mp hthrow
      exact ⟨rfl, _, rfl, hsummary⟩
    · obtain ⟨heq, -, -⟩ := runs_filing_writeText hall hstanding.roomForSummary hnew hwrite
      cases heq
  · cases (runs_addProbeSection_standing hstanding hmade hadd).1

/-- Whatever came of trying the plugin out, it is reported unless it was cut short. -/
theorem runs_reportProbe_standing {summary : Summary} {site : Site} {tree : FileSystem}
    {outcome : Except SweepError (Except StepFailure ProbeResult)}
    (hstanding : Standing s place names reports summary x.1.tree)
    (houtcome : ∀ e, outcome = .error e →
      (∃ slug wasActive cause, e = .notRestored slug wasActive cause) ∨
        ((∃ refusal, e = .refused refusal) ∧ LockRefused x.2) ∨
        (e = .undecodable ∧ Garbled x.2))
    (h : Work.Runs heard (reportProbe s summary outcome) x o y) :
    Tried s place names reports summary site tree o y := by
  unfold reportProbe at h
  split at h
  · -- The probe has a result.
    rename_i result
    have hstanding' : Standing s place names reports { summary with probe := some result }
      x.1.tree := ⟨hstanding.1, hstanding.2, hstanding.3, hstanding.4, hstanding.5⟩
    obtain ⟨rfl, -, hall⟩ := runs_addProbeSection_standing hstanding' (by rfl) h
    exact .reported rfl rfl hall
  · -- It has failed, and a warning is given.
    obtain ⟨_, now, -, hadd⟩ := runs_asking_bind_iff.mp h
    obtain ⟨rfl, -, hall⟩ :=
      runs_addProbeSection_standing (x := (x.1, now)) hstanding (by rfl) hadd
    exact .reported rfl rfl hall
  · -- The plugin could not be put back.
    obtain ⟨rfl, summary', hsections, hall⟩ := runs_notRestored_standing hstanding (by rfl) h
    exact .notRestored rfl hsections hall
  · -- Anything else cuts the sweep short.
    rename_i e hnot
    obtain ⟨rfl, rfl⟩ := Work.runs_throw_iff.mp h
    apply Tried.cut hstanding.written
    rcases houtcome e rfl with ⟨slug, wasActive, cause, rfl⟩ | ⟨⟨refusal, rfl⟩, hlock⟩ |
      ⟨rfl, hgarbled⟩
    · exact absurd rfl (hnot slug wasActive cause)
    · exact .refused hlock
    · exact .garbled hgarbled

theorem runs_probe_standing {site : Site} {summary : Summary}
    (hstanding : Standing s place names reports summary x.1.tree)
    (h : Work.Runs heard (probe s site summary) x o y) :
    Tried s place names reports summary site x.1.tree o y := by
  rcases runs_probe_iff.mp h with ⟨p, brought, now, -, hlocked, hreport⟩ | ⟨e, he, rfl, rfl⟩
  · refine runs_reportProbe_standing (x := (x.1, now)) hstanding (fun e heq => ?_) hreport
    exact runs_lockedProbe_error (heq ▸ hlocked)
  · exact .cut hstanding.written (.misplaced he)

/-- The plugin is tried out: there is a site for that, nothing stands against it, and the run is
not told to end before. -/
def TriesOut (site : Option Site) (skipReason : Option String) (past now : History) : Prop :=
  site.isSome ∧ skipReason = none ∧ ¬ ToldBy past now

/-- What was asked before is of no account where something stands against it. -/
theorem triesOut_congr {site : Option Site} {skipReason : Option String}
    {past past' now : History} (hpast : skipReason = none → past' = past) :
    TriesOut site skipReason past' now ↔ TriesOut site skipReason past now := by
  constructor
  · rintro ⟨hsite, hnone, htold⟩
    exact ⟨hsite, hnone, hpast hnone ▸ htold⟩
  · rintro ⟨hsite, hnone, htold⟩
    exact ⟨hsite, hnone, (hpast hnone).symm ▸ htold⟩

/-- **Trying the plugin out takes no report away**, and where it is not tried out, nothing is
done. -/
theorem runs_tryOut_standing {site : Option Site} {summary : Summary}
    (hstanding : Standing s place names reports summary x.1.tree)
    (h : Work.Runs heard (tryOut s site summary) x o y) :
    (∃ probed, site = some probed ∧ TriesOut site summary.skipReason x.2 y.2 ∧
        Tried s place names reports summary probed x.1.tree o y) ∨
      (¬ TriesOut site summary.skipReason x.2 y.2 ∧ o = .ok summary ∧ y.1 = x.1) := by
  cases tryingOut_of_runs h with
  | skipped hnot ho hy =>
    refine .inr ⟨fun htries => ?_, ho, hy ▸ rfl⟩
    obtain ⟨probed, hprobed⟩ := Option.isSome_iff_exists.mp htries.1
    exact hnot probed hprobed htries.2.1
  | told _ _ hasked ho hy =>
    subst hy
    refine .inr ⟨fun htries => htries.2.2 ?_, ho, rfl⟩
    exact (toldBy_iff_of_heard hasked (List.prefix_refl _)).mp rfl
  | @tried _ _ announced hsite hnone hasked hannounced hprobe =>
    refine .inl ⟨_, hsite, ⟨hsite ▸ rfl, hnone, fun htold => ?_⟩,
      runs_probe_standing (x := (x.1, announced)) hstanding hprobe⟩
    have hpast := (prefix_of_heard hannounced).trans (prefix_of_runs hprobe)
    exact Bool.false_ne_true ((toldBy_iff_of_heard hasked hpast).mpr htold)

/-! ### The conclusion -/

/-- All reports can be read. -/
def Readable (s : Settings) (reports : List (String × String)) (tree : FileSystem) : Prop :=
  ∀ e ∈ reports, tree.read (s.reportDirectory.child e.1) = .ok (Text.encode e.2)

/-- The sweep has a summary or says that the plugin could not be put back, and a summary that has
the sections of the survey can be read. -/
def Summarized (s : Settings) (v : Survey) (o : Except SweepError Summary) (tree : FileSystem) :
    Prop :=
  ∃ summary, (o = .ok summary ∨
      ∃ slug wasActive cause, o = .error (.notRestored slug wasActive cause)) ∧
    Report.withArtifacts 1 v.ledger.sections <+: summary.sections ∧
    tree.read (s.reportDirectory.child Report.summaryFile) =
      .ok (Text.encode (Report.renderSummary s.time summary))

/-- Where nothing stands against trying the plugin out, there is nothing to warn of. -/
theorem runs_warnSkipped_silent {site : Option Site} {summary : Summary}
    {u : Except SweepError Unit} {x y : SweepState × σ} (hskip : summary.skipReason = none)
    (h : Work.Runs c (warnSkipped s site summary) x u y) : y = x := by
  unfold warnSkipped at h
  split at h
  · rename_i reason hreason
    rw [hskip] at hreason
    cases hreason
  · exact (Work.runs_pure_iff.mp h).2

/-- The names that a sweep needs are those of its steps and one more. -/
theorem mem_reportFiles_of_sectionFiles {p : Profile} {file : String}
    (h : file ∈ Report.sectionFiles 1 (p.checks ++ p.tools)) : file ∈ reportFiles p := by
  rw [reportFiles, Report.sectionFiles_append]
  exact List.mem_cons_of_mem _ (List.mem_cons_of_mem _ (List.mem_append_left _ h))

theorem mem_reportFiles_activation (p : Profile) :
    Report.sectionFile ((p.checks ++ p.tools).length + 1) activationName ∈ reportFiles p := by
  rw [reportFiles, Report.sectionFiles_append, Nat.add_comm]
  exact List.mem_cons_of_mem _ (List.mem_cons_of_mem _ (List.mem_append_right _ List.mem_cons_self))

/-- A report on a section is not the summary, which has the number zero. -/
theorem ne_summaryFile_of_mem_sectionReports {index : Nat} {sections : List Section}
    {e : String × String} (hindex : 0 < index)
    (he : e ∈ Report.sectionReports s.time Report.descriptions index sections) :
    e.1 ≠ Report.summaryFile := by
  intro heq
  have hnumber := (Report.fileNumber_of_mem_sectionReports he).1
  rw [heq, Report.fileNumber_summaryFile] at hnumber
  exact absurd (Nat.lt_of_lt_of_le hindex hnumber) (Nat.lt_irrefl 0)

theorem ne_summaryFile_of_mem_stepReports {v : Survey} {e : String × String}
    (he : e ∈ stepReports s v) : e.1 ≠ Report.summaryFile := by
  rcases List.mem_cons.mp he with rfl | he
  · dsimp only
    decide
  · exact ne_summaryFile_of_mem_sectionReports Nat.one_pos he

/-- None of the reports before the summary is it. -/
theorem ne_summaryFile_of_mem_reports {v : Survey} {probed : List Section} {e : String × String}
    (he : e ∈ stepReports s v ++ Report.sectionReports s.time Report.descriptions
      (v.ledger.sections.length + 1) probed) : e.1 ≠ Report.summaryFile := by
  rcases List.mem_append.mp he with he | he
  · exact ne_summaryFile_of_mem_stepReports he
  · exact ne_summaryFile_of_mem_sectionReports (Nat.succ_pos _) he

/-- The reports on the steps have no numbers but those of the sections. -/
theorem fileNumber_of_mem_stepReports {v : Survey} {e : String × String}
    (he : e ∈ stepReports s v) : Report.fileNumber e.1 < v.ledger.sections.length + 1 := by
  rcases List.mem_cons.mp he with rfl | he
  · rw [Report.fileNumber_statisticsFile]
    exact Nat.succ_pos _
  · have hnumber := (Report.fileNumber_of_mem_sectionReports he).2
    omega

/-- The summary as it is when the reports on the steps are written. -/
def stepSummary (s : Settings) (v : Survey) : Summary :=
  { summarize s v.ledger v.statistics v.interrupted with
    sections := Report.withArtifacts 1 v.ledger.sections }

/-- The reports on the steps stand once they are written. -/
theorem standing_stepReports {v : Survey} {tree : FileSystem}
    (hsteps : v.ledger.sections.map (·.name) = s.profile.checks ++ s.profile.tools)
    (hwritten : Report.Written s.reportDirectory place (reportFiles s.profile) (stepReports s v)
      tree) :
    Standing s place (reportFiles s.profile) (stepReports s v) (stepSummary s v) tree := by
  have hlength : (stepSummary s v).sections.length = v.ledger.sections.length :=
    Report.length_withArtifacts 1 _
  refine ⟨hwritten, ?_, List.mem_cons_of_mem _ List.mem_cons_self, fun e he => ?_,
    fun e he => ne_summaryFile_of_mem_stepReports he⟩
  · rw [hlength, ← List.length_map (·.name), hsteps]
    exact mem_reportFiles_activation s.profile
  · rw [hlength]
    exact fileNumber_of_mem_stepReports he

/-- How a sweep may end whose survey has come to its end with `v`, all that had happened by then
being `past`: with a summary, or cut short. -/
inductive Concluded (s : Settings) (place : String → Location) (v : Survey) (past : History)
    (ready : FileSystem) : Except SweepError Summary → SweepState × History → Prop
  /-- All is reported: the steps, trying the plugin out if that was done, and the summary. -/
  | summarized {o : Except SweepError Summary} {summary : Summary} {probed : List Section}
      {y : SweepState × History}
      (ending : o = .ok summary ∨
        ∃ slug wasActive cause, o = .error (.notRestored slug wasActive cause))
      (sections : summary.sections = Report.withArtifacts 1 (v.ledger.sections ++ probed))
      (tried : TriesOut v.site (v.ledger.obstacle.map Obstacle.reason) past y.2 →
        probed.map (·.name) = [activationName])
      (untried : ¬ TriesOut v.site (v.ledger.obstacle.map Obstacle.reason) past y.2 → probed = [])
      (written : Report.Written s.reportDirectory place (reportFiles s.profile)
        (runReports s v summary probed) y.1.tree) :
        Concluded s place v past ready o y
  /-- Trying the plugin out was cut short, in a tree in which the root of the site has every
  canonical form that it had before the reports. -/
  | cut {o : Except SweepError Summary} {site : Site} {tree : FileSystem}
      {y : SweepState × History} (probed : v.site = some site)
      (named : ∀ key, ready.canonical site.root = .ok key → tree.canonical site.root = .ok key)
      (written : Report.Written s.reportDirectory place (reportFiles s.profile) (stepReports s v)
        y.1.tree)
      (short : CutBy site tree o y.2) : Concluded s place v past ready o y

/-- The section on trying the plugin out is numbered like the others. -/
theorem withArtifacts_probed (sections : List Section) (made : Section) :
    Report.withArtifacts 1 sections ++
        [Report.withArtifact ((Report.withArtifacts 1 sections).length + 1) made] =
      Report.withArtifacts 1 (sections ++ [made]) := by
  rw [Report.withArtifacts_append, Report.length_withArtifacts, Nat.add_comm 1]
  rfl

/-- The report on trying the plugin out is one like the others, but that nothing is said about
it. -/
theorem sectionReports_probed {summary : Summary} {made : Section} {index : Nat}
    (hlength : summary.sections.length + 1 = index) (hmade : made.name = activationName) :
    [probeReport s summary made] =
      Report.sectionReports s.time Report.descriptions index [made] := by
  have hknown : Report.descriptions.lookup activationName = none := by
    decide
  rw [probeReport, Report.sectionReports, Report.sectionReports, ← hlength, hmade, hknown,
    Option.getD_none, Int.natCast_succ]

/-- The summary is written beside the reports on the steps and on trying the plugin out. -/
theorem runs_writeSummary_concluded {v : Survey} {ready : FileSystem} {past : History}
    {summary : Summary} {probed : List Section}
    (hsections : summary.sections = Report.withArtifacts 1 (v.ledger.sections ++ probed))
    (htried : TriesOut v.site (v.ledger.obstacle.map Obstacle.reason) past x.2 →
      probed.map (·.name) = [activationName])
    (huntried : ¬ TriesOut v.site (v.ledger.obstacle.map Obstacle.reason) past x.2 → probed = [])
    (hwritten : Report.Written s.reportDirectory place (reportFiles s.profile)
      (stepReports s v ++ Report.sectionReports s.time Report.descriptions
        (v.ledger.sections.length + 1) probed) x.1.tree)
    (h : Work.Runs heard (do
      let _ ← filing (Report.writeSummary s.time s.reportDirectory summary)
      pure summary) x o y) :
    Concluded s place v past ready o y := by
  have hroom : Report.summaryFile ∈ reportFiles s.profile :=
    List.mem_cons_of_mem _ List.mem_cons_self
  rcases Work.runs_bind_iff.mp h with ⟨path, z, hfile, hend⟩ | ⟨e, hfile, -⟩
  · obtain ⟨-, hz, hall⟩ := runs_filing_writeText hwritten hroom
      (fun _ he => ne_summaryFile_of_mem_reports he) hfile
    obtain ⟨rfl, rfl⟩ := Work.runs_pure_iff.mp hend
    rw [← hz] at htried huntried
    exact .summarized (.inl rfl) hsections htried huntried hall
  · obtain ⟨heq, -, -⟩ := runs_filing_writeText hwritten hroom
      (fun _ he => ne_summaryFile_of_mem_reports he) hfile
    cases heq

/-- After the reports on the steps the plugin is tried out, and then the summary is written. -/
theorem runs_tryOut_concluded {v : Survey} {ready : FileSystem} {past : History}
    {summary : Summary}
    (hsections : summary.sections = Report.withArtifacts 1 v.ledger.sections)
    (hskip : summary.skipReason = v.ledger.obstacle.map Obstacle.reason)
    (hpast : summary.skipReason = none → x.2 = past)
    (hstanding : Standing s place (reportFiles s.profile) (stepReports s v) summary x.1.tree)
    (hnamed : ∀ {p key : Path}, ready.canonical p = .ok key → x.1.tree.canonical p = .ok key)
    (h : Work.Runs heard (do
      let summary ← tryOut s v.site summary
      let _ ← filing (Report.writeSummary s.time s.reportDirectory summary)
      pure summary) x o y) :
    Concluded s place v past ready o y := by
  -- Nothing was asked since the survey, so it is all the same when the run is told to end.
  have htries : ∀ {now : History}, TriesOut v.site summary.skipReason x.2 now ↔
      TriesOut v.site (v.ledger.obstacle.map Obstacle.reason) past now := by
    intro now
    rw [← hskip]
    exact triesOut_congr hpast
  have hnumber : summary.sections.length + 1 = v.ledger.sections.length + 1 := by
    rw [hsections, Report.length_withArtifacts]
  have hprobed : ∀ made : Section,
      summary.sections ++ [Report.withArtifact (summary.sections.length + 1) made] =
        Report.withArtifacts 1 (v.ledger.sections ++ [made]) := by
    intro made
    rw [hsections]
    exact withArtifacts_probed _ _
  rcases Work.runs_bind_iff.mp h with ⟨summary', z, htry, hfile⟩ | ⟨e, htry, rfl⟩
  · rcases runs_tryOut_standing hstanding htry with ⟨site, -, hdone, htried⟩ | ⟨hnot, heq, hst⟩
    · rw [htries] at hdone
      cases htried with
      | @reported made _ _ name sections written =>
        rw [hprobed] at sections
        rw [sectionReports_probed hnumber name] at written
        refine runs_writeSummary_concluded sections (fun _ => ?_) (absurd hdone) written hfile
        exact congrArg (fun name => [name]) name
      | cut _ short => cases short
    · -- Nothing has been added to the reports on the steps.
      obtain rfl := Except.ok.inj heq
      rw [htries] at hnot
      have hwritten := hstanding.written
      rw [← hst] at hwritten
      have hnone : ([] : List Section) = [] := rfl
      refine runs_writeSummary_concluded ?_ (fun hdone => absurd hdone hnot) (fun _ => hnone) ?_
        hfile
      · rwa [List.append_nil]
      · rwa [Report.sectionReports, List.append_nil]
  · rcases runs_tryOut_standing hstanding htry with ⟨site, hsite, hdone, htried⟩ | ⟨-, heq, -⟩
    · rw [htries] at hdone
      cases htried with
      | @notRestored made summary' _ _ _ _ name sections written =>
        rw [hprobed] at sections
        rw [sectionReports_probed hnumber name] at written
        refine .summarized (.inr ⟨_, _, _, rfl⟩) sections (fun _ => ?_) (absurd hdone) written
        exact congrArg (fun name => [name]) name
      | cut written short => exact .cut hsite (fun key => hnamed) written short
    · cases heq

/-- The reports on the steps come first.  Nothing is asked for them after the warning, and then the
plugin is tried out. -/
theorem exists_standing_of_conclude {v : Survey} {ready : FileSystem}
    (hsteps : v.ledger.sections.map (·.name) = s.profile.checks ++ s.profile.tools)
    (hprepare : (Report.prepare s.reportDirectory).run.run x.1.tree = (.ok (), ready))
    (hwritable : Report.Writable s.reportDirectory place (reportFiles s.profile) ready)
    (h : Work.Runs heard (conclude s v) x o y) :
    ∃ warned z, Work.Runs heard (warnSkipped s v.site
        (summarize s v.ledger v.statistics v.interrupted)) x (.ok ()) warned ∧
      z.2 = warned.2 ∧
      Standing s place (reportFiles s.profile) (stepReports s v) (stepSummary s v) z.1.tree ∧
      (∀ {p key : Path}, ready.canonical p = .ok key → z.1.tree.canonical p = .ok key) ∧
      Work.Runs heard (do
        let summary ← tryOut s v.site (stepSummary s v)
        let _ ← filing (Report.writeSummary s.time s.reportDirectory summary)
        pure summary) z o y := by
  have hsections : ∀ file ∈ Report.sectionFiles 1
      ((summarize s v.ledger v.statistics v.interrupted).sections.map (·.name)),
      file ∈ reportFiles s.profile := by
    intro file hfile
    rw [show (summarize s v.ledger v.statistics v.interrupted).sections = v.ledger.sections
      from rfl, hsteps] at hfile
    exact mem_reportFiles_of_sectionFiles hfile
  rcases Work.runs_bind_iff.mp h with ⟨_, warned, hwarn, hreports⟩ | ⟨e, hwarn, -⟩
  · rw [← (runs_warnSkipped_tree hwarn).2] at hprepare
    -- The reports can be written, and so they are.
    rcases Work.runs_bind_iff.mp hreports with ⟨summary, z, hwrite, hrest⟩ | ⟨e, hwrite, -⟩
    · obtain ⟨heq, hz, hwritten⟩ :=
        runs_writeReports_ok hprepare hwritable List.mem_cons_self hsections hwrite
      obtain rfl := Except.ok.inj heq
      refine ⟨warned, z, hwarn, hz, standing_stepReports hsteps hwritten, fun hkey => ?_, hrest⟩
      rw [runs_writeReports_tree hprepare hwrite]
      exact hwritable.keeps_writeSections (FileSystem.canonical_put_of_deadEnd) s.time
        Report.descriptions List.mem_cons_self hsections hkey
    · obtain ⟨heq, -, -⟩ :=
        runs_writeReports_ok hprepare hwritable List.mem_cons_self hsections hwrite
      cases heq
  · cases (runs_warnSkipped_tree hwarn).1

/-- **After the survey all reports are written**, the summary last, unless trying the plugin out
was cut short. -/
theorem runs_conclude_concluded {v : Survey} {ready : FileSystem}
    (hsteps : v.ledger.sections.map (·.name) = s.profile.checks ++ s.profile.tools)
    (hprepare : (Report.prepare s.reportDirectory).run.run x.1.tree = (.ok (), ready))
    (hwritable : Report.Writable s.reportDirectory place (reportFiles s.profile) ready)
    (h : Work.Runs heard (conclude s v) x o y) : Concluded s place v x.2 ready o y := by
  obtain ⟨warned, z, hwarn, hz, hstanding, hnamed, hrest⟩ :=
    exists_standing_of_conclude hsteps hprepare hwritable h
  refine runs_tryOut_concluded rfl rfl (fun hskip => ?_) hstanding hnamed hrest
  rw [hz, runs_warnSkipped_silent hskip hwarn]

/-- What has been concluded can be read. -/
theorem runs_conclude_written {v : Survey} {ready : FileSystem}
    (hsteps : v.ledger.sections.map (·.name) = s.profile.checks ++ s.profile.tools)
    (hprepare : (Report.prepare s.reportDirectory).run.run x.1.tree = (.ok (), ready))
    (hready : Report.Ready s.reportDirectory place (reportFiles s.profile) ready)
    (h : Work.Runs heard (conclude s v) x o y) :
    Readable s (stepReports s v) y.1.tree ∧
      (Summarized s v o y.1.tree ∨ (v.site.isSome ∧ CutShort o y.2)) := by
  cases runs_conclude_concluded hsteps hprepare hready.toWritable h with
  | @summarized summary probed _ ending sections _ _ written =>
    refine ⟨fun e he => ?_, .inl ⟨summary, ending, ?_, ?_⟩⟩
    · exact written.read hready.apart (List.mem_append_left _ (List.mem_append_left _ he))
    · rw [sections, Report.withArtifacts_append]
      exact List.prefix_append _ _
    · exact written.posted.read_last
  | cut site _ written short =>
    exact ⟨fun e he => written.read hready.apart he,
      .inr ⟨Option.isSome_of_eq_some site, short.short⟩⟩

end PluginSweep.Sweep
