/-
PluginSweep/Proofs/Sweep/Kept.lean

Which reports are on the disk after a run.  The reports on the sections and the summary are
written one after the other, and there are two ways in which one of them can be lost: a
link can lead the name of another report to the same place, and the lock file can be at
that place.  All others are on the disk as they were written (`kept_of_posted`).
-/
import PluginSweep.Proofs.Lock.Disk
import PluginSweep.Proofs.Sweep.Reports

namespace PluginSweep.Sweep

open History

variable {s : Settings} {v : Survey} {summary : Summary} {y : SweepState × History}

/-- The reports on the sections of the summary, each with the name that the section knows, and the
summary. -/
def shownReports (s : Settings) (summary : Summary) : List (String × String) :=
  summary.sections.map (fun made => (made.artifact, Report.renderSection s.time made
    ((Report.descriptions.lookup made.name).getD ""))) ++
      [(Report.summaryFile, Report.renderSummary s.time summary)]

/-- The report of the name has a place of its own: where it leads, no other report does, and no lock
file has been opened. -/
def Alone (s : Settings) (summary : Summary) (y : SweepState × History) (name : String) : Prop :=
  ∀ loc, y.1.tree.trace .file (s.reportDirectory.child name) = .ok loc →
    ¬ y.2.LockOpenedAt y.1.tree loc ∧ ∀ other ∈ shownReports s summary,
      y.1.tree.trace .file (s.reportDirectory.child other.1) = .ok loc → other.1 = name

/-- On the disk, every report that has a place of its own is as it was written. -/
def ReportsKept (s : Settings) (summary : Summary) (y : SweepState × History) : Prop :=
  ∀ process disk, Disk process y.1.tree y.2 disk → ∀ e ∈ shownReports s summary,
    Alone s summary y e.1 → disk.read (s.reportDirectory.child e.1) = .ok (Text.encode e.2)

/-- A run shows all its reports in the summary, but for the statistics. -/
theorem runReports_eq {probed : List Section}
    (hsections : summary.sections = Report.withArtifacts 1 (v.ledger.sections ++ probed)) :
    runReports s v summary probed = (Report.statisticsFile, Report.renderStatistics s.time
      (summarize s v.ledger v.statistics v.interrupted)) :: shownReports s summary := by
  rw [shownReports, hsections, ← Report.sectionReports_eq_map, Report.sectionReports_append,
    Nat.add_comm 1]
  rfl

/-- The reports that the summary shows are written one after the other. -/
theorem posted_shown {probed : List Section}
    (hsections : summary.sections = Report.withArtifacts 1 (v.ledger.sections ++ probed))
    (hposted : Report.Posted s.reportDirectory (runReports s v summary probed) y.1.tree) :
    Report.Posted s.reportDirectory (shownReports s summary) y.1.tree := by
  rw [runReports_eq hsections] at hposted
  exact hposted.tail

/-- **Reports that have been written are on the disk**, where they have places of their own. -/
theorem kept_of_posted
    (hposted : Report.Posted s.reportDirectory (shownReports s summary) y.1.tree)
    (hstands : y.1.tree.StandsInDirectory) : ReportsKept s summary y := by
  intro process disk hdisk e he halone
  obtain ⟨loc, hleads⟩ := hposted.leads e he
  obtain ⟨hlock, hown⟩ := halone loc hleads
  have hnode := hposted.node? he hleads hown
  exact hdisk.read hstands (FileSystem.trace_target_of_file hleads) hnode hlock

end PluginSweep.Sweep
