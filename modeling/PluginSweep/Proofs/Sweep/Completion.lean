/-
PluginSweep/Proofs/Sweep/Completion.lean

Which sweeps come to their reports.  Whatever comes of the tools of a sweep is a result
or a failure, both of which are recorded, unless a tool writes bytes that are no text.

Main result (`reported_unless_garbled`): a sweep ends in one of three ways.  There is no
site.  Or some tool of the survey has written bytes that are no text; then the sweep is
given up, and nothing is written (`GivenUp`).  Or no tool of the survey has; then there is
one section for every check and every tool of the profile, and the reports can be read
(`Completed`).  One byte is enough to lose all reports (`given_up_for_one_byte`).
-/
import PluginSweep.Proofs.Sweep.Gate
import PluginSweep.Proofs.Sweep.Reports
import PluginSweep.Proofs.Tool.Execution

namespace PluginSweep.Sweep

open History

variable {s : Settings} {place : String → Location}

/-- The sweep was given up in its survey, for a tool that has written bytes which are no text, and
it has written nothing. -/
structure GivenUp (s : Settings) (tree : FileSystem) (o : Except SweepError Summary)
    (y : SweepState × History) : Prop where
  surveyed : Work.Runs heard (survey s) ({ tree }, []) (.error .undecodable) y
  outcome : o = .error .undecodable
  garbled : Garbled y.2
  untouched : y.1.tree = tree

/-- The survey came to its end with `v`, all that had happened by then being `past`, and all that
tools had written being text; the reports can be read. -/
structure Completed (s : Settings) (tree : FileSystem) (v : Survey) (past : History)
    (o : Except SweepError Summary) (y : SweepState × History) : Prop where
  surveyed : ∃ st, Work.Runs heard (survey s) ({ tree }, []) (.ok v) (st, past)
  grown : past <+: y.2
  textual : ¬ Garbled past
  /-- Each check and each tool has one section, in their order. -/
  sections : v.ledger.sections.map (·.name) = s.profile.checks ++ s.profile.tools
  reports : Readable s (stepReports s v) y.1.tree
  summary : Summarized s v o y.1.tree ∨ (s.probedSite.isSome ∧ CutShort o y.2)

/-- **Whatever comes of its tools, a sweep comes to its reports, unless a tool writes bytes that
are no text.**  For such a tool the caller gets neither a result nor a failure that could be
recorded, and the sweep is given up. -/
theorem reported_unless_garbled {tree ready : FileSystem} {steps : List Step}
    (hroot : FileSystem.admits s.target.root = true) (hplan : plan s.profile = .ok steps)
    (hnames : (s.profile.checks ++ s.profile.tools).Nodup)
    (hprepare : (Report.prepare s.reportDirectory).run.run tree = (.ok (), ready))
    (hready : Report.Ready s.reportDirectory place (reportFiles s.profile) ready)
    {o : Except SweepError Summary} {y : SweepState × History}
    (h : Work.Runs heard (run s) ({ tree }, []) o y) :
    (∀ (e : Execution) (seconds : Int) (command : Command),
      ((∃ r, e.launch.result seconds command = .ok r) ∨
        ∃ f, e.launch.result seconds command = .error (.failure f)) ↔ e.Textual) ∧
    (((∃ root, o = .error (.noSite root)) ∧ y.1.tree = tree ∧ ¬ Garbled y.2) ∨
      GivenUp s tree o y ∨ ∃ v past, Completed s tree v past o y) := by
  refine ⟨fun e seconds command => Execution.result_or_failure_iff, ?_⟩
  have hsound := soundly_survey hroot hplan hnames
  rcases Work.runs_bind_iff.mp h with ⟨v, z, hsurvey, hconclude⟩ | ⟨e, hsurvey, rfl⟩
  · -- The survey has come to its end, so no tool has written bytes that are no text.
    right
    right
    have hsections := hsound.brings _ _ _ hsurvey
    have htree : z.1.tree = tree := hsound.tree _ _ _ hsurvey
    have htextual : ¬ Garbled z.2 := by
      rw [hsound.garbled _ _ _ hsurvey]
      rintro (hnil | heq)
      · exact not_garbled_nil hnil
      · cases heq
    have hsite : v.site = s.probedSite := by
      obtain ⟨walk, steps', hsurveyed⟩ := runs_survey hsurvey
      exact hsurveyed.site
    rw [← htree] at hprepare
    obtain ⟨hreports, hsummary⟩ := runs_conclude_written hsections hprepare hready hconclude
    rw [hsite] at hsummary
    exact ⟨v, z.2, ⟨z.1, hsurvey⟩, prefix_of_runs hconclude, htextual, hsections, hreports,
      hsummary⟩
  · -- The survey was cut short.
    have hgarbled := hsound.garbled _ _ _ hsurvey
    have htree : y.1.tree = tree := hsound.tree _ _ _ hsurvey
    rcases hsound.fails _ _ _ hsurvey with ⟨root, rfl⟩ | rfl
    · -- The site was not found.
      left
      refine ⟨⟨root, rfl⟩, htree, ?_⟩
      rw [hgarbled]
      rintro (hnil | heq)
      · exact not_garbled_nil hnil
      · cases heq
    · right
      left
      exact ⟨hsurvey, rfl, hgarbled.mpr (.inr rfl), htree⟩

/-! ### The plugin that does nothing -/

/-- Where a report on the plugin that does nothing is. -/
def barePlace (name : String) : Location := ["r", name]

/-- The tree in which the plugin that does nothing is, when the directory for reports has been
prepared. -/
def bareReady : FileSystem :=
  ((Report.prepare bareSettings.reportDirectory).run.run bareTree).2

theorem bareReady_ready :
    Report.Ready bareSettings.reportDirectory barePlace (reportFiles .full) bareReady := by
  have hfree : ∀ name ∈ reportFiles .full, bareReady.node? (barePlace name) = none := by
    decide +kernel
  refine ⟨⟨by decide +kernel, by decide +kernel, fun name hname node hnode => ?_⟩, ?_⟩
  · rw [hfree name hname] at hnode
    cases hnode
  · intro name _ other _ heq
    simpa [barePlace] using heq

/-- The sweep of the plugin that does nothing comes to its reports, where every tool ends well. -/
theorem reported_unless_garbled_bare :
    FileSystem.admits bareSettings.target.root = true ∧
      (∃ steps, plan bareSettings.profile = .ok steps) ∧
      (bareSettings.profile.checks ++ bareSettings.profile.tools).Nodup ∧
      (Report.prepare bareSettings.reportDirectory).run.run bareTree = (.ok (), bareReady) ∧
      Report.Ready bareSettings.reportDirectory barePlace (reportFiles bareSettings.profile)
        bareReady ∧
      ∃ o y v past, Work.Runs heard (run bareSettings) ({ tree := bareTree }, []) o y ∧
        Completed bareSettings bareTree v past o y := by
  have hroot : FileSystem.admits bareSettings.target.root = true := by
    decide +kernel
  obtain ⟨steps, hplan⟩ : ∃ steps, plan bareSettings.profile = .ok steps := ⟨_, rfl⟩
  have hnames : (bareSettings.profile.checks ++ bareSettings.profile.tools).Nodup := by
    decide +kernel
  have hprepare : (Report.prepare bareSettings.reportDirectory).run.run bareTree =
      (.ok (), bareReady) := rfl
  have hready : Report.Ready bareSettings.reportDirectory barePlace
      (reportFiles bareSettings.profile) bareReady := bareReady_ready
  refine ⟨hroot, ⟨steps, hplan⟩, hnames, hprepare, hready, ?_⟩
  obtain ⟨summary, st, now, hsteady, -⟩ := exists_bareRun
  have hrun : Work.Runs heard (run bareSettings) ({ tree := bareTree }, []) (.ok summary)
      (st, now) := runs_heard_of_steady hsteady
  -- Nothing but the last of its three ends is without an error.
  rcases (reported_unless_garbled hroot hplan hnames hprepare hready hrun).2 with
    ⟨⟨root, heq⟩, -, -⟩ | hgiven | ⟨v, past, hcompleted⟩
  · cases heq
  · cases hgiven.outcome
  · exact ⟨_, _, v, past, hrun, hcompleted⟩

/-! ### One byte -/

/-- The tool ends well, having written a byte that starts no character. -/
def oneByte : Execution := .exited 0 (some [0xFF]) (some [])

/-- Surroundings that oblige, but for a checker of coding standards that writes that byte. -/
def writingOneByte (question : Request) (past : History) : question.Reply × History :=
  match question with
  | .launch (.standards check) =>
    (oneByte.launch, past ++ [.asked (.launch (.standards check)) oneByte.launch])
  | question => obliging (fun _ => false) question past

theorem heard_writingOneByte (question : Request) (past : History) :
    heard past question (writingOneByte question past).1 (writingOneByte question past).2 := by
  unfold writingOneByte
  split
  · exact ⟨0, trivial, by simp⟩
  · exact heard_obliging _ _ _

/-- The work has failed for bytes that are no text. -/
def failedForBytes {α : Type} : Except SweepError α → Bool
  | .error e => e == .undecodable
  | .ok _ => false

/-- **One byte is enough to lose all reports.**  A checker that ends well but writes a byte which
starts no character has neither a result nor a failure, and the sweep of the plugin that does
nothing is given up for it, without a single report. -/
theorem given_up_for_one_byte :
    (∀ r f, oneByte.launch.result 120 (.other ["phpcs"]) ≠ .ok r ∧
      oneByte.launch.result 120 (.other ["phpcs"]) ≠ .error (.failure f)) ∧
    ∃ y, Work.Runs heard (run bareSettings) ({ tree := bareTree }, []) (.error .undecodable) y ∧
      ∀ file ∈ reportFiles bareSettings.profile,
        ∀ bytes, y.1.tree.read (bareSettings.reportDirectory.child file) ≠ .ok bytes := by
  have hlaunch : oneByte.launch = .undecodable := by
    decide +kernel
  refine ⟨fun r f => ?_, ?_⟩
  · rw [hlaunch]
    constructor
    · intro heq
      cases heq
    · intro heq
      cases heq
  · have hsurvey := Work.runs_answer heard_writingOneByte (survey bareSettings)
      { tree := bareTree } []
    have hgiven : failedForBytes (((survey bareSettings).run.run { tree := bareTree }).answer
        writingOneByte []).1.1 = true := by
      decide +kernel
    rcases houtcome : (((survey bareSettings).run.run { tree := bareTree }).answer
      writingOneByte []).1.1 with e | v <;> rw [houtcome] at hgiven hsurvey
    · obtain rfl : e = .undecodable := beq_iff_eq.mp hgiven
      have hsound := soundly_survey (s := bareSettings) (by decide +kernel) rfl (by decide +kernel)
      have hnone : ∀ file ∈ reportFiles bareSettings.profile,
          (bareTree.read (bareSettings.reportDirectory.child file)).toBool = false := by
        decide +kernel
      refine ⟨_, Work.runs_bind_iff.mpr (.inr ⟨_, hsurvey, rfl⟩), fun file hfile bytes heq => ?_⟩
      rw [hsound.tree _ _ _ hsurvey] at heq
      have hread := hnone file hfile
      rw [heq] at hread
      cases hread
    · cases hgiven

end PluginSweep.Sweep
