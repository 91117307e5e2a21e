/-
PluginSweep/Proofs/CommandLine/Again.lean

The same command line once more, right after it has been done.  The plugin and the
directory for the reports are found where they were (`settings_again`), the sweep comes to
the same (`Sweep.runs_run_again`), and what is shown of it does not depend on the tree
(`matches_report`).  So the session ends as it did, and every place of the tree holds what
it held (`run_again`).

The place for the reports must be one that stays where it is when it is resolved again.  A
path through a loop of links may lead to one that does not: the first session then makes
the directory on account of which the second session meets the loop
(`second_session_meets_loop`).
-/
import PluginSweep.Proofs.CommandLine.Sparing
import PluginSweep.Proofs.FileSystem.Resolved
import PluginSweep.Proofs.Sweep.Again

namespace PluginSweep.CommandLine

open Dialogue (Conduct)

namespace Session

variable {α σ : Type} {c : Conduct Request.Reply σ} {env : Environment} {o : SweepOptions}
  {s : Settings} {fs tree : FileSystem} {target : Target} {base : Path}

/-! ### What is shown -/

section Showing

variable [Console] {rel : FileSystem → FileSystem → Prop}

/-- What is shown does not depend on the tree. -/
theorem matches_say (text : String) : Work.Matches c rel (say text) (say text) := by
  unfold say
  split
  · exact Work.matches_lift_lift _
  · exact Work.matches_throw _

theorem matches_stop (text : String) :
    Work.Matches c rel (stop text : Session α) (stop text) :=
  (matches_say text).bind fun _ => Work.matches_throw _

theorem matches_showTable (t : Table) : Work.Matches c rel (showTable t) (showTable t) := by
  unfold showTable
  split
  · exact Work.matches_lift_lift _
  · exact Work.matches_throw _

theorem matches_showSummary (summary : Summary) (dir : Path) :
    Work.Matches c rel (showSummary summary dir) (showSummary summary dir) := by
  refine (matches_showTable _).bind fun _ => (matches_say _).bind fun _ => ?_
  have hend : Work.Matches c rel (do
      say ("\n  Reports: " ++ dir.toString)
      say ("  Quick view: cat " ++ (dir.child Report.summaryFile).toString)) (do
      say ("\n  Reports: " ++ dir.toString)
      say ("  Quick view: cat " ++ (dir.child Report.summaryFile).toString)) :=
    (matches_say _).bind fun _ => matches_say _
  -- The lines on an interruption may be left out, as may the one on failures.
  have hinterrupted : Work.Matches c rel (do
      if summary.interrupted then say "  [yellow]Run interrupted: reports are partial[/]"
      say ("\n  Reports: " ++ dir.toString)
      say ("  Quick view: cat " ++ (dir.child Report.summaryFile).toString)) (do
      if summary.interrupted then say "  [yellow]Run interrupted: reports are partial[/]"
      say ("\n  Reports: " ++ dir.toString)
      say ("  Quick view: cat " ++ (dir.child Report.summaryFile).toString)) := by
    dsimp only
    split
    · exact (matches_say _).bind fun _ => hend
    · exact hend
  dsimp only
  split
  · exact (matches_say _).bind fun _ => hinterrupted
  · exact hinterrupted

/-- Reporting on what came of a sweep depends on that alone. -/
theorem matches_report (s : Settings) (outcome : Except SweepError Summary) :
    Work.Matches c rel (report s outcome) (report s outcome) := by
  unfold report
  split
  · exact matches_stop _
  · exact matches_stop _
  · exact Work.matches_throw _
  · refine (matches_showSummary _ _).bind fun _ => ?_
    dsimp only
    split
    · refine (matches_stop _).bind fun _ => ?_
      split
      · exact Work.matches_throw _
      · exact Work.matches_pure _
    · split
      · exact Work.matches_throw _
      · exact Work.matches_pure _

end Showing

/-! ### Where everything is -/

/-- The place for the reports that is chosen, if one is. -/
def givenBase (env : Environment) (o : SweepOptions) : Option String :=
  (o.reportBase.filter (!·.isEmpty)).or
    (if env.reportBase.isEmpty then none else some env.reportBase)

/-- The chosen place for the reports stays where it is when it is resolved again. -/
def Stays (env : Environment) (fs : FileSystem) (o : SweepOptions) : Prop :=
  ∀ given ∈ givenBase env o, ∀ base, fs.resolve given = .ok base →
    fs.resolve base.toString = .ok base

theorem reportBase_eq (env : Environment) (fs : FileSystem) (o : SweepOptions) :
    reportBase env fs o = match givenBase env o with
      | some given => fs.resolve given
      | none => .ok ((FileSystem.pathOf fs.cwd).child o.profile.reportDirectory) :=
  rfl

/-- The settings of a sweep in which the plugin is not tried out. -/
theorem settings_eq_ok_iff (hprobe : (o.profile.activation && o.activation) = false) :
    settings env fs o target = .ok s ↔
      ∃ base place, reportBase env fs o = .ok base ∧ fs.resolve base.toString = .ok place ∧
        s = {
          target
          profile := o.profile
          reportDirectory := place.child target.name
          exclusions := exclusions o.profile target base
          languageVersion := o.languageVersion
          siteRoot := none
          seconds := env.seconds
          time := env.time
          lockDirectory := env.lockDirectory } := by
  rw [settings, hprobe]
  rcases reportBase env fs o with e | base
  · simp [bind, Except.bind]
  · simp only [Target.reportDirectory, bind, Except.bind, pure, Except.pure, Bool.false_eq_true,
      if_false]
    rcases hplace : fs.resolve base.toString with e | place
    · simp [hplace]
    · simp [hplace, eq_comm]

/-- Such a sweep has no site. -/
theorem siteless_of_settings (hprobe : (o.profile.activation && o.activation) = false)
    (h : settings env fs o target = .ok s) : s.probedSite = none ∧ s.profile = o.profile := by
  obtain ⟨base, place, -, -, rfl⟩ := (settings_eq_ok_iff hprobe).mp h
  refine ⟨?_, rfl⟩
  rw [Settings.probedSite]
  split
  · cases ‹none = some _›
  · rfl

/-- **The plugin is found where it was** when reports have been written. -/
theorem target_again {d : Location} (hfurnished : Report.Furnished d tree fs) {given : String}
    (h : Target.resolve fs given = .ok target) : Target.resolve tree given = .ok target := by
  rw [Target.resolve] at h
  rcases hresolve : fs.resolve given with e | p <;> rw [hresolve] at h
  · cases h
  · dsimp only at h
    split at h
    · rename_i top hlocate
      obtain rfl := Except.ok.inj h
      have hnow := hfurnished.locate_directory hlocate
      have hagain := hfurnished.resolve hresolve (by rw [hnow]; exact fun hloop => by cases hloop)
      rw [Target.resolve, hagain]
      dsimp only
      rw [hnow]
    · cases h
    · cases h
    · cases h

/-- The name of a plugin has no slash in it. -/
theorem slashless_name_of_resolve (hcwd : Path.Slashless fs.cwd) {given : String}
    (h : Target.resolve fs given = .ok target) : '/' ∉ target.name.toList := by
  rw [Target.resolve] at h
  rcases hresolve : fs.resolve given with e | p <;> rw [hresolve] at h
  · cases h
  · dsimp only at h
    split at h
    · obtain rfl := Except.ok.inj h
      exact Path.slashless_name (FileSystem.slashless_of_resolve hcwd hresolve)
    · cases h
    · cases h
    · cases h

/-- **The settings are what they were** when reports have been written into the directory that they
give. -/
theorem settings_again (hprobe : (o.profile.activation && o.activation) = false)
    (hstays : Stays env fs o) (hname : '/' ∉ target.name.toList) {d : Location}
    (hfurnished : Report.Furnished d tree fs)
    (hdir : tree.locate s.reportDirectory = .ok (d, .directory))
    (h : settings env fs o target = .ok s) : settings env tree o target = .ok s := by
  obtain ⟨base, place, hbase, hplace, rfl⟩ := (settings_eq_ok_iff hprobe).mp h
  have hloop : tree.locate place ≠ .error .linkLoop :=
    FileSystem.locate_ne_linkLoop_of_child hname hdir
  refine (settings_eq_ok_iff hprobe).mpr ⟨base, place, ?_, hfurnished.resolve hplace hloop, rfl⟩
  rw [reportBase_eq] at hbase ⊢
  rcases hgiven : givenBase env o with - | given <;> rw [hgiven] at hbase
  · rw [hfurnished.start.cwd]
    exact hbase
  · obtain rfl := Except.ok.inj ((hstays given hgiven base hbase).symm.trans hplace)
    exact hfurnished.resolve hbase hloop

/-! ### Sessions once more -/

section

variable [Console]

theorem runs_prepare_ok_iff {x y : FileSystem × σ} :
    Work.Runs c (prepare env o) x (.ok s) y ↔
      y = x ∧ Target.resolve x.1 o.plugin = .ok s.target ∧ settings env x.1 o s.target = .ok s := by
  refine ⟨runs_prepare_resolved, ?_⟩
  rintro ⟨rfl, hresolve, hsettings⟩
  refine Work.runs_bind_ok_iff.mpr ⟨s.target, y, Work.runs_bind_ok_iff.mpr ?_,
    Work.runs_bind_ok_iff.mpr ?_⟩
  · refine ⟨y.1, y, Work.runs_get_iff.mpr ⟨rfl, rfl⟩, ?_⟩
    rw [hresolve]
    exact Work.runs_pure_iff.mpr ⟨rfl, rfl⟩
  · refine ⟨y.1, y, Work.runs_get_iff.mpr ⟨rfl, rfl⟩, ?_⟩
    rw [hsettings]
    exact Work.runs_pure_iff.mpr ⟨rfl, rfl⟩

/-- An attempt prepares a sweep, says so, and sweeps. -/
theorem runs_attempt_ok_iff {x y : FileSystem × σ} {outcome : Except SweepError Summary} :
    Work.Runs c (attempt env o) x (.ok (s, outcome)) y ↔
      Work.Runs c (prepare env o) x (.ok s) x ∧
      ∃ z, Work.Runs c (say (heading s)) x (.ok ()) z ∧
        Work.Runs c (sweep s) z (.ok outcome) y := by
  rw [attempt, Work.runs_bind_ok_iff]
  constructor
  · rintro ⟨s', z, hprepare, hrest⟩
    obtain ⟨rfl, -⟩ := runs_prepare_resolved hprepare
    obtain ⟨_, z', hsay, hswept⟩ := Work.runs_bind_ok_iff.mp hrest
    obtain ⟨swept, z'', hsweep, hend⟩ := Work.runs_bind_ok_iff.mp hswept
    obtain ⟨heq, rfl⟩ := Work.runs_pure_iff.mp hend
    obtain ⟨rfl, rfl⟩ := Prod.mk.inj (Except.ok.inj heq)
    exact ⟨hprepare, z', hsay, hsweep⟩
  · rintro ⟨hprepare, z, hsay, hsweep⟩
    refine ⟨s, x, hprepare, Work.runs_bind_ok_iff.mpr ⟨(), z, hsay, Work.runs_bind_ok_iff.mpr ?_⟩⟩
    exact ⟨outcome, y, hsweep, Work.runs_pure_iff.mpr ⟨rfl, rfl⟩⟩

/-- An attempt that comes to nothing leaves the tree as it is. -/
theorem runs_attempt_error {x y : FileSystem × σ} {e : Ending}
    (h : Work.Runs c (attempt env o) x (.error e) y) : y.1 = x.1 := by
  rcases Work.runs_bind_error_iff.mp h with ⟨s, z, hprepare, hrest⟩ | hprepare
  · have hz := leaves_prepare env o _ _ _ hprepare
    rcases Work.runs_bind_error_iff.mp hrest with ⟨_, z', hsay, hswept⟩ | hsay
    · have hz' := leaves_of_shows (shows_say _) _ _ _ hsay
      rcases Work.runs_bind_error_iff.mp hswept with ⟨_, z'', -, hend⟩ | hsweep
      · cases (Work.runs_pure_iff.mp hend).1
      · rw [runs_sweep_error hsweep, hz', hz]
    · rw [leaves_of_shows (shows_say _) _ _ _ hsay, hz]
  · exact leaves_prepare env o _ _ _ hprepare

/-- An attempt that comes to no summary leaves the tree as it is, or a report was refused. -/
theorem runs_attempt_failed (hwarn : Sweep.Unmoved (announced c))
    (hprobe : (o.profile.activation && o.activation) = false) {x y : FileSystem × σ}
    {e : SweepError} (h : Work.Runs c (attempt env o) x (.ok (s, .error e)) y) :
    y.1 = x.1 ∨ ∃ cause, e = .refused cause := by
  obtain ⟨hprepare, z, hsay, hsweep⟩ := runs_attempt_ok_iff.mp h
  obtain ⟨-, -, hsettings⟩ := runs_prepare_resolved hprepare
  obtain ⟨st, hrun, hst⟩ := runs_sweep_ok_iff.mp hsweep
  rw [hst, ← leaves_of_shows (shows_say _) _ _ _ hsay]
  exact Sweep.runs_run_error hwarn (siteless_of_settings hprobe hsettings).1 hrun

/-- The tree is one that there can be, with no links in the plugin and none right in the directory
for the reports. -/
structure Linkless (env : Environment) (o : SweepOptions) (fs : FileSystem) : Prop where
  wellFormed : fs.WellFormed
  connected : fs.Connected
  plugin : ∀ target top, Target.resolve fs o.plugin = .ok target →
    fs.locate target.root = .ok (top, .directory) → fs.PlainBelow top
  reports : ∀ target s, Target.resolve fs o.plugin = .ok target →
    settings env fs o target = .ok s → Report.LinkFree s.reportDirectory fs

/-- A sweep that has come to a summary in a session comes to it once more in the next. -/
theorem runs_attempt_again (hwarn : Sweep.Unmoved (announced c))
    (hprofile : o.profile ∈ Profile.table)
    (hprobe : (o.profile.activation && o.activation) = false) {x y : FileSystem × σ}
    {summary : Summary} (h : Work.Runs c (attempt env o) x (.ok (s, .ok summary)) y)
    (hlinkless : Linkless env o x.1) (hstays : Stays env x.1 o) :
    ∃ tree', Work.Runs c (attempt env o) (y.1, x.2) (.ok (s, .ok summary)) (tree', y.2) ∧
      ∀ loc, tree'.node? loc = y.1.node? loc := by
  obtain ⟨hprepare, z, hsay, hsweep⟩ := runs_attempt_ok_iff.mp h
  obtain ⟨-, hresolve, hsettings⟩ := runs_prepare_resolved hprepare
  obtain ⟨hsite, hsame⟩ := siteless_of_settings hprobe hsettings
  obtain ⟨top, htop⟩ := Target.exists_locate hresolve
  have hz : z.1 = x.1 := leaves_of_shows (shows_say _) _ _ _ hsay
  obtain ⟨st, hrun, hst⟩ := runs_sweep_ok_iff.mp hsweep
  rw [hz] at hrun
  have hsweepable : Sweep.Repeatable s top x.1 :=
    ⟨hlinkless.wellFormed.grounded hlinkless.connected, htop,
      hlinkless.plugin _ top hresolve htop, hlinkless.reports _ s hresolve hsettings,
      by rw [hsame]; exact hprofile⟩
  obtain ⟨⟨d, hfurnished, hdir⟩, st', hagain, hnode⟩ :=
    Sweep.runs_run_again hwarn hsite hsweepable hrun
  -- The plugin and the directory for the reports are resolved once more, in the tree left behind.
  have hname := slashless_name_of_resolve
    (hlinkless.wellFormed.slashless_cwd hlinkless.connected) hresolve
  rw [← hst] at hfurnished hdir hnode hagain
  -- The heading is the same in either tree, so the surroundings are where they were after it.
  have hsaid : Work.Matches c (fun before now => before = x.1 ∧ now = y.1) (say (heading s))
      (say (heading s)) := matches_say _
  obtain ⟨z', hsay', ⟨-, hz'⟩, hsurroundings⟩ := hsaid x (y.1, x.2) _ z ⟨rfl, rfl⟩ rfl hsay
  refine ⟨st'.tree, runs_attempt_ok_iff.mpr ⟨runs_prepare_ok_iff.mpr ⟨rfl, ?_, ?_⟩, z', hsay',
    runs_sweep_ok_iff.mpr ⟨st', ?_, rfl⟩⟩, hnode⟩
  · exact target_again hfurnished hresolve
  · exact settings_again hprobe hstays hname hfurnished hdir hsettings
  · rw [hz', hsurroundings]
    exact hagain

end

end Session

open Session

variable {env : Environment} {words : List String} {o : SweepOptions} {world : World}
  {fs tree : FileSystem} {code : Nat}

/-- Surroundings that reply out of a table take warnings without being moved. -/
theorem unmoved_fixed [Console] (world : World) :
    Sweep.Unmoved (announced (Dialogue.fixed world)) :=
  fun _ _ _ _ => ⟨fun _ => rfl, fun _ => rfl⟩

/-- **The same command line comes to the same once more.**  In surroundings in which every reply
depends on the question alone, let a command line ask for a sweep in which the plugin is not tried
out, with the reports in a place that stays where it is, and let the session end with an exit code.
In the tree that it leaves behind, the same
command line ends with the same exit code, the sweep has the same settings and the same summary,
and every place of the tree holds what it held. -/
theorem run_again [Console] (hwords : Console.parse words = .ok (.sweep o))
    (hprobe : (o.profile.activation && o.activation) = false) (hlinkless : Linkless env o fs)
    (hstays : Stays env fs o)
    (hrun : ((run env words).run fs).value world = (.exit code, tree)) :
    ∃ tree', ((run env words).run tree).value world = (.exit code, tree') ∧
      (((attempt env o).run.run tree).value world).1 =
        (((attempt env o).run.run fs).value world).1 ∧
      ∀ loc, tree'.node? loc = tree.node? loc := by
  by_cases hsame : tree = fs
  · subst hsame
    exact ⟨tree, hrun, rfl, fun _ => rfl⟩
  · have hwarn := unmoved_fixed world
    have hfirst : Dialogue.Runs (Dialogue.fixed world) ((run env words).run fs) ()
        (.exit code, tree) () := Dialogue.runs_fixed_iff.mpr hrun.symm
    obtain ⟨outcome, hsession, hend⟩ := (runs_run_sweep_iff hwords).mp hfirst
    rcases Work.runs_bind_iff.mp hsession with ⟨⟨s, swept⟩, ⟨mid, _⟩, hattempt, hreport⟩ |
      ⟨e, hattempt, -⟩
    · obtain rfl : tree = mid := leaves_report s swept _ _ _ hreport
      cases swept with
      | error e =>
        -- The tree has changed, so a report was refused, and then there is no exit code.
        obtain ⟨cause, rfl⟩ :=
          (runs_attempt_failed hwarn hprobe hattempt).resolve_left hsame
        obtain ⟨rfl, -⟩ := Work.runs_throw_iff.mp hreport
        cases hend
      | ok summary =>
        obtain ⟨tree', hagain, hnode⟩ := runs_attempt_again hwarn (Console.builtIn hwords)
          hprobe hattempt hlinkless hstays
        have hreported : Work.Matches (Dialogue.fixed world)
            (fun before now => before = tree ∧ now = tree') (report s (.ok summary))
            (report s (.ok summary)) := matches_report s _
        obtain ⟨⟨last, _⟩, hreport', ⟨-, rfl⟩, -⟩ :=
          hreported (tree, ()) (tree', ()) _ _ ⟨rfl, rfl⟩ rfl hreport
        have hsecond : Dialogue.Runs (Dialogue.fixed world) ((run env words).run tree) ()
            (.exit code, last) () :=
          (runs_run_sweep_iff hwords).mpr
            ⟨outcome, Work.runs_bind_iff.mpr (.inl ⟨_, _, hagain, hreport'⟩), hend⟩
        refine ⟨last, (Dialogue.runs_fixed_iff.mp hsecond).symm, ?_, hnode⟩
        rw [← Dialogue.runs_fixed_iff.mp hagain, ← Dialogue.runs_fixed_iff.mp hattempt]
    · exact absurd (runs_attempt_error hattempt) hsame

/-! ### A sweep that is done twice -/

/-- The sweep of the plugin with a file of notes, with the reports in the plugin itself. -/
def withinWords : List String := ["minimal", "/p", "--report-dir", "/"]

/-- What is asked for then. -/
def withinOptions : SweepOptions where
  plugin := "/p"
  profile := .minimal
  reportBase := some "/"

theorem linkFree_of_entries (h : ∀ e ∈ fs.entries, e.2.isLink = false) (dir : Path) :
    Report.LinkFree dir fs := by
  intro made d name target _ _ hlink
  have hentry := FileSystem.mem_entries_of_node? (FileSystem.node?_link_ne_nil hlink) hlink
  cases h _ hentry

theorem linkless_annotated : Linkless bareEnvironment withinOptions annotatedTree where
  wellFormed := by
    refine ⟨by decide, ?_, by decide +kernel⟩
    simp only [Path.Joinable]
    decide
  connected := ⟨by decide, by decide⟩
  plugin := by
    intro target top _ _
    have hall : ∀ e ∈ annotatedTree.entries,
        e.2.isLink = false ∧ ∀ name ∈ e.1.getLast?, Proper name := by
      decide
    exact ⟨fun e he _ => (hall e he).1, fun e he _ => (hall e he).2⟩
  reports := fun _ s _ _ => linkFree_of_entries (by decide) s.reportDirectory

theorem stays_annotated : Stays bareEnvironment annotatedTree withinOptions := by
  intro given hgiven base hbase
  obtain rfl : "/" = given := Option.some.inj hgiven
  have hroot : annotatedTree.resolve "/" = .ok ⟨"/", []⟩ := by
    decide +kernel
  obtain rfl := Except.ok.inj (hroot.symm.trans hbase)
  decide +kernel

/-- The session in obliging surroundings. -/
def withinSession (fs : FileSystem) : Ending × FileSystem :=
  ((run bareEnvironment withinWords).run fs).value (History.obligingReply [])

theorem run_again_annotated :
    ∃ tree tree', withinSession annotatedTree = (.exit 0, tree) ∧
      tree.node? ["p", "10-notes.txt"] = none ∧ withinSession tree = (.exit 0, tree') ∧
      ∀ loc, tree'.node? loc = tree.node? loc := by
  have hwords : Console.parse withinWords = .ok (.sweep withinOptions) := by
    decide +kernel
  have hend : (withinSession annotatedTree).1 = .exit 0 ∧
      (withinSession annotatedTree).2.node? ["p", "10-notes.txt"] = none := by
    decide +kernel
  rcases hrun : withinSession annotatedTree with ⟨ending, tree⟩
  rw [hrun] at hend
  obtain ⟨rfl, hgone⟩ : ending = .exit 0 ∧ tree.node? ["p", "10-notes.txt"] = none := hend
  obtain ⟨tree', hagain, -, hnode⟩ := run_again hwords rfl linkless_annotated stays_annotated hrun
  exact ⟨tree, tree', rfl, hgone, hagain, hnode⟩

/-! ### A loop that is met on the second time -/

/-- A plugin beside a path that leads through a loop of links, as long as there is no directory
`d`. -/
def loopedTree : FileSystem where
  entries := [(["p"], .directory), (["c"], .link "d/../l/../d"), (["l"], .link "l")]
  cwd := []
  homes := []

/-- The sweep of the plugin, with the reports where that path leads. -/
def loopedWords : List String := ["minimal", "/p", "--report-dir", "/l/../c"]

/-- What is asked for then. -/
def loopedOptions : SweepOptions where
  plugin := "/p"
  profile := .minimal
  reportBase := some "/l/../c"

/-- The session in obliging surroundings. -/
def loopedSession (fs : FileSystem) : Ending × FileSystem :=
  ((run bareEnvironment loopedWords).run fs).value (History.obligingReply [])

theorem linkless_looped : Linkless bareEnvironment loopedOptions loopedTree where
  wellFormed := by
    refine ⟨by decide, ?_, by decide +kernel⟩
    simp only [Path.Joinable]
    decide
  connected := ⟨by decide, by decide⟩
  plugin := by
    intro target top htarget htop
    have hresolve : Target.resolve loopedTree "/p" = .ok ⟨⟨"/", ["p"]⟩, "p"⟩ := by
      decide +kernel
    obtain rfl := Except.ok.inj (hresolve.symm.trans htarget)
    have hlocate : loopedTree.locate ⟨"/", ["p"]⟩ = .ok (["p"], .directory) := by
      decide +kernel
    obtain ⟨rfl, -⟩ := Prod.mk.inj (Except.ok.inj (hlocate.symm.trans htop))
    exact ⟨by decide, by decide⟩
  reports := by
    intro target s htarget hsettings made d name link hmade hlocate
    have hresolve : Target.resolve loopedTree "/p" = .ok ⟨⟨"/", ["p"]⟩, "p"⟩ := by
      decide +kernel
    obtain rfl := Except.ok.inj (hresolve.symm.trans htarget)
    have hplace : (settings bareEnvironment loopedTree loopedOptions
        ⟨⟨"/", ["p"]⟩, "p"⟩).toOption.map (·.reportDirectory) = some ⟨"/", ["d", "p"]⟩ := by
      decide +kernel
    rw [hsettings] at hplace
    rw [show s.reportDirectory = _ from Option.some.inj hplace] at hmade hlocate
    have hmadeAt : (((FileSystem.ensurePath ⟨"/", ["d", "p"]⟩).run.run
        loopedTree).2.locate ⟨"/", ["d", "p"]⟩).toOption.map Prod.fst = some ["d", "p"] := by
      decide +kernel
    rw [hmade, hlocate] at hmadeAt
    obtain rfl : d = ["d", "p"] := Option.some.inj hmadeAt
    simp [loopedTree, FileSystem.node?, FileSystem.entryAt?]

/-- **A session need not be repeatable where the place for the reports does not stay**: there are no
links in the plugin nor among the reports, and the session ends well, but the same command line
breaks off when it comes again. -/
theorem second_session_meets_loop :
    Console.parse loopedWords = .ok (.sweep loopedOptions) ∧
      (loopedOptions.profile.activation && loopedOptions.activation) = false ∧
      Linkless bareEnvironment loopedOptions loopedTree ∧
      ∃ tree, loopedSession loopedTree = (.exit 0, tree) ∧
        (loopedSession tree).1 = .broken (.path (.linkLoop "/c")) := by
  have hends : (loopedSession loopedTree).1 = .exit 0 ∧
      (loopedSession (loopedSession loopedTree).2).1 = .broken (.path (.linkLoop "/c")) := by
    decide +kernel
  rcases hfirst : loopedSession loopedTree with ⟨ending, tree⟩
  rw [hfirst] at hends
  obtain ⟨rfl, hsecond⟩ : ending = .exit 0 ∧
      (loopedSession tree).1 = .broken (.path (.linkLoop "/c")) := hends
  exact ⟨by decide +kernel, rfl, linkless_looped, tree, rfl, hsecond⟩

end PluginSweep.CommandLine
