/-
PluginSweep/Proofs/Sweep/Gate.lean

The gate in front of trying a plugin out.  Suppose a sweep with a built-in
profile ever starts a command that alters a site.  In whatever surroundings, and
whenever the run may be told to end, everything that makes the plugin fit to be
executed has then happened before (`Cleared`, `alters_only_if_cleared`): the site
was found, the run had not been told to end, the section on high-risk functions
was recorded without an error, and every file of the walk was read and has no
line that calls a high-risk function.

The argument: up to the reports only harmless commands are asked for, and after
them only with nothing standing against it (`runs_conclude`).  Nothing stands
against it only if the section on high-risk functions is there, did not fail,
and neither found nor left out anything; that section is the outcome of the
check on the sources that were kept, and each of these is what a reply brought.
-/
import PluginSweep.Proofs.Request.Steady
import PluginSweep.Proofs.Sweep.Conclusion
import PluginSweep.Proofs.Sweep.Survey
import PluginSweep.Proofs.Walk.Candidate

namespace PluginSweep

/-! ### The check of high-risk functions -/

namespace Check

theorem find?_highRiskName : find? highRiskName = some highRisk := rfl

/-- All the rules of the check apply to the files of the language. -/
theorem mem_rulesFor_highRisk {function : String} {default : List String}
    (h : function ∈ highRiskFunctions) (hdefault : ".php" ∈ default) :
    highRiskRule function ∈ highRisk.rulesFor ".php" default := by
  rw [rulesFor, List.mem_filter]
  refine ⟨List.mem_map.mpr ⟨function, h, rfl⟩, ?_⟩
  rw [highRiskRule]
  split
  · rfl
  · exact List.contains_iff_mem.mpr hdefault

theorem name_highRiskRule (function : String) : (highRiskRule function).name = function := by
  rw [highRiskRule]
  split <;> rfl

theorem linePattern_highRiskRule (function : String) :
    (highRiskRule function).linePattern = some (.callOf function) := by
  rw [highRiskRule]
  split <;> rfl

theorem reportsLine_highRiskRule (function : String) (line : List Char) :
    (highRiskRule function).reportsLine (.callOf function) line =
      (Pattern.callOf function).found .exact line := by
  rw [highRiskRule, Rule.reportsLine]
  split <;> exact Bool.and_true _

/-- The rule finds nothing exactly if no line calls the function. -/
theorem scan_highRiskRule_eq_nil_iff {function relpath text : String} :
    (highRiskRule function).scan relpath text = [] ↔
      ∀ line ∈ Text.lines text.toList, (Pattern.callOf function).found .exact line = false := by
  rw [Rule.scan_eq_nil_iff (linePattern_highRiskRule function)]
  simp only [reportsLine_highRiskRule]

end Check

/-- A profile that may try a plugin out looks for high-risk functions, in files of the language. -/
theorem Profile.highRisk_mem_of_activation :
    ∀ p ∈ Profile.table, p.activation = true →
      Check.highRiskName ∈ p.checks ∧ p.sourceExtensions = [".php"] := by
  decide

namespace Sweep

open History

variable {s : Settings} {x y : SweepState × History}

/-! ### Nothing stands against it -/

/-- If nothing stands against executing the plugin, the section on high-risk functions was
recorded; it did not fail, and it is that of a check which found nothing and left out no file. -/
theorem Surveyed.highRisk {walk : Walk} {steps : List Step} {v : Survey}
    (h : Surveyed s walk steps x v y) (hchecks : Check.highRiskName ∈ s.profile.checks)
    (hnone : v.ledger.obstacle = none) :
    ∃ made, v.ledger.get? Check.highRiskName = some made ∧ made.error = none ∧
      made.findings = [] ∧ made.skipped = [] ∧
      Checked s walk.files y.1 Check.highRisk made := by
  obtain ⟨hknown, hnames⟩ := plan_eq_ok h.planned
  -- There is a step of that name, so there is a section of that name.
  have hstep : Check.highRiskName ∈ steps.map Step.name := by
    rw [hnames]
    exact List.mem_append_left _ hchecks
  obtain ⟨step, hstep, hname⟩ := List.mem_map.mp hstep
  obtain ⟨first, hfirst, hbrings⟩ := exists_section h.brings hstep
  obtain ⟨made, hmade⟩ := Ledger.get?_of_mem hfirst
  rw [hbrings.name, hname] at hmade
  rw [Ledger.obstacle, hmade] at hnone
  obtain ⟨hfindings, herror, hskipped⟩ := Ledger.obstacleIn_eq_none_iff.mp hnone
  refine ⟨made, hmade, herror, hfindings, hskipped, ?_⟩
  -- The section that counts is one of a step as well, and that step is the check.
  obtain ⟨hmem, hmadeName⟩ := Ledger.of_get? hmade
  obtain ⟨step', hstep', hbrings'⟩ := exists_step h.brings hmem
  have hstepName : step'.name = Check.highRiskName := hbrings'.name.symm.trans hmadeName
  have hstepKnown := hknown step' hstep'
  cases step' with
  | check check =>
    have hfound : Check.find? check.name = some check := hstepKnown
    rw [show check.name = Check.highRiskName from hstepName, Check.find?_highRiskName] at hfound
    obtain rfl := Option.some.inj hfound
    exact hbrings'
  | tool name title =>
    obtain rfl : name = Check.highRiskName := hstepName
    rcases eq_of_title? hstepKnown with heq | heq | heq <;> exact absurd heq (by decide)

/-- The file was read, and no line of it calls a high-risk function. -/
def ReadClean (past : History) (file : Candidate) : Prop :=
  ∃ stored bytes, .asked (.read file stored) (.ok bytes) ∈ past ∧
    ∀ function ∈ Check.highRiskFunctions, ∀ line ∈ Text.lines (Text.decodeLossy bytes),
      (Pattern.callOf function).found .exact line = false

/-- If nothing stands against executing the plugin, every file of the walk was read and is
clean. -/
theorem Surveyed.readClean {walk : Walk} {steps : List Step} {v : Survey}
    (h : Surveyed s walk steps x v y) (hchecks : Check.highRiskName ∈ s.profile.checks)
    (hextensions : s.profile.sourceExtensions = [".php"]) (hstart : x.1.sources = [])
    (hnone : v.ledger.obstacle = none) {file : Candidate} (hfile : file ∈ walk.files) :
    ReadClean y.2 file := by
  obtain ⟨made, -, herror, hfindings, hskipped, hchecked⟩ := h.highRisk hchecks hnone
  obtain ⟨-, hwants⟩ := Walk.exists_candidateAt h.walked hfile
  have hextension : file.extension = ".php" := by
    rw [hextensions] at hwants
    simpa using (Bool.and_eq_true_iff.mp hwants).2
  have hrules : ∀ function ∈ Check.highRiskFunctions, Check.highRiskRule function ∈
      Check.highRisk.rulesFor file.extension s.profile.sourceExtensions := by
    rw [hextensions, hextension]
    exact fun function h => Check.mem_rulesFor_highRisk h (List.mem_singleton_self _)
  have hsome : Check.highRisk.rulesFor file.extension s.profile.sourceExtensions ≠ [] :=
    List.ne_nil_of_mem (hrules "eval" (by decide))
  -- The table of the sources that are kept; what it says of other paths does not matter.
  let table : Path → Except OsError String := fun path =>
    (y.1.sources.lookup path).getD (.ok "")
  have hagrees : Agrees table y.1 := by
    intro path text hkept
    show (y.1.sources.lookup path).getD (.ok "") = text
    rw [hkept]
    rfl
  obtain ⟨t, ht, hclean⟩ := Check.outcome_empty
    ((hchecked.findings herror table hagrees).symm.trans hfindings)
    ((hchecked.skipped herror table hagrees).symm.trans hskipped) hfile hsome
  -- The text is what a reply to the question about this very file brought.
  obtain ⟨text, hkept⟩ := hchecked.known herror file hfile hsome
  have hremembered : Remembered walk.files y := by
    refine h.learns.remembered fun path text hnothing => ?_
    rw [hstart] at hnothing
    cases hnothing
  obtain ⟨file', hfile', hpath, stored, contents, hread, htext⟩ := hremembered _ _ hkept
  obtain rfl := Walk.eq_of_path_eq h.walked hfile' hfile hpath
  have hdecoded : decoded contents = .ok t := by
    rw [← htext, ← hagrees _ _ hkept]
    exact ht
  cases contents with
  | error e => cases hdecoded
  | ok bytes =>
    obtain rfl := Except.ok.inj hdecoded
    refine ⟨stored, bytes, hread, fun function hfunction line hline => ?_⟩
    have hnothing := hclean _ (hrules function hfunction)
    rw [Check.scan_highRiskRule_eq_nil_iff, String.toList_ofList] at hnothing
    exact hnothing line hline

/-! ### The gate -/

/-- What has to be so before a site is touched; `past` is what has happened up to the moment at
which trying the plugin out begins, and `v` what the sweep has found out by then. -/
structure Cleared (s : Settings) (tree : FileSystem) (v : Survey) (past : History) : Prop where
  /-- The profile allows trying the plugin out, there is a root, and the site was found there. -/
  activation : s.profile.activation = true
  site : ∃ root, s.siteRoot = some root ∧ ∃ out err,
    .asked (.launch (.site "wp" root.toString .isInstalled)) (.exited 0 out err) ∈ past
  /-- The run had not been told to end. -/
  goingOn : .told ∉ past
  /-- The section on high-risk functions was recorded without an error. -/
  recorded : ∃ made, v.ledger.get? Check.highRiskName = some made ∧ made.error = none
  /-- All files of the walk were read and are clean. -/
  clean : ∃ walk, candidates s tree = .ok walk ∧ ∀ file ∈ walk.files, ReadClean past file

theorem probedSite_eq_some {site : Site} (h : s.probedSite = some site) :
    s.profile.activation = true ∧ s.siteRoot = some site.root ∧ site.binary = "wp" := by
  unfold Settings.probedSite at h
  split at h
  · rename_i hactivation hroot
    obtain rfl := Option.some.inj h
    exact ⟨hactivation, hroot, rfl⟩
  · cases h

/-- A beginning in which something does not occur ends before it does. -/
theorem prefix_of_not_mem {α : Type} {first before after : List α} {a : α}
    (h : first <+: before ++ a :: after) (ha : a ∉ first) : first <+: before := by
  have hbefore : before ++ [a] <+: before ++ a :: after :=
    ⟨after, by rw [List.append_assoc]; rfl⟩
  rcases List.prefix_or_prefix_of_prefix h hbefore with hfirst | hlater
  · rcases List.prefix_concat_iff.mp hfirst with rfl | hfirst
    · exact absurd (List.mem_append_right _ (List.mem_singleton.mpr rfl)) ha
    · exact hfirst
  · exact absurd (hlater.subset (List.mem_append_right _ (List.mem_singleton.mpr rfl))) ha

/-- **A sweep alters a site only when the plugin is cleared.**  Whatever comes of the run, what
happened before the command is the survey, the beginning of the trial, and more. -/
theorem alters_only_if_cleared {tree : FileSystem} (hprofile : s.profile ∈ Profile.table)
    {o : Except SweepError Summary} {st : SweepState} {before after : History}
    {command : Command} {launch : Launch}
    (h : Work.Runs heard (run s) ({ tree }, []) o
      (st, before ++ .asked (.launch command) launch :: after))
    (halters : command.alters = true) :
    ∃ v past stSurvey m trial, Work.Runs heard (survey s) ({ tree }, []) (.ok v) (stSurvey, past) ∧
      before = past ++ .asked .cancelled false :: (List.replicate m .told ++
        .asked (.announce activationTitle) () :: trial) ∧
      Cleared s tree v past := by
  have hnot : ¬ (Request.launch command).Harmless := by
    show ¬ command.alters = false
    rw [halters]
    exact Bool.false_ne_true ∘ Eq.symm
  have hmem : Event.asked (.launch command) launch ∈
      before ++ .asked (.launch command) launch :: after :=
    List.mem_append_right _ (List.mem_cons_self ..)
  have hsurveyQuiet : ∀ {o : Except SweepError Survey} {z : SweepState × History},
      Work.Runs heard (survey s) ({ tree }, []) o z → .asked (.launch command) launch ∉ z.2 := by
    intro o z hsurvey hz
    rcases quiet_of_only (only_survey s) hsurvey _ _ hz with hnil | hharmless
    · cases hnil
    · exact hnot hharmless
  rcases Work.runs_bind_iff.mp h with ⟨v, z, hsurvey, hconclude⟩ | ⟨e, hsurvey, -⟩
  · rcases runs_conclude hconclude with hquiet | ⟨hsite, hnone, hgoing, m, hopened⟩
    · rcases hquiet _ _ hmem with hz | hharmless
      · exact absurd hz (hsurveyQuiet hsurvey)
      · exact absurd hharmless hnot
    · obtain ⟨stSurvey, past⟩ := z
      -- The command comes after the trial has begun, since all before that is harmless.
      have hfirst : Event.asked (.launch command) launch ∉ past ++ .asked .cancelled false ::
          (List.replicate m .told ++ [.asked (.announce activationTitle) ()]) := by
        simpa using hsurveyQuiet hsurvey
      obtain ⟨trial, hbefore⟩ := prefix_of_not_mem hopened hfirst
      refine ⟨v, past, stSurvey, m, trial, hsurvey, by rw [← hbefore]; simp, ?_⟩
      obtain ⟨walk, steps, hsurveyed⟩ := runs_survey hsurvey
      obtain ⟨site, hsite⟩ := Option.isSome_iff_exists.mp hsite
      obtain ⟨hactivation, hroot, hbinary⟩ := probedSite_eq_some (hsurveyed.site.symm.trans hsite)
      obtain ⟨hchecks, hextensions⟩ :=
        Profile.highRisk_mem_of_activation s.profile hprofile hactivation
      obtain ⟨made, hmade, herror, -⟩ := hsurveyed.highRisk hchecks hnone
      obtain ⟨out, err, hinstalled⟩ := hsurveyed.installed site hsite
      rw [Site.command, hbinary] at hinstalled
      exact ⟨hactivation, ⟨site.root, hroot, out, err, hinstalled⟩, hgoing, ⟨made, hmade, herror⟩,
        walk, hsurveyed.walked,
        fun file hfile => hsurveyed.readClean hchecks hextensions rfl hnone hfile⟩
  · exact absurd hmem (hsurveyQuiet hsurvey)

/-- A plugin with a single file that does nothing, in a site. -/
def bareTree : FileSystem where
  entries := [(["p"], .directory), (["p", "p.php"], .file (Text.encode "<?php\n"))]
  cwd := []
  homes := []

/-- The settings under which all of it is swept. -/
def bareSettings : Settings where
  target := ⟨⟨"/", ["p"]⟩, "p"⟩
  profile := .full
  reportDirectory := ⟨"/", ["r"]⟩
  exclusions := []
  siteRoot := some ⟨"/", []⟩
  seconds := 120
  time := ""
  lockDirectory := ⟨"/", []⟩

/-- The event starts a command that alters a site. -/
def altering : Event → Bool
  | .asked (.launch command) _ => command.alters
  | _ => false

/-- The event is neither that a tool has written bytes which are no text, nor that a step towards a
lock was refused. -/
def calm : Event → Bool
  | .asked (.launch _) .undecodable => false
  | .asked (.lock (.openFile _)) (.error _) => false
  | .asked (.lock (.lockFile _)) (.error _) => false
  | .asked (.lock (.stamp _)) (.error _) => false
  | _ => true

/-- The sweep of the plugin that does nothing, where every tool ends well. -/
def bareRun : (Except SweepError Summary × SweepState) × History :=
  ((run bareSettings).run.run { tree := bareTree }).answer (obliging fun _ => false) []

theorem runs_bareRun : Work.Runs heard (run bareSettings) ({ tree := bareTree }, []) bareRun.1.1
    (bareRun.1.2, bareRun.2) :=
  Work.runs_answer (heard_obliging fun _ => false) (run bareSettings) { tree := bareTree } []

theorem bareRun_ends : bareRun.1.1.toBool = true ∧ bareRun.2.any altering = true ∧
    bareRun.2.any tells = false ∧ bareRun.2.all calm = true := by
  decide +kernel

/-- In surroundings that oblige in the same way all the time, the sweep comes to a summary, after a
site was altered in it and without anything having gone amiss. -/
theorem exists_bareRun : ∃ summary st now,
    Work.Runs (steady (obligingReply [])) (run bareSettings) ({ tree := bareTree }, [])
      (.ok summary) (st, now) ∧
    now.any altering = true ∧ now.any tells = false ∧ now.all calm = true := by
  have hrun : Work.Runs (steady (obligingReply [])) (run bareSettings) ({ tree := bareTree }, [])
      bareRun.1.1 (bareRun.1.2, bareRun.2) :=
    Work.runs_answer (steady_obliging fun _ => false) (run bareSettings) { tree := bareTree } []
  obtain ⟨hok, haltered, huntold, hcalm⟩ := bareRun_ends
  rcases hsummary : bareRun.1.1 with e | summary <;> rw [hsummary] at hrun hok
  · cases hok
  · exact ⟨summary, _, _, hrun, haltered, huntold, hcalm⟩

/-- In obliging surroundings the plugin that does nothing is tried out, so it is cleared. -/
theorem alters_only_if_cleared_bare : ∃ v past, Cleared bareSettings bareTree v past := by
  obtain ⟨summary, st, now, hsteady, haltered, -, -⟩ := exists_bareRun
  have hrun : Work.Runs heard (run bareSettings) ({ tree := bareTree }, []) (.ok summary)
      (st, now) := runs_heard_of_steady hsteady
  obtain ⟨event, hmem, halters⟩ := List.any_eq_true.mp haltered
  obtain ⟨before, after, rfl⟩ := List.append_of_mem hmem
  cases event with
  | told => cases halters
  | asked question reply =>
    cases question with
    | launch command =>
      obtain ⟨v, past, -, -, -, -, -, hcleared⟩ :=
        alters_only_if_cleared (List.mem_cons_self ..) hrun halters
      exact ⟨v, past, hcleared⟩
    | _ => cases halters

end Sweep

end PluginSweep
