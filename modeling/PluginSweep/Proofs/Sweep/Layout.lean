/-
PluginSweep/Proofs/Sweep/Layout.lean

How a call of a high-risk function is laid out in its line does not hide it.  Whatever blanks
stand between the name and the parenthesis, as long as no line ends among them, the check of
high-risk functions finds the call in every file of the language, and no sweep that has read
the text starts a command that alters a site (`inline_call_held_back`).

Lines are what rules look at, so a call that is broken between the name and the parenthesis is
in no line, and is not found (`broken_call_unnoticed`).
-/
import PluginSweep.Proofs.Rule.Lines
import PluginSweep.Proofs.Sweep.Gate
import PluginSweep.Proofs.Sweep.Snapshot

namespace PluginSweep

/-! ### The check -/

namespace Check

variable {function text : String}

/-- No name of a high-risk function has a break in it. -/
theorem highRisk_unbroken : ∀ function ∈ highRiskFunctions, ∀ c ∈ function.toList,
    Text.isLineBreak c = false := by
  have hall : highRiskFunctions.all (fun function =>
      function.toList.all fun c => !Text.isLineBreak c) = true := by
    decide +kernel
  intro function hfunction c hc
  have hc := List.all_eq_true.mp (List.all_eq_true.mp hall function hfunction) c hc
  simpa using hc

/-- If the function is called without a break, its rule reports a line. -/
theorem exists_mem_scan_highRiskRule (hfunction : function ∈ highRiskFunctions)
    (hcalls : Pattern.Calls Pattern.isInlineBlank function.toList text.toList) (relpath : String) :
    ∃ found ∈ (highRiskRule function).scan relpath text,
      found.rule = function ∧ found.path = relpath := by
  obtain ⟨line, hline, hcall⟩ := hcalls.exists_line (highRisk_unbroken function hfunction)
  have hsome : (highRiskRule function).scan relpath text ≠ [] := by
    rw [Ne, scan_highRiskRule_eq_nil_iff]
    intro hnone
    rw [← Pattern.found_callOf_iff, hnone line hline] at hcall
    cases hcall
  obtain ⟨found, hfound⟩ := List.exists_mem_of_ne_nil _ hsome
  obtain ⟨hrule, hpath⟩ := Rule.of_mem_scan hfound
  rw [name_highRiskRule] at hrule
  exact ⟨found, hfound, hrule, hpath⟩

/-- The check finds it in every file of the language that has the text. -/
theorem exists_mem_findings_highRisk (hfunction : function ∈ highRiskFunctions)
    (hcalls : Pattern.Calls Pattern.isInlineBlank function.toList text.toList)
    {default : List String} (hdefault : ".php" ∈ default)
    {read : Candidate → Except OsError String} {files : List Candidate} {file : Candidate}
    (hfile : file ∈ files) (hextension : file.extension = ".php") (hread : read file = .ok text) :
    ∃ found ∈ (highRisk.outcome default read files).findings,
      found.rule = function ∧ found.path = file.relpath := by
  obtain ⟨found, hfound, hsource⟩ := exists_mem_scan_highRiskRule hfunction hcalls file.relpath
  refine ⟨found, mem_findings_outcome hfile hread ?_ hfound, hsource⟩
  rw [hextension]
  exact mem_rulesFor_highRisk hfunction hdefault

end Check

namespace Sweep

open History

variable {s : Settings} {tree : FileSystem} {o : Except SweepError Summary}
  {y : SweepState × History}

/-! ### The sweep -/

/-- If a command was started that alters a site, the survey came to its end, and there was a site
and nothing against trying the plugin out. -/
theorem survey_of_alters (h : Work.Runs heard (run s) ({ tree }, []) o y) {command : Command}
    {launch : Launch} (hstarted : .asked (.launch command) launch ∈ y.2)
    (halters : command.alters = true) :
    ∃ v z, Work.Runs heard (survey s) ({ tree }, []) (.ok v) z ∧ z.2 <+: y.2 ∧
      v.site.isSome ∧ v.ledger.obstacle = none := by
  have hnot : ¬ (Request.launch command).Harmless := by
    show ¬ command.alters = false
    rw [halters]
    exact Bool.false_ne_true ∘ Eq.symm
  have hquiet : ∀ {o : Except SweepError Survey} {z : SweepState × History},
      Work.Runs heard (survey s) ({ tree }, []) o z → .asked (.launch command) launch ∉ z.2 := by
    intro o z hsurvey hz
    rcases quiet_of_only (only_survey s) hsurvey _ _ hz with hnil | hharmless
    · cases hnil
    · exact hnot hharmless
  rcases Work.runs_bind_iff.mp h with ⟨v, z, hsurvey, hconclude⟩ | ⟨e, hsurvey, -⟩
  · refine ⟨v, z, hsurvey, prefix_of_runs hconclude, ?_⟩
    rcases runs_conclude hconclude with hafter | ⟨hsite, hnone, -⟩
    · rcases hafter _ _ hstarted with hz | hharmless
      · exact absurd hz (hquiet hsurvey)
      · exact absurd hharmless hnot
    · exact ⟨hsite, hnone⟩
  · exact absurd hstarted (hquiet hsurvey)

/-- If a command was started that alters a site, whatever was read of a listed file has no call
of a high-risk function in any of its lines. -/
theorem clean_of_alters (hprofile : s.profile ∈ Profile.table)
    (h : Work.Runs heard (run s) ({ tree }, []) o y) {command : Command} {launch : Launch}
    (hstarted : .asked (.launch command) launch ∈ y.2) (halters : command.alters = true)
    {walk : Walk} (hwalk : candidates s tree = .ok walk) {file : Candidate}
    (hfile : file ∈ walk.files) {stored : Contents} {bytes : List UInt8}
    (hread : .asked (.read file stored) (.ok bytes) ∈ y.2) :
    ∀ function ∈ Check.highRiskFunctions, ∀ line ∈ Text.lines (Text.decodeLossy bytes),
      (Pattern.callOf function).found .exact line = false := by
  obtain ⟨v, z, hsurvey, hpast, hsite, hnone⟩ := survey_of_alters h hstarted halters
  obtain ⟨walk', steps, hsurveyed⟩ := runs_survey hsurvey
  obtain rfl : walk' = walk := Except.ok.inj (hsurveyed.walked.symm.trans hwalk)
  obtain ⟨site, hsite⟩ := Option.isSome_iff_exists.mp hsite
  obtain ⟨hactivation, -⟩ := probedSite_eq_some (hsurveyed.site.symm.trans hsite)
  obtain ⟨hchecks, hextensions⟩ := Profile.highRisk_mem_of_activation s.profile hprofile hactivation
  obtain ⟨stored', bytes', hread', hclean⟩ :=
    hsurveyed.readClean hchecks hextensions rfl hnone hfile
  -- No path is read twice, so both readings brought the same text.
  have honce := (kept_of_run h).once
  have hreading : ∀ {stored bytes}, .asked (.read file stored) (.ok bytes) ∈ y.2 →
      snapshotOf y.2 file.path = decoded (.ok bytes) := by
    intro stored bytes hmem
    exact snapshotOf_of_mem honce (List.mem_filterMap.mpr ⟨_, hmem, rfl⟩)
  have hsame : decoded (.ok bytes') = decoded (.ok bytes) :=
    (hreading (hpast.subset hread')).symm.trans (hreading hread)
  have htext : Text.decodeLossy bytes' = Text.decodeLossy bytes :=
    String.ofList_injective (Except.ok.inj hsame)
  rwa [htext] at hclean

/-- **A call within a line is noticed, and the plugin is held back.**  Let a text have a call of a
high-risk function with any blanks between the name and the parenthesis among which no line
ends.  The check of high-risk functions finds it in every file of the language with this text;
and no sweep with a built-in profile that has read this text in one of its files starts a command
that alters a site, in whatever surroundings. -/
theorem inline_call_held_back {function text : String}
    (hfunction : function ∈ Check.highRiskFunctions)
    (hcalls : Pattern.Calls Pattern.isInlineBlank function.toList text.toList) :
    (∀ (files : List Candidate) (default : List String)
        (read : Candidate → Except OsError String) (acts : List ScanAct),
        ∀ file ∈ files, file.extension = ".php" → ".php" ∈ default → read file = .ok text →
        let scan := Check.highRisk.scan files default (ScanAct.reader read) ScanAct.warner
        ∃ found ∈ (scan.run acts).1.findings,
          found.rule = function ∧ found.path = file.relpath) ∧
      ∀ (s : Settings) (tree : FileSystem) (o : Except SweepError Summary)
        (y : SweepState × History), s.profile ∈ Profile.table →
        Work.Runs heard (run s) ({ tree }, []) o y →
        ∀ walk, candidates s tree = .ok walk → ∀ file ∈ walk.files, ∀ stored bytes,
        .asked (.read file stored) (.ok bytes) ∈ y.2 →
        String.ofList (Text.decodeLossy bytes) = text →
        ∀ command launch, .asked (.launch command) launch ∈ y.2 → command.alters = false := by
  constructor
  · -- The check finds the call.
    intro files default read acts file hfile hextension hdefault hread scan
    rw [Check.run_scan]
    exact Check.exists_mem_findings_highRisk hfunction hcalls hdefault hfile hextension hread
  · -- And where a site is altered, no check has found one.
    rintro s tree o y hprofile hrun walk hwalk file hfile stored bytes hread rfl command launch
      hstarted
    rw [← Bool.not_eq_true]
    intro halters
    have hclean := clean_of_alters hprofile hrun hstarted halters hwalk hfile hread
    rw [String.toList_ofList] at hcalls
    obtain ⟨line, hline, hcall⟩ :=
      hcalls.exists_line (Check.highRisk_unbroken function hfunction)
    rw [← Pattern.found_callOf_iff, hclean function hfunction line hline] at hcall
    cases hcall

/-! ### Two layouts -/

/-- A site with a plugin whose only file has the text. -/
def treeOf (text : String) : FileSystem where
  entries := [(["p"], .directory), (["p", "p.php"], .file (Text.encode text))]
  cwd := []
  homes := []

/-- That file. -/
def onlyFile : Candidate := ⟨⟨"/", ["p", "p.php"]⟩, "p.php", ".php"⟩

/-- What the check of high-risk functions finds in the file. -/
def findingsOf (text : String) : List Finding :=
  ((Check.highRisk.scan [onlyFile] [".php"] (ScanAct.reader fun _ => .ok text)
    ScanAct.warner).run []).1.findings

/-- What happens in obliging surroundings when the plugin is swept. -/
def pastOf (text : String) : History :=
  (((run bareSettings).run.run { tree := treeOf text }).answer (obliging fun _ => false) []).2

theorem runs_pastOf (text : String) :
    ∃ o st, Work.Runs heard (run bareSettings) ({ tree := treeOf text }, []) o (st, pastOf text) :=
  ⟨_, _, Work.runs_answer (heard_obliging fun _ => false) (run bareSettings)
    { tree := treeOf text } []⟩

/-- The event is that the file has been read with this text. -/
def readsAs (text : String) : Event → Bool
  | .asked (.read file _) (.ok bytes) =>
    file == onlyFile && String.ofList (Text.decodeLossy bytes) == text
  | _ => false

theorem exists_reading {text : String} {past : History} (h : past.any (readsAs text) = true) :
    ∃ stored bytes, .asked (.read onlyFile stored) (.ok bytes) ∈ past ∧
      String.ofList (Text.decodeLossy bytes) = text := by
  obtain ⟨event, hmem, hreads⟩ := List.any_eq_true.mp h
  cases event with
  | told => cases hreads
  | asked question reply =>
    cases question with
    | read file stored =>
      cases reply with
      | error e => cases hreads
      | ok bytes =>
        obtain ⟨hfile, htext⟩ := Bool.and_eq_true_iff.mp hreads
        obtain rfl := eq_of_beq hfile
        exact ⟨stored, bytes, hmem, eq_of_beq htext⟩
    | _ => cases hreads

theorem any_altering_eq_false {past : History}
    (h : ∀ command launch, .asked (.launch command) launch ∈ past → command.alters = false) :
    past.any altering = false := by
  rw [List.any_eq_false]
  intro event hmem halters
  cases event with
  | told => cases halters
  | asked question reply =>
    cases question with
    | launch command => exact Bool.false_ne_true ((h command reply hmem).symm.trans halters)
    | _ => cases halters

/-- A call with a blank and a tab between the name and the parenthesis. -/
def blankText : String := "<?php\n@eval \t(1);"

theorem calls_blankText :
    Pattern.Calls Pattern.isInlineBlank "eval".toList blankText.toList := by
  have hsplit : blankText.toList =
      ['<', '?', 'p', 'h', 'p', '\n', '@'] ++
        ("eval".toList ++ ([' ', '\t'] ++ '(' :: ['1', ')', ';'])) := by
    decide +kernel
  rw [hsplit]
  refine ⟨_, _, _, rfl, ⟨?_, ?_, ?_⟩, ?_⟩
  · intro c hc
    obtain rfl : '@' = c := Option.some.inj hc
    exact ⟨by decide +kernel, by decide⟩
  · decide
  · decide
  · exact List.all_eq_true.mp (by decide)

theorem onlyFile_listed :
    ∃ walk, candidates bareSettings (treeOf blankText) = .ok walk ∧ onlyFile ∈ walk.files := by
  have hlisted : (candidates bareSettings (treeOf blankText)).toOption.any
      (·.files.contains onlyFile) = true := by decide +kernel
  cases hwalk : candidates bareSettings (treeOf blankText) with
  | error e =>
    rw [hwalk] at hlisted
    cases hlisted
  | ok walk =>
    rw [hwalk] at hlisted
    exact ⟨walk, rfl, List.contains_iff_mem.mp hlisted⟩

/-- The call is found, and the plugin is not touched. -/
theorem inline_call_held_back_blanks :
    "eval" ∈ Check.highRiskFunctions ∧ findingsOf blankText ≠ [] ∧
      (pastOf blankText).any altering = false := by
  have heval : "eval" ∈ Check.highRiskFunctions := by decide
  obtain ⟨hfinds, hheld⟩ := inline_call_held_back heval calls_blankText
  refine ⟨heval, ?_, ?_⟩
  · obtain ⟨found, hfound, -⟩ := hfinds [onlyFile] [".php"] (fun _ => .ok blankText) [] onlyFile
      (List.mem_singleton_self _) rfl (List.mem_singleton_self _) rfl
    exact List.ne_nil_of_mem hfound
  · obtain ⟨o, st, hrun⟩ := runs_pastOf blankText
    obtain ⟨walk, hwalk, hlisted⟩ := onlyFile_listed
    have hread : (pastOf blankText).any (readsAs blankText) = true := by decide +kernel
    obtain ⟨stored, bytes, hmem, htext⟩ := exists_reading hread
    apply any_altering_eq_false
    exact hheld bareSettings _ _ _ (List.mem_cons_self ..) hrun walk hwalk onlyFile hlisted
      stored bytes hmem htext

/-- A call that is broken between the name and the parenthesis. -/
def brokenText : String := "<?php\neval\n(1);"

theorem calls_brokenText : Pattern.Calls Text.isBlank "eval".toList brokenText.toList := by
  have hsplit : brokenText.toList =
      ['<', '?', 'p', 'h', 'p', '\n'] ++ ("eval".toList ++ (['\n'] ++ '(' :: ['1', ')', ';'])) := by
    decide +kernel
  rw [hsplit]
  refine ⟨_, _, _, rfl, ⟨?_, ?_, ?_⟩, ?_⟩
  · intro c hc
    obtain rfl : '\n' = c := Option.some.inj hc
    exact ⟨by decide +kernel, by decide⟩
  · decide
  · decide
  · exact List.all_eq_true.mp (by decide)

/-- The call is in no line, so it is not found, and the plugin is tried out. -/
theorem broken_call_unnoticed :
    "eval" ∈ Check.highRiskFunctions ∧
      Pattern.Calls Text.isBlank "eval".toList brokenText.toList ∧
      findingsOf brokenText = [] ∧ (pastOf brokenText).any altering = true := by
  have hnone : findingsOf brokenText = [] := by decide +kernel
  have htried : (pastOf brokenText).any altering = true := by decide +kernel
  exact ⟨by decide, calls_brokenText, hnone, htried⟩

end Sweep

end PluginSweep
