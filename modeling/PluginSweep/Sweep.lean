/-
PluginSweep/Sweep.lean

A sweep: the run of a profile over one plugin.

If the plugin may be tried out, there must be a site to do so.  Then the files
are collected, and every check and tool of the profile is run in turn and
recorded as one section; once the run has been told to end, the steps that are
left are recorded as skipped.  The reports are written, and only then, if no
high-risk function was found or overlooked and the run is still to go on, the
plugin is tried out under the lock of its site.

Every file is read at most once, when the first check asks for it; what was
read then, or the refusal, is what every later check sees.
-/
import PluginSweep.Ledger
import PluginSweep.Probe
import PluginSweep.Report.Directory
import PluginSweep.Tool.Lint

namespace PluginSweep

/-! ### What a sweep is given -/

/-- The settings of a sweep. -/
structure Settings where
  target : Target
  profile : Profile
  reportDirectory : Path
  /-- The names of directories that are left out, in increasing order. -/
  exclusions : List String
  /-- The version of the language that the plugin is checked for. -/
  languageVersion : String := "7.4"
  /-- The site in which the plugin may be tried out, if there is one. -/
  siteRoot : Option Path := none
  /-- How long a tool may take. -/
  seconds : Int
  /-- The time that reports show. -/
  time : String
  /-- Where lock files are. -/
  lockDirectory : Path
  deriving Repr

namespace Settings

/-- The site in which the plugin is to be tried out. -/
def probedSite (s : Settings) : Option Site :=
  match s.profile.activation, s.siteRoot with
  | true, some root => some { root, seconds := s.seconds }
  | _, _ => none

end Settings

/-- Why a sweep has no summary. -/
inductive SweepError
  /-- There is no site at the root. -/
  | noSite (root : Path)
  /-- The plugin could not be put back as it was. -/
  | notRestored (slug : String) (wasActive : Bool) (cause : Option StepFailure)
  /-- The profile names a check or tool that is not known. -/
  | unknownStep (name : String)
  | alreadyRecorded (e : AlreadyRecorded)
  | refused (e : OsError)
  | path (e : FileSystem.PathError)
  /-- The output of a tool is no text. -/
  | undecodable
  deriving DecidableEq, Repr

/-- The wording of an error; output that is no text has none. -/
def SweepError.message : SweepError → String
  | noSite root => "WordPress not detected at " ++ root.toString
  | notRestored slug wasActive cause => Probe.notRestoredMessage slug wasActive cause
  | unknownStep name => name
  | alreadyRecorded e => e.message
  | refused e => e.message
  | path e => e.message
  | undecodable => ""

/-- What a sweep keeps while it runs: the tree of files, and what has been read.

The tree has in it what the sweep itself makes, writes and removes.  Lock files are not
among that: the steps towards a lock are requests, and what they do to the file of the lock
is done by the surroundings. -/
structure SweepState where
  tree : FileSystem
  sources : List (Path × Except OsError String) := []
  deriving Repr

/-- Work of a sweep. -/
abbrev Sweeping := ExceptT SweepError (StateT SweepState Asking)

namespace Sweep

/-! ### Single pieces of work -/

/-- Asks the surroundings. -/
def asking {α : Type} (work : Asking α) : Sweeping α :=
  ExceptT.lift (StateT.lift work)

/-- Changes the tree. -/
def changing {α : Type} (work : StateM FileSystem α) : Sweeping α := do
  let state ← get
  let (a, tree) := work.run state.tree
  set { state with tree }
  pure a

/-- Changes the tree; a refusal ends the sweep. -/
def filing {α : Type} (work : FileWork α) : Sweeping α := do
  match ← changing work.run with
  | .ok a => pure a
  | .error e => throw (.refused e)

/-- Records a section. -/
def record (l : Ledger) (s : Section) : Sweeping Ledger := do
  asking (Asking.warnAll s.warnings)
  match l.record s with
  | .ok l => pure l
  | .error e => throw (.alreadyRecorded e)

/-- The text of a file: as it was when it was first asked for. -/
def source (file : Candidate) : StateT SweepState Asking (Except OsError String) := do
  let state ← get
  match state.sources.lookup file.path with
  | some known => pure known
  | none =>
    let contents : Contents ←
      Asking.request (Request.read file (state.tree.read file.path))
    let text := contents.map fun bytes => String.ofList (Text.decodeLossy bytes)
    set { state with sources := (file.path, text) :: state.sources }
    pure text

/-! ### Checks -/

/-- The file that is run when the plugin is removed. -/
def uninstallFile : String := "uninstall.php"

/-- How many lines of that file are shown. -/
def previewLength : Nat := 50

/-- What is said about the removal of the plugin; a path that is too long to be looked at is
refused. -/
def uninstallNotes (root : Path) : StateT SweepState Asking (Except OsError (List String)) := do
  let tree := (← get).tree
  let path := root.child uninstallFile
  match ((FileSystem.testFile path).run.run tree).1 with
  | .error e => pure (.error e)
  | .ok false => pure (.ok [uninstallFile ++ " NOT found (ensure an uninstall hook exists)"])
  | .ok true =>
    let found := [uninstallFile ++ " found", "", "Content preview:", "----------------"]
    let contents : Contents ← Asking.request (Request.preview path (tree.read path))
    match contents with
    | .error e => pure (.ok (found ++ ["(unreadable: " ++ e.message ++ ")"]))
    | .ok bytes =>
      pure (.ok (found ++
        ((Text.lines (Text.decodeLossy bytes)).take previewLength).map String.ofList))

/-- The section of a check that has scanned the files, with what is to be said beside that. -/
def scannedSection (check : Check) (scan : Scan) : Except OsError (List String) → Section
  | .ok notes => .ofScan check scan.findings notes scan.skipped
  | .error e => .ofFailure check.name check.title check.severity e.message

/-- The section of a check. -/
def checkSection (s : Settings) (files : List Candidate) (check : Check) :
    StateT SweepState Asking Section := do
  let refusal : Option OsError ← Asking.request (Request.begin check.name)
  match refusal with
  | some e => pure (.ofFailure check.name check.title check.severity e.message)
  | none =>
    let scan ← check.scan files s.profile.sourceExtensions source
      fun w => StateT.lift (Asking.warn w)
    let notes ←
      if check.name = Check.uninstallName then uninstallNotes s.target.root else pure (.ok [])
    pure (scannedSection check scan notes)

/-! ### Tools -/

/-- The parts of the coding standards that are left out. -/
def excludedSniffs : List String :=
  ["WordPress.WP.I18n", "WordPress.NamingConventions.PrefixAllGlobals",
   "WordPress.Files.FileName", "WordPress.Classes.ClassFileName"]

/-- The check whether the plugin runs under a version of the language. -/
def compatibilityCheck (binary root : String) (exclusions : List String) (version : String) :
    StandardsCheck :=
  ⟨binary, root, "PHPCompatibility", exclusions, [], some version⟩

/-- The check of the coding standards. -/
def codingCheck (binary root : String) (exclusions : List String) : StandardsCheck :=
  ⟨binary, root, "WordPress", exclusions, excludedSniffs, none⟩

/-- The check against a standard that a tool step stands for. -/
def standardsOf? (s : Settings) (tool : String) : Option StandardsCheck :=
  if tool = Tool.compatibility then
    some (compatibilityCheck "phpcs" s.target.root.toString s.exclusions s.languageVersion)
  else if tool = Tool.codingStandards then
    some (codingCheck "phpcs" s.target.root.toString s.exclusions)
  else none

/-- How grave it is when a tool fails. -/
def toolSeverity (tool : String) : Severity :=
  if tool = Tool.lint then .critical else .review

/-- The title of a tool's section. -/
def toolTitle (s : Settings) (tool title : String) : String :=
  if tool = Tool.compatibility then title ++ " [PHP " ++ s.languageVersion ++ "]" else title

/-- The section on the files with syntax errors. -/
def lintSection (title : String) (o : LintOutcome) : Section where
  name := Tool.lint
  title
  severity := .critical
  findings := o.failing.map fun path => ⟨Tool.lint, path, none, "syntax error"⟩
  skipped := o.unchecked

/-- The section of a tool. -/
def toolSection (s : Settings) (files : List Candidate) (tool title : String) :
    Asking (Except LaunchError Section) := do
  let failed (f : StepFailure) : Section :=
    .ofFailure tool title (toolSeverity tool) f.message
  match standardsOf? s tool with
  | some check =>
    match ← Asking.launch s.seconds (.standards check) with
    | .ok r => pure (.ok (.ofOutput tool (toolTitle s tool title) r.output r.exitCode))
    | .error (.failure f) => pure (.ok (failed f))
    | .error .undecodable => pure (.error .undecodable)
  | none =>
    match ← Lint.run s.seconds "php" files with
    | .ok o => pure (.ok (lintSection title o))
    | .error (.failure f) => pure (.ok (failed f))
    | .error .undecodable => pure (.error .undecodable)

/-! ### Steps -/

/-- A step of a sweep. -/
inductive Step
  | check (check : Check)
  | tool (name title : String)
  deriving Repr

namespace Step

/-- The name of the step's section. -/
def name : Step → String
  | check c => c.name
  | tool name _ => name

/-- What the step is announced as. -/
def title : Step → String
  | check c => c.title
  | tool _ title => title

/-- How grave it is when the step fails. -/
def severity : Step → Severity
  | check c => c.severity
  | tool name _ => toolSeverity name

end Step

/-- The step of a check. -/
def checkStep (name : String) : Except SweepError Step :=
  match Check.find? name with
  | some check => .ok (.check check)
  | none => .error (.unknownStep name)

/-- The step of a tool. -/
def toolStep (name : String) : Except SweepError Step :=
  match Tool.title? name with
  | some title => .ok (.tool name title)
  | none => .error (.unknownStep name)

/-- The steps of a profile: its checks, then its tools. -/
def plan (p : Profile) : Except SweepError (List Step) := do
  pure ((← p.checks.mapM checkStep) ++ (← p.tools.mapM toolStep))

/-- Why a step is not run after the run has been told to end. -/
def skippedText : String := "skipped: run interrupted"

/-- The section of a step. -/
def stepSection (s : Settings) (files : List Candidate) : Step → Sweeping Section
  | .check check => ExceptT.lift (checkSection s files check)
  | .tool name title => do
    match ← asking (toolSection s files name title) with
    | .ok made => pure made
    | .error _ => throw .undecodable

/-- Takes a step, unless the run has been told to end. -/
def takeStep (s : Settings) (files : List Candidate) (step : Step) : Sweeping Section := do
  if ← asking Asking.cancelled then
    pure (.ofFailure step.name step.title step.severity skippedText)
  else
    asking (Asking.announce step.title)
    stepSection s files step

/-- Takes the steps in turn and records their sections. -/
def runSteps (s : Settings) (files : List Candidate) : List Step → Ledger → Sweeping Ledger
  | [], l => pure l
  | step :: rest, l => do
    let made ← takeStep s files step
    runSteps s files rest (← record l made)

/-! ### Trying the plugin out -/

/-- The name of the section on trying the plugin out. -/
def activationName : String := "activation"

/-- What is announced before the plugin is tried out. -/
def activationTitle : String := "Testing plugin activation & deactivation via WP-CLI"

/-- Tries the plugin out under the lock of its site.  The lock file is opened, emptied and
written to on the way, which the tree of the sweep does not show. -/
def lockedProbe (s : Settings) (site : Site) (key : String) :
    Asking (Except SweepError (Except StepFailure ProbeResult)) := do
  match ← Asking.locking (Lock.acquire s.lockDirectory key) with
  | .error (.busy f) => pure (.ok (.error f))
  | .error (.refused e) => pure (.error (.refused e))
  | .ok held =>
    let outcome ← Probe.run ⟨site, s.target.name, s.profile.debugActivation⟩
    Asking.locking (Lock.release held)
    match outcome with
    | .ok result => pure (.ok (.ok result))
    | .error (.failure f) => pure (.ok (.error f))
    | .error (.notRestored slug wasActive cause) =>
      pure (.error (.notRestored slug wasActive cause))
    | .error .undecodable => pure (.error .undecodable)

/-- The section on trying the plugin out, before anything has come of it. -/
def emptyProbeSection (s : Settings) : Section where
  name := activationName
  title := "Plugin Activation Probe (" ++ s.target.name ++ ")"
  severity := .review

/-- The lines of a probe's section. -/
def probeOutput (r : ProbeResult) : String :=
  Report.textOf <| r.steps ++
    if (Text.trimBlank r.debugOutput).isEmpty then []
    else ["", "WP_DEBUG activation output:", Text.trimLineFeeds r.debugOutput]

/-- The section on trying the plugin out. -/
def probeSection (s : Settings) : Except StepFailure ProbeResult → Section
  | .ok r =>
    { emptyProbeSection s with
      rawOutput := some (probeOutput r)
      exitCode := some (if r.passed then 0 else 1) }
  | .error f => { emptyProbeSection s with error := some f.message }

/-- Adds the section on trying the plugin out and writes it. -/
def addProbeSection (s : Settings) (summary : Summary) (made : Section) :
    Sweeping Summary := do
  let named := Report.withArtifact (summary.sections.length + 1) made
  let _ ← filing (Report.writeSection s.time s.reportDirectory named "")
  pure { summary with sections := summary.sections ++ [named] }

/-- Reports on trying the plugin out. -/
def reportProbe (s : Settings) (summary : Summary) :
    Except SweepError (Except StepFailure ProbeResult) → Sweeping Summary
  | .ok (.ok result) =>
    addProbeSection s { summary with probe := some result } (probeSection s (.ok result))
  | .ok (.error f) => do
    asking (Asking.warn (.probeFailed f.message))
    addProbeSection s summary (probeSection s (.error f))
  | .error e@(.notRestored ..) => do
    let summary ← addProbeSection s summary
      { emptyProbeSection s with error := some e.message }
    let _ ← filing (Report.writeSummary s.time s.reportDirectory summary)
    throw e
  | .error e => throw e

/-- Tries the plugin out and reports on it. -/
def probe (s : Settings) (site : Site) (summary : Summary) : Sweeping Summary := do
  let key ← match (← get).tree.canonical site.root with
    | .ok p => pure p.toString
    | .error e => throw (.path e)
  reportProbe s summary (← asking (lockedProbe s site key))

/-! ### The whole sweep -/

/-- The site in which the plugin is to be tried out, after making sure that there is one. -/
def precondition (s : Settings) : Sweeping (Option Site) := do
  match s.probedSite with
  | none => pure none
  | some site => match ← asking site.isInstalled with
    | .ok true => pure (some site)
    | .ok false => throw (.noSite site.root)
    | .error _ => throw .undecodable

/-- The files of the plugin that are swept. -/
def candidates (s : Settings) (tree : FileSystem) : Except OsError Walk :=
  tree.walk ⟨s.target.root, s.exclusions, some s.profile.sourceExtensions⟩

/-- The files of the plugin, and how many lines they have. -/
def collect (s : Settings) : Sweeping (List Candidate × Statistics) := do
  asking (Asking.announce ("Collecting files under " ++ s.target.root.toString))
  let tree := (← get).tree
  let walk ← match candidates s tree with
    | .ok walk => pure walk
    | .error e => throw (.refused e)
  asking (Asking.warnAll walk.warnings)
  let (statistics, warnings) := countLines (fun file => tree.read file.path) walk.files
  asking (Asking.warnAll warnings)
  pure (walk.files, statistics)

/-- The summary of a run whose steps are recorded. -/
def summarize (s : Settings) (l : Ledger) (statistics : Statistics) (interrupted : Bool) :
    Summary where
  target := s.target
  profile := s.profile.name
  exclusions := s.exclusions
  sections := l.sections
  statistics
  skipReason := l.obstacle.map Obstacle.reason
  interrupted

/-- Says that the plugin is not tried out, if it could be. -/
def warnSkipped (s : Settings) (site : Option Site) (summary : Summary) : Sweeping Unit :=
  match site, summary.skipReason with
  | some _, some reason => asking (Asking.warn (.probeSkipped s.target.name reason))
  | _, _ => pure ()

/-- Prepares the directory for reports and writes those on the steps. -/
def writeReports (s : Settings) (summary : Summary) : Sweeping Summary := do
  filing (Report.prepare s.reportDirectory)
  let (written, summary) ←
    changing (Report.writeSections s.time s.reportDirectory Report.descriptions summary)
  match written with
  | .ok _ => pure summary
  | .error e => throw (.refused e)

/-- Tries the plugin out, unless something stands against it. -/
def tryOut (s : Settings) (site : Option Site) (summary : Summary) : Sweeping Summary := do
  match site, summary.skipReason with
  | some site, none =>
    if ← asking Asking.cancelled then pure summary
    else
      asking (Asking.announce activationTitle)
      probe s site summary
  | _, _ => pure summary

/-- What a sweep has found out when the reports are begun. -/
structure Survey where
  /-- The site in which the plugin is to be tried out. -/
  site : Option Site
  ledger : Ledger
  statistics : Statistics
  /-- The run has been told to end. -/
  interrupted : Bool

/-- Everything before the reports. -/
def survey (s : Settings) : Sweeping Survey := do
  let site ← precondition s
  let (files, statistics) ← collect s
  let steps ← match plan s.profile with
    | .ok steps => pure steps
    | .error e => throw e
  let ledger ← runSteps s files steps {}
  pure ⟨site, ledger, statistics, ← asking Asking.cancelled⟩

/-- The reports, and trying the plugin out. -/
def conclude (s : Settings) (v : Survey) : Sweeping Summary := do
  let summary := summarize s v.ledger v.statistics v.interrupted
  warnSkipped s v.site summary
  let summary ← writeReports s summary
  let summary ← tryOut s v.site summary
  let _ ← filing (Report.writeSummary s.time s.reportDirectory summary)
  pure summary

/-- Runs a sweep. -/
def run (s : Settings) : Sweeping Summary := do
  conclude s (← survey s)

end Sweep

end PluginSweep
