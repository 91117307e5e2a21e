/-
PluginSweep/CommandLine/Session.lean

What the program does for a command line, on any console: it lists the rules of
a profile, tells its version, or runs a sweep, announcing each step, and shows
what it amounts to.  A sweep ends with an exit code of one when the plugin or the site
is not there, when the plugin could not be put back as it was, when every step
failed, and when the run was told to end.
-/
import PluginSweep.CommandLine.Console
import PluginSweep.Sweep

namespace PluginSweep.CommandLine

/-- What the program takes from its environment. -/
structure Environment where
  /-- The directory for reports; an empty text chooses none. -/
  reportBase : String := ""
  /-- The time that reports show. -/
  time : String
  /-- How long a tool may take. -/
  seconds : Int := 120
  lockDirectory : Path
  deriving Repr

/-- Why a session breaks off. -/
inductive Failure
  | target (e : TargetError)
  | path (e : FileSystem.PathError)
  | sweep (e : SweepError)
  | markup (e : MarkupError)
  deriving DecidableEq, Repr

/-- The wording of the reason. -/
def Failure.message : Failure → String
  | target e => e.message
  | path e => e.message
  | sweep e => e.message
  | markup e => e.message

/-- How a session ends. -/
inductive Ending
  | exit (code : Nat)
  | broken (f : Failure)
  deriving DecidableEq, Repr

/-- The exit code of the program. -/
def Ending.code : Ending → Nat
  | exit code => code
  | broken _ => 1

/-- How a session ends that is through, or that ended early. -/
def Ending.ofOutcome : Except Ending Unit → Ending
  | .ok () => .exit 0
  | .error ending => ending

/-- A session, which may end early. -/
abbrev Session := ExceptT Ending (StateT FileSystem Asking)

variable [Console]

namespace Session

/-! ### Showing -/

/-- Asks the surroundings. -/
def asking {α : Type} (work : Asking α) : Session α :=
  ExceptT.lift (StateT.lift work)

/-- Shows a text with style marks. -/
def say (text : String) : Session Unit :=
  match Console.plain text with
  | .ok shown => asking (Asking.print shown)
  | .error e => throw (.broken (.markup e))

/-- Shows a text with style marks and ends the session. -/
def stop {α : Type} (text : String) : Session α := do
  say text
  throw (.exit 1)

/-- What is shown when a signal arrives. -/
def signalNotice (signal : String) : String :=
  "\nReceived " ++ signal ++ ", finishing current check..."

/-- The announcement of a step, with style marks. -/
def announcement (message : String) : String :=
  "[bold blue]>[/] " ++ message

/-- Shows what a sweep announces; an announcement that cannot be shown breaks it off. -/
def announcing {α : Type} (work : Asking α) : ExceptT MarkupError Asking α :=
  work.carryOut fun
    | .announce message => do
      let shown ← match Console.plain (announcement message) with
        | .ok shown => pure shown
        | .error e => throw e
      ExceptT.lift (Asking.print shown)
    | other => ExceptT.lift (Asking.request other)

/-- Shows a table. -/
def showTable (t : Table) : Session Unit :=
  match Console.lines t with
  | .ok lines => asking (Asking.print ("\n".intercalate lines))
  | .error e => throw (.broken (.markup e))

/-- The style in which a rating is shown. -/
def styleOf (label : String) : String :=
  if label == "OK" then "green"
  else if label == "Info" then "cyan"
  else if label == "Review" then "yellow"
  else if label == "Critical" then "bold red"
  else if label == "Error" then "red"
  else "white"

/-! ### Versions and rules -/

/-- The version of the program. -/
def version : String := "1.0.0"

/-- The row of a check in the list of rules. -/
def checkRow (name : String) : List String :=
  match Check.find? name with
  | some c => [name, c.severity.word, ", ".intercalate (c.rules.map (·.name))]
  | none => [name, "", ""]

/-- Lists the checks and tools of a profile. -/
def showRules (p : Profile) : Session Unit := do
  showTable {
    title := "Profile: " ++ p.name
    header := ["Check", "Severity", "Rules"]
    rows := p.checks.map checkRow ++
      p.tools.map fun name => [name, "tool", (Tool.title? name).getD ""] }
  say ("  [dim]" ++ p.description ++ "[/]")

/-! ### Sweeps -/

/-- The directory for the reports on all plugins. -/
def reportBase (env : Environment) (fs : FileSystem) (o : SweepOptions) :
    Except FileSystem.PathError Path :=
  match (o.reportBase.filter (!·.isEmpty)).or
      (if env.reportBase.isEmpty then none else some env.reportBase) with
  | some given => fs.resolve given
  | none => .ok ((FileSystem.pathOf fs.cwd).child o.profile.reportDirectory)

/-- The names of directories that are left out: those of the profile, and the first on the
way from the plugin to the reports, where they are inside it. -/
def exclusions (p : Profile) (target : Target) (base : Path) : List String :=
  p.exclusionSet <| match base.relativeTo? target.root with
    | some inside => inside.names.take 1
    | none => []

/-- Everything that a sweep is given. -/
def settings (env : Environment) (fs : FileSystem) (o : SweepOptions) (target : Target) :
    Except FileSystem.PathError Settings := do
  let base ← reportBase env fs o
  let siteRoot ←
    if o.profile.activation && o.activation then
      some <$> target.siteRoot fs o.siteRoot
    else pure none
  let reportDirectory ← target.reportDirectory fs base.toString
  pure {
    target
    profile := o.profile
    reportDirectory
    exclusions := exclusions o.profile target base
    languageVersion := o.languageVersion
    siteRoot
    seconds := env.seconds
    time := env.time
    lockDirectory := env.lockDirectory }

/-- What is shown before a sweep. -/
def heading (s : Settings) : String :=
  "[bold]WordPress Plugin QA[/] (" ++ s.profile.name ++ ")\n" ++
    "Plugin: [cyan]" ++ s.target.name ++ "[/]\n" ++
    "Plugin root: " ++ s.target.root.toString ++ "\n" ++
    "Reports: " ++ s.reportDirectory.toString

/-- The row of a section. -/
def sectionRow (s : Section) : List String :=
  let label := s.severityLabel
  [s.name, s.countCell, "[" ++ styleOf label ++ "]" ++ label ++ "[/]", s.artifact]

/-- What is shown of trying the plugin out. -/
def probeNotice (s : Summary) : Option String :=
  match s.skipReason, s.probe with
  | some reason, _ => some ("  [bold red]Activation tests skipped: " ++ reason ++ "[/]")
  | none, some probe =>
    some <| if probe.passed then "  [green]Plugin activation/deactivation check passed[/]"
      else "  [red]Plugin activation/deactivation check FAILED[/]"
  | none, none => none

/-- Shows what a sweep amounts to. -/
def showSummary (s : Summary) (reportDirectory : Path) : Session Unit := do
  showTable {
    title := "QA Summary: " ++ s.target.name
    header := ["Check", "Count", "Severity", "Report"]
    rows := s.sections.map sectionRow }
  say ("\n  PHP files: " ++ Text.integer s.statistics.files ++ " | Lines: " ++
    Text.thousands s.statistics.lines ++ " | Findings: " ++ Text.decimal s.totalFindings)
  if let some notice := probeNotice s then say notice
  if s.interrupted then say "  [yellow]Run interrupted: reports are partial[/]"
  say ("\n  Reports: " ++ reportDirectory.toString)
  say ("  Quick view: cat " ++ (reportDirectory.child Report.summaryFile).toString)

/-- Runs a sweep on the tree of the session. -/
def sweep (s : Settings) : Session (Except SweepError Summary) := do
  let tree ← get
  match ← asking (announcing ((Sweep.run s).run.run { tree })).run with
  | .ok (outcome, state) =>
    set state.tree
    pure outcome
  | .error e => throw (.broken (.markup e))

/-- The plugin that is to be swept. -/
def target (given : String) : Session Target := do
  match Target.resolve (← get) given with
  | .ok t => pure t
  | .error e@(.path _) => throw (.broken (.target e))
  | .error e => stop ("[red]Error: " ++ e.message ++ "[/]")

/-- The settings for the sweep of a plugin. -/
def prepare (env : Environment) (o : SweepOptions) : Session Settings := do
  let target ← target o.plugin
  match settings env (← get) o target with
  | .ok s => pure s
  | .error e => throw (.broken (.path e))

/-- Shows what came of a sweep, and ends the session if that is not as it should be. -/
def report (s : Settings) : Except SweepError Summary → Session Unit
  | .error e@(.noSite _) => stop ("[red]Error: " ++ e.message ++ "[/]")
  | .error e@(.notRestored ..) =>
    stop ("[bold red]Plugin state could not be restored: " ++ e.message ++ "[/]")
  | .error e => throw (.broken (.sweep e))
  | .ok summary => do
    showSummary summary s.reportDirectory
    if summary.allFailed then stop "[red]Every check failed.[/]"
    if summary.interrupted then throw (.exit 1)

/-- Sweeps a plugin, up to what comes of it. -/
def attempt (env : Environment) (o : SweepOptions) :
    Session (Settings × Except SweepError Summary) := do
  let s ← prepare env o
  say (heading s)
  pure (s, ← sweep s)

/-- Sweeps a plugin. -/
def runSweep (env : Environment) (o : SweepOptions) : Session Unit := do
  let (s, outcome) ← attempt env o
  report s outcome

/-- Does what is asked for. -/
def perform (env : Environment) : Invocation → Session Unit
  | .help => pure ()
  | .version => say ("[bold cyan]wpqa[/] v" ++ version)
  | .rules p => showRules p
  | .sweep o => runSweep env o

end Session

/-- Does what the words of a command line ask for, in the given tree. -/
def run (env : Environment) (words : List String) : StateT FileSystem Asking Ending := do
  match Console.parse words with
  | .error _ => pure (.exit 1)
  | .ok invocation => pure (Ending.ofOutcome (← (Session.perform env invocation).run))

end PluginSweep.CommandLine
