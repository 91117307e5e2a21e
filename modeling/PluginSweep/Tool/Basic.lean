/-
PluginSweep/Tool/Basic.lean

External tools: the commands that start them, what can come of starting one,
and what a caller gets to know.  A tool that ran, whatever its exit code, has
a result; one that could not be started or did not end in time is a failure.
Output that is no text is neither.
-/
import PluginSweep.OsError
import PluginSweep.Text.Lines
import PluginSweep.Text.Utf8

namespace PluginSweep

/-! ### Commands -/

/-- What is asked of the tool that manages a site. -/
inductive SiteAction
  /-- Is there a site? -/
  | isInstalled
  /-- Is the plugin active? -/
  | isActive (slug : String)
  | activate (slug : String) (quiet : Bool)
  | deactivate (slug : String) (quiet : Bool)
  | setFlag (name value : String)
  deriving DecidableEq, Repr

/-- The words of the action. -/
def SiteAction.words : SiteAction → List String
  | isInstalled => ["core", "is-installed", "--quiet"]
  | isActive slug => ["plugin", "is-active", slug]
  | activate slug quiet => ["plugin", "activate", slug] ++ if quiet then ["--quiet"] else []
  | deactivate slug quiet => ["plugin", "deactivate", slug] ++ if quiet then ["--quiet"] else []
  | setFlag name value => ["config", "set", name, value, "--raw", "--quiet"]

/-- A check of coding standards. -/
structure StandardsCheck where
  binary : String
  root : String
  standard : String
  /-- The names of directories that are left out. -/
  exclusions : List String
  /-- The parts of the standard that are left out. -/
  sniffs : List String
  /-- The version of the language to be checked for, where it matters. -/
  version : Option String
  deriving DecidableEq, Repr

/-- The pattern of paths to be ignored, for directories of the given names. -/
def ignorePatterns (exclusions : List String) : String :=
  ",".intercalate
    ((exclusions.mergeSort fun a b => decide (a ≤ b)).map fun name => "*/" ++ name ++ "/*")

/-- The words of the command. -/
def StandardsCheck.words (c : StandardsCheck) : List String :=
  [c.binary, c.root, "--standard=" ++ c.standard] ++
    (match c.version with
      | some v => if v.isEmpty then [] else ["--runtime-set", "testVersion", v]
      | none => []) ++
    ["--extensions=php", "--ignore=" ++ ignorePatterns c.exclusions] ++
    (if c.sniffs.isEmpty then [] else ["--exclude=" ++ ",".intercalate c.sniffs]) ++
    ["--report=full"]

/-- A command. -/
inductive Command
  /-- Checks a plugin against a standard. -/
  | standards (check : StandardsCheck)
  /-- Checks the syntax of a file. -/
  | lint (binary path : String)
  /-- Manages a site. -/
  | site (binary root : String) (action : SiteAction)
  /-- Any other command. -/
  | other (words : List String)
  deriving DecidableEq, Repr

namespace Command

/-- The words of a command. -/
def words : Command → List String
  | standards check => check.words
  | lint binary path => [binary, "-d", "detect_unicode=0", "-l", path]
  | site binary root action => [binary, "--path=" ++ root] ++ action.words
  | other words => words

/-- The name of the tool. -/
def toolName (c : Command) : String :=
  c.words.headD ""

end Command

/-! ### What comes of a command -/

/-- What comes of starting a tool. -/
inductive Launch
  /-- It ended with an exit code and wrote to its two streams, if it has them. -/
  | exited (code : Int) (out err : Option String)
  /-- It did not end in time. -/
  | timedOut
  /-- There is no such tool. -/
  | missing
  /-- The operating system refused to start it. -/
  | refused (reason : String)
  /-- It wrote bytes that are no text. -/
  | undecodable
  deriving DecidableEq, Repr

/-- The text that a tool wrote, if the bytes are one. -/
def decodeOutput (bytes : List UInt8) : Option String :=
  (Text.decode bytes).map fun text => String.ofList (Text.plainNewlines text)

/-- What the operating system has to say about a tool that was started: the bytes that it wrote
to its two streams, where these were captured. -/
inductive Execution
  | exited (code : Int) (out err : Option (List UInt8))
  | timedOut
  | missing
  | refused (reason : String)
  deriving DecidableEq, Repr

/-- The text in a stream, if there is one; it is none at all if the bytes are no text. -/
def decodeStream : Option (List UInt8) → Option (Option String)
  | none => some none
  | some bytes => (decodeOutput bytes).map some

/-- What that is to a caller who wants text. -/
def Execution.launch : Execution → Launch
  | exited code out err =>
    match decodeStream out, decodeStream err with
    | some out, some err => .exited code out err
    | _, _ => .undecodable
  | timedOut => .timedOut
  | missing => .missing
  | refused reason => .refused reason

/-- What comes of a tool that ended with an exit code and wrote bytes to its two streams. -/
def Launch.ofBytes (code : Int) (out err : List UInt8) : Launch :=
  (Execution.exited code (some out) (some err)).launch

/-- A tool that ran. -/
structure ToolResult where
  command : Command
  exitCode : Int
  out : String := ""
  err : String := ""
  deriving DecidableEq, Repr

namespace ToolResult

/-- The tool has nothing to complain about. -/
def ok (r : ToolResult) : Bool := r.exitCode == 0

/-- All that the tool wrote. -/
def output (r : ToolResult) : String := r.out ++ r.err

end ToolResult

/-- Why a step could not be carried out. -/
inductive StepFailure
  /-- The tool did not end within the seconds. -/
  | timedOut (tool : String) (seconds : Int)
  | notFound (tool : String)
  | notStarted (tool reason : String)
  /-- A site is being tried out by the same process. -/
  | siteBusy (site : String)
  /-- A site is being tried out by another holder of the lock file. -/
  | siteLocked (site lockFile : String)
  deriving DecidableEq, Repr

/-- The wording of the failure. -/
def StepFailure.message : StepFailure → String
  | timedOut tool seconds => "'" ++ tool ++ "' timed out after " ++ Text.integer seconds ++ "s"
  | notFound tool => "'" ++ tool ++ "' not found on PATH"
  | notStarted tool reason => "'" ++ tool ++ "' failed to start: " ++ reason
  | siteBusy site => "Another activation probe is running against " ++ site
  | siteLocked site lockFile =>
    "Another activation probe is running against " ++ site ++ " (lock: " ++ lockFile ++ ")"

/-- Why a caller does not get the result of a tool. -/
inductive LaunchError
  | failure (f : StepFailure)
  /-- The output is no text. -/
  | undecodable
  deriving DecidableEq, Repr

/-- What the caller gets to know, `seconds` being the time that the tool was given. -/
def Launch.result (seconds : Int) (c : Command) : Launch → Except LaunchError ToolResult
  | exited code out err => .ok ⟨c, code, out.getD "", err.getD ""⟩
  | timedOut => .error (.failure (.timedOut c.toolName seconds))
  | missing => .error (.failure (.notFound c.toolName))
  | refused reason => .error (.failure (.notStarted c.toolName reason))
  | undecodable => .error .undecodable

end PluginSweep
