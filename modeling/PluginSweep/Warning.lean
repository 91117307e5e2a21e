/-
PluginSweep/Warning.lean

What a sweep warns about.  A warning never stops anything: it says that a file
or directory was left out, that a step of the work failed and was recorded, or
that the run was told to end.
-/
import PluginSweep.Text.Column

namespace PluginSweep

/-- Something that a sweep warns about. -/
inductive Warning
  /-- A file that could not be read is not scanned. -/
  | fileSkipped (relpath error : String)
  /-- A directory that cannot be listed is left out. -/
  | directoryUnreadable (path reason : String)
  /-- A directory is met again on another way. -/
  | directoryRevisited (path : String)
  /-- A file counts no lines. -/
  | linesUncounted (relpath error : String)
  /-- A section was recorded although some files were not scanned. -/
  | filesUnscanned (name : String) (count : Nat)
  /-- A section was recorded as failed. -/
  | sectionFailed (name error : String)
  /-- A file was not checked for syntax errors. -/
  | lintSkipped (relpath error : String)
  /-- The site's command line tool cannot be started. -/
  | siteToolUnavailable (error : String)
  /-- A change of the plugin's state failed. -/
  | toggleFailed (label slug detail : String)
  /-- A debug flag could not be set. -/
  | flagFailed (label name value status : String)
  /-- The activation probe ended early. -/
  | probeFailed (error : String)
  /-- The activation probe is not run. -/
  | probeSkipped (plugin reason : String)
  /-- The run was told to end. -/
  | interrupted
  deriving DecidableEq, Repr

namespace Warning

/-- The part of the program that gives the warning. -/
def source : Warning → String
  | fileSkipped .. => "wpqa.scanner"
  | directoryUnreadable .. | directoryRevisited .. | linesUncounted .. => "wpqa.walker"
  | filesUnscanned .. | sectionFailed .. => "wpqa.aggregator"
  | lintSkipped .. | siteToolUnavailable .. => "wpqa.bridge"
  | toggleFailed .. | flagFailed .. => "wpqa.probe"
  | probeFailed .. | probeSkipped .. | interrupted => "wpqa.engine"

/-- The wording of the warning. -/
def message : Warning → String
  | fileSkipped relpath error => "Skipping " ++ relpath ++ ": " ++ error
  | directoryUnreadable path reason =>
    "Skipping unreadable directory " ++ path ++ ": " ++ reason
  | directoryRevisited path => "Symlink loop detected, skipping " ++ path
  | linesUncounted relpath error => "Cannot read " ++ relpath ++ ": " ++ error
  | filesUnscanned name count => name ++ ": " ++ Text.decimal count ++ " file(s) not scanned"
  | sectionFailed name error => name ++ " failed: " ++ error
  | lintSkipped relpath error => "php -l skipped " ++ relpath ++ ": " ++ error
  | siteToolUnavailable error => "WP-CLI unavailable: " ++ error
  | toggleFailed label slug detail => label ++ " " ++ slug ++ " failed: " ++ detail
  | flagFailed label name value status =>
    label ++ " " ++ name ++ "=" ++ value ++ " failed: " ++ status
  | probeFailed error => "Activation probe failed: " ++ error
  | probeSkipped plugin reason => "Skipping activation probe for " ++ plugin ++ ": " ++ reason
  | interrupted => "Run interrupted; finishing current check"

/-- The warning as one line of the log. -/
def text (w : Warning) : String :=
  w.source ++ ": " ++ w.message

end Warning

end PluginSweep
