/-
PluginSweep/CommandLine/Console.lean

The console: what stands between a session and its user.  It reads the words of
a command line, and it shows texts with style marks and tables.  What a session
does is independent of how a console does this, so a session is one on any
console (`Console`).

The console that is used reads options as `parse` does, and shows texts and
tables without colors.
-/
import PluginSweep.CommandLine.Arguments
import PluginSweep.CommandLine.Table

namespace PluginSweep.CommandLine

/-- A console. -/
class Console where
  /-- What the words of a command line ask for. -/
  parse : List String → Except UsageError Invocation
  /-- What is shown of a text with style marks. -/
  plain : String → Except MarkupError String
  /-- What is shown of a table, line by line. -/
  lines : Table → Except MarkupError (List String)
  /-- Only sweeps with built-in profiles can be asked for. -/
  builtIn {words : List String} {o : SweepOptions} (h : parse words = .ok (.sweep o)) :
    o.profile ∈ Profile.table

instance plainConsole : Console where
  parse := parse
  plain := Markup.plain
  lines := Table.lines
  builtIn := mem_table_of_parse

end PluginSweep.CommandLine
