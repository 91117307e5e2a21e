/-
PluginSweep/CommandLine/Table.lean

Tables on the command line.  A table is as wide as its columns need to be for
the widest of their cells; its title has no part in that, and is broken into
lines that are no wider than the table.
-/
import PluginSweep.CommandLine.Markup
import PluginSweep.Text.Fold

namespace PluginSweep.CommandLine

/-- A table; all its texts may hold style marks. -/
structure Table where
  title : String
  header : List String
  rows : List (List String)
  deriving DecidableEq, Repr

namespace Table

/-- How many blanks stand around a cell. -/
def padding : Nat := 2

/-- The width of the widest cell in each column. -/
def columnWidths (rows : List (List String)) : List Nat :=
  rows.foldl (fun widths row =>
    let cells := row.map fun cell => Text.cells cell.toList
    (widths.zipWith max cells) ++ widths.drop cells.length ++ cells.drop widths.length) []

/-- The width of a table with its frame, where the columns have the given widths. -/
def width (columns : List Nat) : Nat :=
  columns.foldl (fun total column => total + column + padding) 0 + columns.length + 1

/-- The lines of a title. -/
def titleLines (width : Nat) (title : String) : List String :=
  (title.splitOn "\n").flatMap fun line =>
    (Text.fold width (Text.expandTabs line.toList)).map String.ofList

/-- A row as it is shown. -/
def rowLine (cells : List String) : String :=
  "  ".intercalate cells

/-- The lines of a table. -/
def lines (t : Table) : Except MarkupError (List String) := do
  let title ← Markup.plain t.title
  let rows ← (t.header :: t.rows).mapM fun row => row.mapM Markup.plain
  pure (titleLines (width (columnWidths rows)) title ++ rows.map rowLine)

end Table

end PluginSweep.CommandLine
