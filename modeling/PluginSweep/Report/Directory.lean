/-
PluginSweep/Report/Directory.lean

The directory that holds the reports of a run.  It is prepared by making it,
if need be, and removing the reports of an earlier run; then each section, the
statistics and the summary are written into files of their own.
-/
import PluginSweep.Report.Render
import PluginSweep.Text.Digit

namespace PluginSweep.Report

/-! ### Preparing -/

/-- A name without the line feed at its end, if there is one. -/
def withoutFinalBreak (name : List Char) : List Char :=
  if name.getLast? = some '\n' then name.dropLast else name

/-- The name is that of a report: two digits, a hyphen, one or more characters other than a
line feed, and `.txt`. -/
def isArtifactName (name : String) : Bool :=
  match withoutFinalBreak name.toList with
  | a :: b :: '-' :: rest =>
    let suffix := ".txt".toList
    Text.isDigit a && Text.isDigit b && suffix.isSuffixOf rest &&
      suffix.length < rest.length && !rest.contains '\n'
  | _ => false

/-- Makes the directory and removes the reports that it holds. -/
def prepare (dir : Path) : FileWork Unit := do
  FileSystem.ensurePath dir
  for name in ← FileSystem.listing dir do
    let path := dir.append ⟨"", [name]⟩
    if (← FileSystem.testFile path) && isArtifactName name then
      FileSystem.unlink path

/-! ### Writing -/

/-- The descriptions of sections, by name. -/
abbrev Descriptions := List (String × String)

/-- The descriptions of the checks and of the syntax check. -/
def descriptions : Descriptions :=
  Check.table.map (fun c => (c.name, c.description)) ++ [(Tool.lint, "Files failing php -l")]

/-- Writes a report and returns the path of its file.  Every text can be written: the names of
files in it are Unicode, as all names are here, so that there is nothing in it without an
encoding. -/
def writeText (dir : Path) (name text : String) : FileWork Path := do
  let path := dir.child name
  FileSystem.write path (Text.encode text)
  pure path

/-- The section with the name of its file. -/
def withArtifact (index : Int) (s : Section) : Section :=
  { s with artifact := artifactName index s }

/-- Writes the report on one section, which knows its file already. -/
def writeSection (time : String) (dir : Path) (s : Section) (description : String) :
    FileWork Path :=
  writeText dir s.artifact (renderSection time s description)

/-- Writes the statistics. -/
def writeStatistics (time : String) (dir : Path) (s : Summary) : FileWork Path :=
  writeText dir statisticsFile (renderStatistics time s)

/-- Writes the summary. -/
def writeSummary (time : String) (dir : Path) (s : Summary) : FileWork Path :=
  writeText dir summaryFile (renderSummary time s)

/-- Writes the reports on sections, the first of which gets the number `index`; beside the
paths of the files it returns the sections, each with the name of its file from the moment
at which writing it was tried. -/
def writeSectionsFrom (time : String) (dir : Path) (known : Descriptions) :
    (index : Nat) → List Section → StateM FileSystem (Except OsError (List Path) × List Section)
  | _, [] => pure (.ok [], [])
  | index, s :: rest => do
    let named := withArtifact index s
    match ← (writeSection time dir named ((known.lookup s.name).getD "")).run with
    | .error e => pure (.error e, named :: rest)
    | .ok path =>
      let (written, sections) ← writeSectionsFrom time dir known (index + 1) rest
      pure (written.map (path :: ·), named :: sections)

/-- Writes the statistics and the reports on all sections. -/
def writeSections (time : String) (dir : Path) (known : Descriptions) (s : Summary) :
    StateM FileSystem (Except OsError (List Path) × Summary) := do
  match ← (writeStatistics time dir s).run with
  | .error e => pure (.error e, s)
  | .ok path =>
    let (written, sections) ← writeSectionsFrom time dir known 1 s.sections
    pure (written.map (path :: ·), { s with sections })

end PluginSweep.Report
