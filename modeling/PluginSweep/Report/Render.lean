/-
PluginSweep/Report/Render.lean

The reports as text.  Each starts with its title, a line of equal signs of the
same length and the time at which it was made, and ends with a line feed.

The findings of a section are listed under the names of their rules, a blank
line between one rule and the next.
-/
import PluginSweep.Summary

namespace PluginSweep.Report

/-! ### Parts that reports share -/

/-- The thin rule. -/
def thinRule : String := String.ofList (List.replicate 68 '─')

/-- The heavy rule. -/
def heavyRule : String := String.ofList (List.replicate 68 '═')

/-- What is shown where there is nothing to show. -/
def noneFound : String := "None found"

/-- The lines with which a report starts, `time` being the time at which it is made. -/
def header (time title : String) : List String :=
  [title, String.ofList (List.replicate title.length '='), "Generated: " ++ time, ""]

/-- The lines that start a part of the summary. -/
def banner (title : String) : List String :=
  ["", heavyRule, title, heavyRule]

/-- The text of the lines. -/
def textOf (lines : List String) : String :=
  "\n".intercalate lines ++ "\n"

/-! ### Sections -/

/-- The name of the file for the section with the given number. -/
def artifactName (index : Int) (s : Section) : String :=
  Text.twoDigits index ++ "-" ++ s.name ++ ".txt"

/-- The lines for findings, where `current` is the rule of the finding before them. -/
def findingLines : Option String → List Finding → List String
  | _, [] => []
  | current, f :: rest =>
    (if current = some f.rule then []
      else (if current = none then [] else [""]) ++ ["[" ++ f.rule ++ "]"]) ++
    ("   " ++ f.render) :: findingLines (some f.rule) rest

/-- The lines on the files that were not scanned. -/
def skippedLines (s : Section) : List String :=
  if s.skipped.isEmpty then []
  else "Files not scanned:" :: s.skipped.map ("   " ++ ·) ++ [""]

/-- The lines on what the step brought. -/
def outcomeLines (s : Section) : List String :=
  match s.error, s.rawOutput with
  | some e, _ => ["Check failed: " ++ e]
  | none, some output =>
    let shown := Text.trimLineFeeds output
    [if shown.isEmpty then noneFound else shown, "", thinRule,
      "Exit code: " ++ (s.exitCode.map Text.integer).getD "None"]
  | none, none =>
    (if s.findings.isEmpty then [noneFound] else findingLines none s.findings) ++
      ["", thinRule, "Total: " ++ Text.decimal s.count]

/-- The report on one section. -/
def renderSection (time : String) (s : Section) (description : String) : String :=
  textOf <| header time s.title ++
    (if description.isEmpty then [] else [description ++ ":", ""]) ++
    (if s.notes.isEmpty then [] else s.notes ++ [""]) ++
    skippedLines s ++ outcomeLines s

/-! ### Statistics and summary -/

/-- The names of the directories that were left out. -/
def exclusionLine (s : Summary) : String :=
  "Excluded Directories: " ++ " ".intercalate s.exclusions

/-- The lines on the size of the plugin. -/
def sizeLines (s : Summary) : List String :=
  ["Total PHP Files: " ++ Text.integer s.statistics.files,
   "Total PHP Lines: " ++ Text.integer s.statistics.lines]

/-- The report on the size of the plugin. -/
def renderStatistics (time : String) (s : Summary) : String :=
  textOf <| header time "Plugin Statistics" ++ ["Plugin Name: " ++ s.target.name] ++
    sizeLines s ++ [exclusionLine s]

/-- The line above, between and below the rows of the table. -/
def tableBorder : String :=
  let dashes (n : Nat) := String.ofList (List.replicate n '-')
  "+-" ++ dashes 35 ++ "-+-" ++ dashes 8 ++ "-+-" ++ dashes 10 ++ "-+"

/-- A row of the table. -/
def tableRow (name count severity : String) : String :=
  "| " ++ Text.padRight 35 name ++ " | " ++ Text.padLeft 8 count ++ " | " ++
    Text.padRight 10 severity ++ " |"

/-- The table of sections. -/
def tableLines (sections : List Section) : List String :=
  [tableBorder, tableRow "Check" "Count" "Severity", tableBorder] ++
    sections.map (fun s => tableRow s.name s.countCell s.severityLabel) ++ [tableBorder]

/-- The recommendation for a section. -/
def recommendation? (s : Section) : Option String :=
  match Check.recommendations.lookup s.name with
  | none => none
  | some text =>
    if s.count = 0 then none
    else some (if s.artifact.isEmpty then text else text ++ " (see " ++ s.artifact ++ ")")

/-- What is to be done, section by section. -/
def recommendations (s : Summary) : List String :=
  s.sections.filterMap recommendation?

/-- What came of trying the plugin out. -/
def probeLines (s : Summary) : List String :=
  match s.skipReason, s.probe with
  | some reason, _ => ["Activation tests skipped: yes (" ++ reason ++ ")"]
  | none, none => ["Activation tests skipped: no (probe not run)"]
  | none, some probe =>
    ["Activation tests skipped: no",
      "Result: " ++ if probe.passed then "passed" else "FAILED"] ++ probe.steps.map ("  " ++ ·)

/-- What is said of a run that was told to end. -/
def interruptionNotice : List String :=
  banner "RUN INTERRUPTED" ++ ["Remaining checks were skipped; reports are partial."]

/-- The line on the files that a section leaves out. -/
def incompleteLine (s : Section) : String :=
  s.name ++ ": " ++ Text.decimal s.skipped.length ++ " file(s), see " ++
    if s.artifact.isEmpty then s.name else s.artifact

/-- A part of the summary that stands only where it has lines. -/
def optionalPart (title : String) (lines : List String) : List String :=
  if lines.isEmpty then [] else banner title ++ lines

/-- The name of the report on the size of the plugin. -/
def statisticsFile : String := "00-statistics.txt"

/-- The name of the summary. -/
def summaryFile : String := "00-SUMMARY.txt"

/-- The files that hold the details. -/
def detailFiles (s : Summary) : List String :=
  statisticsFile :: (s.sections.map (·.artifact)).filter (!·.isEmpty)

/-- The summary. -/
def renderSummary (time : String) (s : Summary) : String :=
  textOf <| header time "WordPress Plugin QA Summary" ++
    ["Plugin: " ++ s.target.name, "Plugin Path: " ++ s.target.root.toString,
      "Profile: " ++ s.profile, exclusionLine s] ++
    banner "STATISTICS" ++ sizeLines s ++
    banner "FINDINGS SUMMARY" ++ tableLines s.issues ++
    ["Total findings: " ++ Text.decimal s.totalFindings] ++
    optionalPart "SECURITY MEASURES FOUND"
      (s.measures.map fun m => m.title ++ ": " ++ Text.decimal m.count) ++
    optionalPart "CHECK FAILURES"
      (s.failures.map fun f => f.name ++ ": " ++ f.error.getD "") ++
    optionalPart "FILES NOT SCANNED"
      ((s.sections.filter (!·.skipped.isEmpty)).map incompleteLine) ++
    banner "ACTIVATION PROBE" ++ probeLines s ++
    (if s.interrupted then interruptionNotice else []) ++
    banner "DETAILED REPORTS" ++ detailFiles s ++
    banner "RECOMMENDATIONS" ++
    (let todo := recommendations s
      if todo.isEmpty then ["No action items."] else todo) ++
    ["", heavyRule]

end PluginSweep.Report
