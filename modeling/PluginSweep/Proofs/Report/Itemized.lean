/-
PluginSweep/Proofs/Report/Itemized.lean

The report on a scan, line by line.  The findings of a scan come rule by rule, and rules have
different names.  So comparing the rule of a finding with that of the finding before it, which is
all that the report does, puts the findings of each rule under one heading:

    [rule]
       path:line: text
       path:line: text

with a blank line between one rule and the next (`findingLines_flatMap`).

These are also the lines in which the text of the report is read, since nothing that enters them
has a break in it (`Unbroken`): a line of a source has none, and trimming leaves it so.  What is
shown of a source stands behind three blanks and can be taken for nothing else (`scan_itemized`).

The names of rules do not come from a source.  Where one has a break in it, the report can have
the same heading twice (`heading_stands_twice`).
-/
import PluginSweep.Proofs.Check.Batch
import PluginSweep.Proofs.Report.Numbers

namespace PluginSweep

/-! ### Texts without breaks -/

namespace Text

variable {s t : String} {text line : List Char} {c : Char}

/-- No character of the text ends a line. -/
def Unbroken (s : String) : Prop :=
  ∀ c ∈ s.toList, isLineBreak c = false

instance (s : String) : Decidable (Unbroken s) :=
  decidable_of_iff (s.toList.all fun c => !isLineBreak c) (by simp [Unbroken])

@[simp] theorem unbroken_append : Unbroken (s ++ t) ↔ Unbroken s ∧ Unbroken t := by
  simp only [Unbroken, String.toList_append, List.forall_mem_append]

/-- Trimming only takes characters away. -/
theorem mem_of_mem_trim (h : c ∈ trim line) : c ∈ line := by
  rw [trim, trimEnd, List.mem_reverse] at h
  have hend := List.mem_reverse.mp ((List.dropWhile_sublist _).subset h)
  exact (List.dropWhile_sublist _).subset hend

/-- A line has no break in it, and has none when it is trimmed. -/
theorem unbroken_trim (h : line ∈ lines text) : Unbroken (String.ofList (trim line)) := by
  obtain ⟨i, hi⟩ := List.mem_iff_getElem?.mp h
  obtain ⟨before, after, -, hstands, -⟩ := exists_stands hi
  intro c hc
  rw [String.toList_ofList] at hc
  exact hstands.plain c (mem_of_mem_trim hc)

theorem isLineBreak_of_isDigit (h : c.isDigit = true) : isLineBreak c = false := by
  have hnone : ['\n', '\r', '\x0b', '\x0c', '\x1c', '\x1d', '\x1e', '\u0085', '\u2028',
      '\u2029'].any Char.isDigit = false := by decide
  rw [← Bool.not_eq_true, isLineBreak, List.contains_iff_mem]
  exact fun hc => List.any_eq_false.mp hnone c hc h

theorem unbroken_decimal (n : Nat) : Unbroken (decimal n) := by
  intro c hc
  rw [Report.toList_decimal] at hc
  exact isLineBreak_of_isDigit (Report.isDigit_of_mem_toDigits hc)

theorem unbroken_integer (n : Int) : Unbroken (integer n) := by
  cases n with
  | ofNat n => exact unbroken_decimal n
  | negSucc n => exact unbroken_append.mpr ⟨by decide, unbroken_decimal _⟩

end Text

open Text (Unbroken)

/-- What a rule finds in a file is rendered without breaks, unless the path of the file has one. -/
theorem Rule.unbroken_render {r : Rule} {relpath text : String} {f : Finding}
    (hpath : Unbroken relpath) (h : f ∈ r.scan relpath text) : Unbroken f.render := by
  cases hpattern : r.linePattern with
  | some p =>
    rw [scan_eq_scanFrom hpattern] at h
    obtain ⟨i, line, hline, -, rfl⟩ := mem_scanFrom_iff.mp h
    have htext := Text.unbroken_trim (List.mem_of_getElem? hline)
    simp only [Finding.render, report, Text.unbroken_append]
    exact ⟨⟨⟨⟨hpath, by decide⟩, Text.unbroken_integer _⟩, by decide⟩, htext⟩
  | none =>
    rcases scan_of_linePattern_eq_none hpattern relpath text with heq | heq <;> rw [heq] at h
    · cases h
    · obtain rfl := List.mem_singleton.mp h
      simp only [Finding.render, Text.unbroken_append]
      exact ⟨⟨hpath, by decide⟩, by decide +kernel⟩

/-- The findings of a rule in a file come in the order of the lines. -/
theorem Rule.pairwise_scan (r : Rule) (relpath text : String) :
    (r.scan relpath text).Pairwise Finding.Above := by
  cases hpattern : r.linePattern with
  | some p =>
    rw [scan_eq_scanFrom hpattern]
    exact pairwise_scanFrom _
  | none =>
    rcases scan_of_linePattern_eq_none hpattern relpath text with heq | heq <;> rw [heq]
    · exact .nil
    · exact List.pairwise_singleton _ _

namespace Report

variable {ls ls' : List String} {rules : List Rule} {found : Rule → List Finding}

/-! ### Lines of texts -/

/-- The text of lines ends with the end of a line, whatever comes after it. -/
theorem closed_textOf (ls : List String) (after : List Char) :
    Text.Closed (textOf ls).toList ∧ Text.Untorn (textOf ls).toList after := by
  have hchars : (textOf ls).toList = ("\n".intercalate ls).toList ++ ['\n'] :=
    String.toList_append
  rw [hchars]
  exact ⟨(Text.closed_concat _).mpr rfl, by simp [Text.Untorn]⟩

theorem lines_textOf_append (h : ls ≠ []) (h' : ls' ≠ []) :
    Text.lines (textOf (ls ++ ls')).toList =
      Text.lines (textOf ls).toList ++ Text.lines (textOf ls').toList := by
  obtain ⟨hclosed, huntorn⟩ := closed_textOf ls (textOf ls').toList
  rw [textOf_append h h', String.toList_append, Text.lines_append hclosed huntorn]

/-- Lines without breaks are read back from their text. -/
theorem lines_textOf (h : ∀ l ∈ ls, Unbroken l) (hne : ls ≠ []) :
    Text.lines (textOf ls).toList = ls.map String.toList := by
  induction ls with
  | nil => exact absurd rfl hne
  | cons l ls ih =>
    obtain ⟨hl, hls⟩ := List.forall_mem_cons.mp h
    have hfirst : Text.lines (textOf [l]).toList = [l.toList] := by
      rw [textOf, String.intercalate_singleton, String.toList_append]
      exact Text.lines_unbroken_concat hl rfl
    by_cases hnil : ls = []
    · rw [hnil, hfirst]
      rfl
    · rw [← List.singleton_append, lines_textOf_append (List.cons_ne_nil _ _) hnil, hfirst,
        ih hls hnil]
      rfl

/-! ### Groups -/

/-- The line above the findings of a rule. -/
def heading (rule : String) : String :=
  "[" ++ rule ++ "]"

/-- The line of a finding. -/
def item (f : Finding) : String :=
  "   " ++ f.render

/-- The lines on what one rule has found. -/
def groupLines (rule : String) (fs : List Finding) : List String :=
  heading rule :: fs.map item

/-- The rules that have found something. -/
def reporting (rules : List Rule) (found : Rule → List Finding) : List Rule :=
  rules.filter fun r => !(found r).isEmpty

/-- The lines on what the rules have found, with a blank line between one rule and the next. -/
def groupedLines (rules : List Rule) (found : Rule → List Finding) : List String :=
  [""].intercalate ((reporting rules found).map fun r => groupLines r.name (found r))

theorem reporting_cons (r : Rule) :
    reporting (r :: rules) found =
      if (found r).isEmpty then reporting rules found else r :: reporting rules found := by
  rw [reporting, List.filter_cons]
  cases (found r).isEmpty <;> rfl

/-- Every group but the first has a blank line in front of it. -/
theorem intercalate_blank (group : List String) (groups : List (List String)) :
    [""].intercalate (group :: groups) = group ++ groups.flatMap ("" :: ·) := by
  induction groups generalizing group with
  | nil => simp
  | cons next groups ih =>
    rw [List.intercalate_cons_cons, ih, List.flatMap_cons]
    simp

/-- Further findings of the same rule go on in its group. -/
theorem findingLines_same {rule : String} {fs rest : List Finding}
    (h : ∀ f ∈ fs, f.rule = rule) :
    findingLines (some rule) (fs ++ rest) = fs.map item ++ findingLines (some rule) rest := by
  induction fs with
  | nil => rfl
  | cons f fs ih =>
    obtain ⟨hf, hfs⟩ := List.forall_mem_cons.mp h
    rw [List.cons_append, findingLines, hf, if_pos rfl, ih hfs]
    rfl

/-- Findings of another rule than the one before make a new group. -/
theorem findingLines_group {rule : String} {current : Option String} {fs rest : List Finding}
    (h : ∀ f ∈ fs, f.rule = rule) (hne : fs ≠ []) (hcurrent : current ≠ some rule) :
    findingLines current (fs ++ rest) =
      (if current = none then [] else [""]) ++ groupLines rule fs ++
        findingLines (some rule) rest := by
  obtain ⟨f, fs, rfl⟩ := List.exists_cons_of_ne_nil hne
  obtain ⟨hf, hfs⟩ := List.forall_mem_cons.mp h
  rw [List.cons_append, findingLines, hf, if_neg hcurrent, findingLines_same hfs]
  simp [groupLines, heading, item]

/-- After a group, what the other rules have found comes in groups of their own. -/
theorem findingLines_some (hfound : ∀ r, ∀ f ∈ found r, f.rule = r.name)
    (hnames : (rules.map (·.name)).Nodup) {rule : String} (hrule : rule ∉ rules.map (·.name)) :
    findingLines (some rule) (rules.flatMap found) =
      ((reporting rules found).map fun r => groupLines r.name (found r)).flatMap ("" :: ·) := by
  induction rules generalizing rule with
  | nil => rfl
  | cons r rules ih =>
    rw [List.map_cons, List.nodup_cons] at hnames
    rw [List.map_cons, List.mem_cons, not_or] at hrule
    rw [List.flatMap_cons, reporting_cons]
    by_cases hnil : found r = []
    · rw [hnil]
      exact ih hnames.2 hrule.2
    · have hother : (some rule : Option String) ≠ some r.name :=
        fun heq => hrule.1 (Option.some.inj heq)
      rw [findingLines_group (hfound r) hnil hother, ih hnames.2 hnames.1, if_neg (by simp),
        if_neg (by simpa using hnil), List.map_cons, List.flatMap_cons]
      simp

/-- **Findings that come rule by rule are listed in groups**, one for each rule that has found
something, if the rules have different names. -/
theorem findingLines_flatMap (hfound : ∀ r, ∀ f ∈ found r, f.rule = r.name)
    (hnames : (rules.map (·.name)).Nodup) :
    findingLines none (rules.flatMap found) = groupedLines rules found := by
  induction rules with
  | nil => rfl
  | cons r rules ih =>
    rw [List.map_cons, List.nodup_cons] at hnames
    rw [List.flatMap_cons, groupedLines, reporting_cons]
    by_cases hnil : found r = []
    · rw [hnil]
      exact ih hnames.2
    · rw [findingLines_group (hfound r) hnil (Option.some_ne_none _).symm,
        findingLines_some hfound hnames.2 hnames.1, if_pos rfl, if_neg (by simpa using hnil),
        List.map_cons, intercalate_blank]
      rfl

/-! ### Telling the lines apart -/

/-- The line is one above the findings of a rule. -/
def isHeading (line : String) : Bool :=
  "[".toList.isPrefixOf line.toList

theorem isHeading_heading (rule : String) : isHeading (heading rule) = true := by
  rw [isHeading, heading, String.toList_append, String.toList_append, List.isPrefixOf_iff_prefix,
    List.append_assoc]
  exact List.prefix_append _ _

theorem isHeading_eq_false {line : String} (h : line.toList.head? ≠ some '[') :
    isHeading line = false := by
  rw [isHeading, ← Bool.not_eq_true, List.isPrefixOf_iff_prefix]
  rintro ⟨rest, hrest⟩
  exact h (by rw [← hrest]; rfl)

theorem isHeading_item (f : Finding) : isHeading (item f) = false := by
  apply isHeading_eq_false
  simp [item]

theorem isFindingLine_item (f : Finding) : isFindingLine (item f) = true := by
  rw [isFindingLine, item, String.toList_append, List.isPrefixOf_iff_prefix]
  exact List.prefix_append _ _

theorem heading_inj {rule rule' : String} (h : heading rule = heading rule') : rule = rule' := by
  have hchars := congrArg String.toList h
  simp only [heading, String.toList_append, List.append_assoc] at hchars
  exact String.toList_inj.mp (List.append_cancel_right (List.append_cancel_left hchars))

theorem filter_groupLines (rule : String) (fs : List Finding) :
    (groupLines rule fs).filter isHeading = [heading rule] := by
  have hitems : (fs.map item).filter isHeading = [] := by
    refine List.filter_eq_nil_iff.mpr fun line hline => ?_
    obtain ⟨f, -, rfl⟩ := List.mem_map.mp hline
    rw [isHeading_item]
    exact Bool.false_ne_true
  rw [groupLines, List.filter_cons_of_pos (isHeading_heading rule), hitems]

/-- The headings are those of the rules that have found something. -/
theorem filter_groupedLines :
    (groupedLines rules found).filter isHeading =
      (reporting rules found).map fun r => heading r.name := by
  have hblank : isHeading "" = false := by
    decide
  rw [groupedLines]
  cases hreporting : reporting rules found with
  | nil => rfl
  | cons r rest =>
    rw [List.map_cons, intercalate_blank, List.filter_append, filter_groupLines,
      List.filter_flatMap, List.flatMap_map]
    simp [hblank, filter_groupLines, List.map_eq_flatMap]

/-! ### The report on a scan -/

/-- The lines with which the report on a section starts, before it comes to what the section
brings. -/
def opening (time title description : String) : List String :=
  header time title ++ if description.isEmpty then [] else [description ++ ":", ""]

/-- The lines show what the rules have found, and nothing else. -/
structure Itemized (rules : List Rule) (found : Rule → List Finding) (body : List String) :
    Prop where
  /-- The groups come first, and then the thin rule and the number of findings shown. -/
  lines : body = groupedLines rules found ++
    ["", thinRule, "Total: " ++ Text.decimal (body.filter isFindingLine).length]
  /-- There is a heading for each rule that has found something, in the order of the rules. -/
  headings : body.filter isHeading = (reporting rules found).map fun r => heading r.name
  once : (body.filter isHeading).Nodup
  /-- There is a line for each finding. -/
  items : body.filter isFindingLine = (rules.flatMap found).map item
  /-- The line of a finding cannot be taken for any other. -/
  apart : ∀ f ∈ rules.flatMap found, ∀ rule n,
    item f ∉ [heading rule, "", thinRule, "Total: " ++ Text.decimal n]

theorem isFindingLine_closing (n : Nat) :
    ["", thinRule, "Total: " ++ Text.decimal n].filter isFindingLine = [] := by
  have hrule : thinRule.toList.head? ≠ some ' ' := by
    rw [toList_thinRule]
    decide
  simp [isFindingLine_eq_false hrule, isFindingLine_eq_false]

theorem isHeading_closing (n : Nat) :
    ["", thinRule, "Total: " ++ Text.decimal n].filter isHeading = [] := by
  have hrule : thinRule.toList.head? ≠ some '[' := by
    rw [toList_thinRule]
    decide
  simp [isHeading_eq_false hrule, isHeading_eq_false]

theorem item_notMem (f : Finding) (rule : String) (n : Nat) :
    item f ∉ [heading rule, "", thinRule, "Total: " ++ Text.decimal n] := by
  rw [List.mem_cons, not_or]
  constructor
  · intro heq
    have hheading := isHeading_item f
    rw [heq, isHeading_heading] at hheading
    cases hheading
  · intro hmem
    have hclosing := List.filter_eq_nil_iff.mp (isFindingLine_closing n) _ hmem
    exact hclosing (isFindingLine_item f)

theorem itemized_groupedLines (hfound : ∀ r, ∀ f ∈ found r, f.rule = r.name)
    (hnames : (rules.map (·.name)).Nodup) :
    Itemized rules found (groupedLines rules found ++
      ["", thinRule, "Total: " ++ Text.decimal (rules.flatMap found).length]) := by
  -- Lines of findings and headings are told apart by how they begin, so that each can be picked
  -- out.
  have hitems : (groupedLines rules found ++ ["", thinRule,
      "Total: " ++ Text.decimal (rules.flatMap found).length]).filter isFindingLine =
        (rules.flatMap found).map item := by
    rw [List.filter_append, isFindingLine_closing, List.append_nil,
      ← findingLines_flatMap hfound hnames, filter_findingLines]
    rfl
  have hheadings : (groupedLines rules found ++ ["", thinRule,
      "Total: " ++ Text.decimal (rules.flatMap found).length]).filter isHeading =
        (reporting rules found).map fun r => heading r.name := by
    rw [List.filter_append, isHeading_closing, List.append_nil, filter_groupedLines]
  refine ⟨?_, hheadings, ?_, hitems, fun f _ rule n => item_notMem f rule n⟩
  · rw [hitems, List.length_map]
  · have hreporting : ((reporting rules found).map (·.name)).Nodup :=
      hnames.sublist (List.filter_sublist.map _)
    rw [hheadings]
    have hheaded : (reporting rules found).map (fun r => heading r.name) =
        ((reporting rules found).map (·.name)).map heading := by
      rw [List.map_map]
      rfl
    rw [hheaded]
    exact List.pairwise_map.mpr
      (List.Pairwise.imp (fun hne heq => hne (heading_inj heq)) hreporting)

/-- Lines for findings have no breaks in them if the names of the rules have none and the findings
are rendered without. -/
theorem unbroken_findingLines {fs : List Finding} (current : Option String)
    (h : ∀ f ∈ fs, Unbroken f.rule ∧ Unbroken f.render) :
    ∀ line ∈ findingLines current fs, Unbroken line := by
  induction fs generalizing current with
  | nil => exact fun line hline => absurd hline List.not_mem_nil
  | cons f rest ih =>
    obtain ⟨⟨hrule, hrender⟩, hrest⟩ := List.forall_mem_cons.mp h
    have hheading : Unbroken ("[" ++ f.rule ++ "]") := by
      simp only [Text.unbroken_append]
      exact ⟨⟨by decide, hrule⟩, by decide⟩
    have hitem : Unbroken ("   " ++ f.render) := Text.unbroken_append.mpr ⟨by decide, hrender⟩
    have hblank : Unbroken "" := by
      decide
    rw [findingLines, List.forall_mem_append, List.forall_mem_cons]
    refine ⟨?_, hitem, ih _ hrest⟩
    split
    · exact fun line hline => absurd hline List.not_mem_nil
    · split
      · exact List.forall_mem_singleton.mpr hheading
      · exact List.forall_mem_cons.mpr ⟨hblank, List.forall_mem_singleton.mpr hheading⟩

end Report

/-- What the rule finds by itself in the files, one after the other. -/
def Rule.foundIn (r : Rule) (default : List String) (text : Candidate → Except OsError String)
    (files : List Candidate) : List Finding :=
  files.flatMap fun file =>
    ((r.scanFile file default (ScanAct.reader text) ScanAct.warner).run []).1

section FoundIn

variable {r : Rule} {default : List String} {text : Candidate → Except OsError String}
  {files : List Candidate} {f : Finding}

/-- What is found in files is found by scanning the text of one of them. -/
theorem Rule.exists_of_mem_foundIn (h : f ∈ r.foundIn default text files) :
    ∃ file ∈ files, ∃ t, f ∈ r.scan file.relpath t := by
  obtain ⟨file, hfile, hf⟩ := List.mem_flatMap.mp h
  rw [run_scanFile] at hf
  split at hf
  · split at hf
    · exact ⟨file, hfile, _, hf⟩
    · cases hf
  · cases hf

theorem Rule.pairwise_foundIn (r : Rule) (default : List String)
    (text : Candidate → Except OsError String) (file : Candidate) :
    (r.foundIn default text [file]).Pairwise Finding.Above := by
  rw [foundIn, List.flatMap_singleton, run_scanFile]
  split
  · split
    · exact r.pairwise_scan _ _
    · exact .nil
  · exact .nil

end FoundIn

namespace Report

variable {check : Check} {files : List Candidate} {default : List String}
  {text : Candidate → Except OsError String}

theorem findingLines_ne_nil {fs : List Finding} (current : Option String) (hne : fs ≠ []) :
    findingLines current fs ≠ [] := by
  obtain ⟨f, rest, rfl⟩ := List.exists_cons_of_ne_nil hne
  rw [findingLines]
  exact List.append_ne_nil_of_right_ne_nil _ (List.cons_ne_nil _ _)

/-- The lines at the end of a report have no breaks in them. -/
theorem unbroken_closing (n : Nat) :
    ∀ line ∈ ["", thinRule, "Total: " ++ Text.decimal n], Unbroken line := by
  have hblank : Unbroken "" := by
    decide
  have hrule : Unbroken thinRule := by
    intro c hc
    rw [toList_thinRule] at hc
    rw [List.eq_of_mem_replicate hc]
    decide
  have htotal : Unbroken ("Total: " ++ Text.decimal n) :=
    Text.unbroken_append.mpr ⟨by decide, Text.unbroken_decimal n⟩
  exact List.forall_mem_cons.mpr ⟨hblank,
    List.forall_mem_cons.mpr ⟨hrule, List.forall_mem_singleton.mpr htotal⟩⟩

theorem outcomeLines_ofScan {fs : List Finding} (hne : fs ≠ []) :
    outcomeLines (Section.ofScan check fs [] []) =
      findingLines none fs ++ ["", thinRule, "Total: " ++ Text.decimal fs.length] := by
  show (if fs.isEmpty then [noneFound] else findingLines none fs) ++ _ = _
  rw [if_neg (by simpa using hne)]
  rfl

/-- The report on a section without notes is the opening and then what the section brings. -/
theorem renderSection_ofScan (time description : String) (fs : List Finding) :
    renderSection time (Section.ofScan check fs [] []) description =
      textOf (opening time check.title description ++
        outcomeLines (Section.ofScan check fs [] [])) := by
  rw [renderSection]
  show textOf (_ ++ [] ++ [] ++ _) = _
  rw [List.append_nil, List.append_nil]
  rfl

/-- The report on a section with findings and nothing else has three parts. -/
theorem lines_renderSection (time description : String) {fs : List Finding} (hne : fs ≠ []) :
    Text.lines (renderSection time (Section.ofScan check fs [] []) description).toList =
      Text.lines (textOf (opening time check.title description)).toList ++
        (Text.lines (textOf (findingLines none fs)).toList ++
          ["", thinRule, "Total: " ++ Text.decimal fs.length].map String.toList) := by
  have hopening : opening time check.title description ≠ [] := by
    simp [opening, header]
  rw [renderSection_ofScan, outcomeLines_ofScan hne, lines_textOf_append hopening
      (List.append_ne_nil_of_right_ne_nil _ (List.cons_ne_nil _ _)),
    lines_textOf_append (findingLines_ne_nil none hne) (List.cons_ne_nil _ _),
    lines_textOf (unbroken_closing _) (List.cons_ne_nil _ _)]

/-- **The report on a scan loses and invents nothing**: after its opening it has, for each rule that
has found something, in the order of the rules, one line with the name of the rule and one line
for each finding of that rule, in the order of the files and of their lines; one blank line
between the groups; and at the end the thin rule and the number of findings shown.  No line of a
source can be taken for a heading, for what separates the groups, or for the total. -/
theorem scan_itemized (check : Check) (hnames : (check.rules.map (·.name)).Nodup)
    (hrules : ∀ r ∈ check.rules, Unbroken r.name) (hpaths : ∀ file ∈ files, Unbroken file.relpath)
    {scan : Scan}
    (hscan : ((check.scan files default (ScanAct.reader text) ScanAct.warner).run []).1 = scan)
    (hfindings : scan.findings ≠ []) (time description : String) :
    ∃ body, Text.lines
        (renderSection time (Section.ofScan check scan.findings [] []) description).toList =
          Text.lines (textOf (opening time check.title description)).toList ++
            body.map String.toList ∧
      Itemized check.rules (fun r => r.foundIn default text files) body ∧
      ∀ r : Rule, ∀ file, (r.foundIn default text [file]).Pairwise Finding.Above := by
  have hfound : ∀ r : Rule, ∀ f ∈ r.foundIn default text files, f.rule = r.name := by
    intro r f hf
    obtain ⟨file, -, t, hscan⟩ := Rule.exists_of_mem_foundIn hf
    exact (Rule.of_mem_scan hscan).1
  have hall : scan.findings = check.rules.flatMap fun r => r.foundIn default text files := by
    rw [← hscan, Check.run_scan]
    exact Check.findings_outcome hnames files []
  have hunbroken : ∀ f ∈ scan.findings, Unbroken f.rule ∧ Unbroken f.render := by
    intro f hf
    rw [hall] at hf
    obtain ⟨r, hr, hf⟩ := List.mem_flatMap.mp hf
    obtain ⟨file, hfile, t, ht⟩ := Rule.exists_of_mem_foundIn hf
    refine ⟨?_, Rule.unbroken_render (hpaths file hfile) ht⟩
    rw [hfound r f hf]
    exact hrules r hr
  refine ⟨_, ?_, itemized_groupedLines hfound hnames, fun r => r.pairwise_foundIn default text⟩
  rw [lines_renderSection time description hfindings,
    lines_textOf (unbroken_findingLines none hunbroken) (findingLines_ne_nil none hfindings),
    ← List.map_append, hall, findingLines_flatMap hfound hnames]

/-- Files with lines that look like those of a report. -/
def forgedText (_ : Candidate) : Except OsError String :=
  .ok "[eval] TODO\n   a.js:1: TODO\x0cTotal: 9 TODO\r\n\neval(1)"

theorem scan_itemized_forged :
    (Check.mixedCheck.rules.map (·.name)).Nodup ∧
      (∀ r ∈ Check.mixedCheck.rules, Unbroken r.name) ∧
      (∀ file ∈ Check.mixedFiles, Unbroken file.relpath) ∧
      ∃ scan, ((Check.mixedCheck.scan Check.mixedFiles [".php"] (ScanAct.reader forgedText)
          ScanAct.warner).run []).1 = scan ∧ scan.findings ≠ [] ∧
        ∃ body, Text.lines (renderSection "now"
            (Section.ofScan Check.mixedCheck scan.findings [] []) "Two rules").toList =
              Text.lines (textOf (opening "now" "Mixed" "Two rules")).toList ++
                body.map String.toList ∧
          Itemized Check.mixedCheck.rules
            (fun r => r.foundIn [".php"] forgedText Check.mixedFiles) body ∧
          ∀ r : Rule, ∀ file, (r.foundIn [".php"] forgedText [file]).Pairwise Finding.Above := by
  have hnames : (Check.mixedCheck.rules.map (·.name)).Nodup := by decide
  have hrules : ∀ r ∈ Check.mixedCheck.rules, Unbroken r.name := by decide +kernel
  have hpaths : ∀ file ∈ Check.mixedFiles, Unbroken file.relpath := by decide +kernel
  have hfindings : ((Check.mixedCheck.scan Check.mixedFiles [".php"] (ScanAct.reader forgedText)
      ScanAct.warner).run []).1.findings ≠ [] := by decide +kernel
  exact ⟨hnames, hrules, hpaths, _, rfl, hfindings,
    scan_itemized Check.mixedCheck hnames hrules hpaths rfl hfindings "now" "Two rules"⟩

example : outcomeLines (Section.ofScan Check.mixedCheck
    ((Check.mixedCheck.scan (Check.mixedFiles.take 1 ++ Check.mixedFiles.drop 3) [".php"]
      (ScanAct.reader forgedText) ScanAct.warner).run []).1.findings [] []) =
    ["[eval]", "   c.php:5: eval(1)", "",
      "[marker]", "   a.js:1: [eval] TODO", "   a.js:2: a.js:1: TODO", "   a.js:3: Total: 9 TODO",
      "   c.php:1: [eval] TODO", "   c.php:2: a.js:1: TODO", "   c.php:3: Total: 9 TODO",
      "", thinRule, "Total: 7"] := by
  decide +kernel

/-! ### Names with breaks -/

/-- A check with a rule whose name has a break in it, and one whose name comes after that. -/
def tornCheck : Check where
  name := "torn"
  title := "Torn"
  severity := .review
  rules := [.literal "x]\n[y" "TODO", .literal "y" "FIXME"]

/-- A scan in which both rules find the same line. -/
def tornScan : Scan :=
  ((tornCheck.scan [⟨⟨"/", ["p", "a.php"]⟩, "a.php", ".php"⟩] [".php"]
    (ScanAct.reader fun _ => .ok "TODO FIXME\n") ScanAct.warner).run []).1

/-- **A name with a break in it makes a heading of two lines**, and the second of them can be the
heading of another rule, which the report then has twice. -/
theorem heading_stands_twice :
    (tornCheck.rules.map (·.name)).Nodup ∧ Unbroken "a.php" ∧ tornScan.findings ≠ [] ∧
      (Text.lines (renderSection "now" (Section.ofScan tornCheck tornScan.findings [] [])
        "").toList).count (heading "y").toList = 2 := by
  have hfindings : tornScan.findings ≠ [] := by decide +kernel
  have hopening : (Text.lines (textOf (opening "now" tornCheck.title "")).toList).count
      (heading "y").toList = 0 := by decide +kernel
  have hgroups : (Text.lines (textOf (findingLines none tornScan.findings)).toList).count
      (heading "y").toList = 2 := by decide +kernel
  have hclosing : (["", thinRule, "Total: " ++ Text.decimal tornScan.findings.length].map
      String.toList).count (heading "y").toList = 0 := by
    rw [List.map_cons, List.map_cons, toList_thinRule]
    decide +kernel
  refine ⟨by decide, by decide +kernel, hfindings, ?_⟩
  rw [lines_renderSection "now" "" hfindings, List.count_append, List.count_append, hopening,
    hgroups, hclosing]

end Report

end PluginSweep
