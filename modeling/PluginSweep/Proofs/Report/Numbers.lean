/-
PluginSweep/Proofs/Report/Numbers.lean

The numbers that reports show.  How many findings a section has is shown twice, in its row
of the table of the summary and at the end of its own report, and not at all if the
section failed or holds the output of a tool (`shownCount?`).  Here both are read back
from the lines: the number in the second column of a row (`countIn?_row`), and the number
in the last line of a report (`closingTotal?_eq`).

A section without a number to show has no findings (`Section.Countable`).  That is why the
numbers shown add up to the total of the summary, however they are read
(`numbersAgree_of_countable`).
-/
import Mathlib.Algebra.GroupWithZero.Nat
import Mathlib.Data.List.Basic
import PluginSweep.Proofs.Report.Summary
import PluginSweep.Proofs.Text.Newlines

namespace PluginSweep

/-- The section can be counted: it has findings only if it neither failed nor holds the output of
a tool, and no bar in its name can be taken for one of the table. -/
structure Section.Countable (made : Section) : Prop where
  bare : made.error ≠ none ∨ made.rawOutput ≠ none → made.findings = []
  name : '|' ∉ made.name.toList

namespace Report

variable {made : Section} {sections : List Section} {summary : Summary}

/-! ### Reading numbers -/

/-- The number that the characters are the decimal digits of. -/
def numberOf? (text : List Char) : Option Nat :=
  if text ≠ [] ∧ text.all Char.isDigit = true then some (Nat.ofDigitChars 10 text 0) else none

theorem isDigit_of_mem_toDigits {n : Nat} {c : Char} (h : c ∈ Nat.toDigits 10 n) :
    c.isDigit = true :=
  Nat.isDigit_of_mem_toDigits (by decide) (by decide) h

theorem numberOf?_toDigits (n : Nat) : numberOf? (Nat.toDigits 10 n) = some n := by
  have hdigits : (Nat.toDigits 10 n).all Char.isDigit = true :=
    List.all_eq_true.mpr fun c hc => isDigit_of_mem_toDigits hc
  rw [numberOf?, if_pos ⟨Nat.toDigits_ne_nil, hdigits⟩,
    Nat.ofDigitChars_toDigits (by decide) (by decide)]

theorem toList_decimal (n : Nat) : (Text.decimal n).toList = Nat.toDigits 10 n :=
  String.toList_ofList

/-- No character of a decimal is anything but a digit. -/
theorem notMem_decimal {c : Char} (hc : c.isDigit = false) (n : Nat) :
    c ∉ (Text.decimal n).toList := by
  intro hmem
  rw [toList_decimal] at hmem
  rw [isDigit_of_mem_toDigits hmem] at hc
  cases hc

/-! ### The table -/

/-- The number of findings that a section shows, if it shows one. -/
def shownCount? (made : Section) : Option Nat :=
  if made.failed || made.isToolOutput then none else some made.count

/-- The number in the second column of a line of the table. -/
def countIn? (line : String) : Option Nat :=
  match line.toList.splitOn '|' with
  | _ :: _ :: cell :: _ => numberOf? (cell.filter (· != ' '))
  | _ => none

theorem notMem_padRight {c : Char} {width : Nat} {text : String} (hc : c ≠ ' ')
    (h : c ∉ text.toList) : c ∉ (Text.padRight width text).toList := by
  simp [Text.padRight, h, hc]

theorem notMem_padLeft {c : Char} {width : Nat} {text : String} (hc : c ≠ ' ')
    (h : c ∉ text.toList) : c ∉ (Text.padLeft width text).toList := by
  simp [Text.padLeft, h, hc]

/-- Where no further bar comes before it, the number is read from the cell of its column. -/
theorem countIn?_tableRow {name cell : String} (label : String) (hname : '|' ∉ name.toList)
    (hcell : '|' ∉ cell.toList) :
    countIn? (tableRow name cell label) = numberOf? (cell.toList.filter (· != ' ')) := by
  have hrow : (tableRow name cell label).toList = [] ++ '|' ::
      ((' ' :: (Text.padRight 35 name).toList ++ [' ']) ++ '|' ::
        ((' ' :: (Text.padLeft 8 cell).toList ++ [' ']) ++ '|' ::
          (" " ++ Text.padRight 10 label ++ " |").toList)) := by
    simp [tableRow]
  have hblank : '|' ≠ ' ' := by
    decide
  have hfirst : '|' ∉ ' ' :: (Text.padRight 35 name).toList ++ [' '] := by
    simp [notMem_padRight hblank hname]
  have hsecond : '|' ∉ ' ' :: (Text.padLeft 8 cell).toList ++ [' '] := by
    simp [notMem_padLeft hblank hcell]
  rw [countIn?, hrow, List.splitOn_append_cons_self, List.splitOn_append_cons_self,
    List.splitOn_append_cons_self, List.splitOn_eq_singleton hfirst,
    List.splitOn_eq_singleton hsecond, List.splitOn_eq_singleton List.not_mem_nil]
  simp [Text.padLeft]

/-- The row of a section shows how many findings the section has. -/
theorem countIn?_row (h : made.Countable) :
    countIn? (tableRow made.name made.countCell made.severityLabel) = shownCount? made := by
  have hcell : '|' ∉ made.countCell.toList := by
    unfold Section.countCell
    split
    · decide
    · exact notMem_decimal (by decide) _
  rw [countIn?_tableRow _ h.name hcell, shownCount?, Section.countCell]
  split
  · decide
  · have hdigits : ∀ c ∈ Nat.toDigits 10 made.count, (c != ' ') = true := by
      intro c hc
      refine bne_iff_ne.mpr ?_
      rintro rfl
      exact absurd (isDigit_of_mem_toDigits hc) (by decide)
    rw [toList_decimal, List.filter_eq_self.mpr hdigits, numberOf?_toDigits]

theorem filterMap_countIn? (h : ∀ made ∈ sections, made.Countable) :
    (tableLines sections).filterMap countIn? = sections.filterMap shownCount? := by
  have hborder : countIn? tableBorder = none := by
    have hbar : '|' ∉ tableBorder.toList := by
      simp [tableBorder]
    rw [countIn?, List.splitOn_eq_singleton hbar]
  have hhead : countIn? (tableRow "Check" "Count" "Severity") = none := by
    rw [countIn?_tableRow _ (by simp) (by simp)]
    simp [numberOf?]
  rw [tableLines]
  simp only [List.cons_append, List.nil_append, List.filterMap_cons, List.filterMap_append,
    List.filterMap_map, List.filterMap_nil, hborder, hhead, List.append_nil]
  refine List.filterMap_congr fun made hmade => ?_
  rw [Function.comp_apply, countIn?_row (h made hmade)]

/-! ### Reports on sections -/

/-- The number in a line that gives a total. -/
def totalIn? (line : String) : Option Nat :=
  if "Total: ".toList.isPrefixOf line.toList then
    numberOf? (line.toList.drop "Total: ".toList.length)
  else none

/-- The total with which the report on a section ends, if it ends with one. -/
def closingTotal? (made : Section) : Option Nat :=
  (outcomeLines made).getLast?.bind totalIn?

/-- The line is that of a finding. -/
def isFindingLine (line : String) : Bool :=
  "   ".toList.isPrefixOf line.toList

theorem isFindingLine_eq_false {line : String} (h : line.toList.head? ≠ some ' ') :
    isFindingLine line = false := by
  rw [isFindingLine, ← Bool.not_eq_true, List.isPrefixOf_iff_prefix]
  rintro ⟨rest, hrest⟩
  exact h (by rw [← hrest]; rfl)

theorem toList_thinRule : thinRule.toList = List.replicate 68 '─' :=
  String.toList_ofList

theorem totalIn?_total (n : Nat) : totalIn? ("Total: " ++ Text.decimal n) = some n := by
  have hlist : ("Total: " ++ Text.decimal n).toList = "Total: ".toList ++ Nat.toDigits 10 n := by
    rw [String.toList_append, toList_decimal]
  rw [totalIn?, hlist, if_pos (List.isPrefixOf_iff_prefix.mpr (List.prefix_append _ _)),
    List.drop_left, numberOf?_toDigits]

/-- The report on a section ends with a total exactly if the section shows one. -/
theorem closingTotal?_eq (made : Section) : closingTotal? made = shownCount? made := by
  rw [closingTotal?, outcomeLines, shownCount?, Section.failed, Section.isToolOutput]
  rcases made.error with - | e
  · rcases made.rawOutput with - | output
    · simp [totalIn?_total]
    · simp [totalIn?]
  · simp [totalIn?]

/-- The lines for findings are those of the rules, between blank lines, and one for each
finding. -/
theorem filter_findingLines (current : Option String) (findings : List Finding) :
    (findingLines current findings).filter isFindingLine =
      findings.map fun f => "   " ++ f.render := by
  induction findings generalizing current with
  | nil => rfl
  | cons f rest ih =>
    have hline : isFindingLine ("   " ++ f.render) = true := by
      rw [isFindingLine, String.toList_append, List.isPrefixOf_iff_prefix]
      exact List.prefix_append _ _
    have hrule : isFindingLine ("[" ++ f.rule ++ "]") = false := by
      apply isFindingLine_eq_false
      simp
    have hblank : isFindingLine "" = false := by
      decide
    rw [findingLines, List.filter_append, List.filter_cons_of_pos hline, ih, List.map_cons]
    split
    · rfl
    · split
      · simp [hrule]
      · simp [hrule, hblank]

/-- Where a report ends with a total, its findings are rendered one in a line. -/
theorem filter_outcomeLines (h : shownCount? made ≠ none) :
    (outcomeLines made).filter isFindingLine = made.findings.map fun f => "   " ++ f.render := by
  have hfound : isFindingLine noneFound = false := by
    decide
  have hrule : isFindingLine thinRule = false := by
    apply isFindingLine_eq_false
    rw [toList_thinRule, List.head?_replicate]
    simp
  have hblank : isFindingLine "" = false := by
    decide
  have htotal : isFindingLine ("Total: " ++ Text.decimal made.count) = false := by
    apply isFindingLine_eq_false
    simp
  rw [shownCount?, Section.failed, Section.isToolOutput] at h
  rcases herror : made.error with - | e <;> rw [herror] at h
  · rcases houtput : made.rawOutput with - | output <;> rw [houtput] at h
    · rw [outcomeLines, herror, houtput, List.filter_append]
      rcases hfindings : made.findings with - | ⟨f, rest⟩
      · simp [hfound, hrule, hblank, htotal]
      · simp [filter_findingLines, hrule, hblank, htotal]
    · simp at h
  · simp at h

/-- The last line of a text that ends with a line feed. -/
def lastLine (text : List Char) : List Char :=
  (text.splitOn '\n').dropLast.getLast?.getD []

/-- The total in the last line of a file, if there is one. -/
def endTotal? (bytes : List UInt8) : Option Nat :=
  totalIn? (String.ofList (lastLine (Text.decodeLossy bytes)))

theorem lastLine_append (before : List Char) {line : List Char} (hline : '\n' ∉ line) :
    lastLine (before ++ '\n' :: (line ++ ['\n'])) = line := by
  rw [lastLine, List.splitOn_append_cons_self, List.splitOn_append_cons_self_of_not_mem hline]
  simp

theorem ascii_of_mem_total {n : Nat} : ∀ c ∈ ("Total: " ++ Text.decimal n).toList,
    c.toNat < 0x80 := by
  have hlabel : ∀ c ∈ "Total: ".toList, c.toNat < 0x80 := by simp
  intro c hc
  rw [String.toList_append, toList_decimal] at hc
  rcases List.mem_append.mp hc with hc | hc
  · exact hlabel c hc
  · have hdigit := isDigit_of_mem_toDigits hc
    simp only [Char.isDigit, Bool.and_eq_true, decide_eq_true_eq, UInt32.le_iff_toNat_le] at hdigit
    exact Nat.lt_of_le_of_lt hdigit.2 (by decide)

theorem exists_outcomeLines (time : String) (made : Section) (description : String) :
    ∃ front, renderSection time made description = textOf (front ++ outcomeLines made) :=
  ⟨_, rfl⟩

/-- Where a section shows how many findings it has, its report ends with the line that says so. -/
theorem exists_renderSection_eq (time description : String) {n : Nat}
    (h : shownCount? made = some n) : ∃ before, renderSection time made description =
      before ++ "\n" ++ ("Total: " ++ Text.decimal n) ++ "\n" := by
  have hlast : ∃ lines, outcomeLines made =
      lines ++ ["", thinRule] ++ ["Total: " ++ Text.decimal n] := by
    rw [shownCount?, Section.failed, Section.isToolOutput] at h
    rcases herror : made.error with - | e <;> rw [herror] at h
    · rcases houtput : made.rawOutput with - | output <;> rw [houtput] at h
      · obtain rfl := Option.some.inj h
        rw [outcomeLines, herror, houtput]
        exact ⟨_, (List.append_assoc _ ["", thinRule] _).symm⟩
      · cases h
    · cases h
  obtain ⟨lines, hlines⟩ := hlast
  obtain ⟨front, hfront⟩ := exists_outcomeLines time made description
  have hne : front ++ (lines ++ ["", thinRule]) ≠ [] := by
    simp
  refine ⟨"\n".intercalate (front ++ (lines ++ ["", thinRule])), ?_⟩
  rw [hfront, hlines, ← List.append_assoc, textOf_append hne (List.cons_ne_nil _ _), textOf, textOf,
    String.intercalate_singleton]
  simp only [String.append_assoc]

/-- **The total at the end of a report is the number of findings of its section**, read from the
bytes of the file. -/
theorem endTotal?_renderSection (time description : String) {n : Nat}
    (h : shownCount? made = some n) :
    endTotal? (Text.encode (renderSection time made description)) = some n := by
  have hbreak : '\n' ∉ ("Total: " ++ Text.decimal n).toList := by
    rw [String.toList_append, List.mem_append, not_or]
    exact ⟨by decide, notMem_decimal (by decide) n⟩
  have hfeed : Text.encode "\n" = [0x0A] := by
    decide +kernel
  obtain ⟨before, hrender⟩ := exists_renderSection_eq time description h
  have hbytes : Text.encode (renderSection time made description) =
      Text.encode before ++ 0x0A :: (Text.encode ("Total: " ++ Text.decimal n) ++ [0x0A]) := by
    rw [hrender, Text.encode_append, Text.encode_append, Text.encode_append, hfeed,
      List.append_assoc, List.append_assoc]
    rfl
  have hline : Text.decodeLossy (Text.encode ("Total: " ++ Text.decimal n)) =
      ("Total: " ++ Text.decimal n).toList := by
    have hread := Text.decodeLossy_encode_of_ascii (ascii_of_mem_total (n := n))
    rwa [String.ofList_toList] at hread
  rw [endTotal?, hbytes, Text.decodeLossy_append_newline, Text.decodeLossy_append_newline, hline,
    show Text.decodeLossy [] = [] from rfl, lastLine_append _ hbreak, String.ofList_toList,
    totalIn?_total]

/-! ### Sums -/

/-- What is shown adds up to the number of findings, since sections that show no number have
none. -/
theorem sum_shownCount? (h : ∀ made ∈ sections, made.Countable) :
    (sections.filterMap shownCount?).sum = (sections.map Section.count).sum := by
  induction sections with
  | nil => rfl
  | cons made rest ih =>
    have hrest := ih fun other hother => h other (List.mem_cons_of_mem _ hother)
    have hfirst := (h made List.mem_cons_self).bare
    rw [List.map_cons, List.sum_cons, ← hrest]
    by_cases hshown : (made.failed || made.isToolOutput) = true
    · have hnone : made.findings = [] := by
        apply hfirst
        rcases Bool.or_eq_true_iff.mp hshown with hfailed | houtput
        · exact .inl (Option.isSome_iff_ne_none.mp hfailed)
        · exact .inr (Option.isSome_iff_ne_none.mp houtput)
      rw [List.filterMap_cons, shownCount?, if_pos hshown, Section.count, hnone]
      exact (Nat.zero_add _).symm
    · rw [List.filterMap_cons, shownCount?, if_neg hshown]
      exact List.sum_cons

theorem totalFindings_eq_sum (summary : Summary) :
    summary.totalFindings = (summary.issues.map Section.count).sum := by
  rw [Summary.totalFindings, List.sum_eq_foldl, List.foldl_map]

/-! ### The summary -/

/-- The table is in the summary, and the total below it. -/
theorem exists_tableLines (time : String) (summary : Summary) :
    ∃ before after, renderSummary time summary =
      before ++ textOf (tableLines summary.issues ++
        ["Total findings: " ++ Text.decimal summary.totalFindings]) ++ after := by
  have htable : tableLines summary.issues ++
      ["Total findings: " ++ Text.decimal summary.totalFindings] ≠ [] := by
    simp
  rw [renderSummary]
  -- What comes after the total is brought together.
  iterate 10 rw [List.append_assoc (_ ++ ["Total findings: " ++ _])]
  rw [List.append_assoc _ (tableLines summary.issues),
    textOf_append (List.append_ne_nil_of_right_ne_nil _ htable) (by simp [banner]),
    textOf_append (by simp [header]) htable]
  exact ⟨_, _, rfl⟩

/-- The numbers in the summary and in the reports on its sections agree. -/
structure NumbersAgree (time : String) (summary : Summary) : Prop where
  /-- Sections that failed or hold the output of a tool have no findings. -/
  bare : ∀ made ∈ summary.sections,
    made.error ≠ none ∨ made.rawOutput ≠ none → made.findings = []
  /-- The summary shows a table and below it the total. -/
  shown : ∃ before after, renderSummary time summary =
    before ++ textOf (tableLines summary.issues ++
      ["Total findings: " ++ Text.decimal summary.totalFindings]) ++ after
  /-- The numbers in the table add up to the total. -/
  cells : ((tableLines summary.issues).filterMap countIn?).sum = summary.totalFindings
  /-- Every report on a section ends with what the step brought. -/
  ends : ∀ made ∈ summary.sections, ∀ description, ∃ front,
    renderSection time made description = textOf (front ++ outcomeLines made)
  /-- It ends with a total, unless the step failed or brought the output of a tool. -/
  closing : ∀ made ∈ summary.sections,
    (∃ n, closingTotal? made = some n) ↔ made.error = none ∧ made.rawOutput = none
  /-- The totals at the end of reports add up to the total. -/
  totals : (summary.issues.filterMap closingTotal?).sum = summary.totalFindings
  /-- The total at the end of a report is the number of the findings in it. -/
  rendered : ∀ made ∈ summary.sections, ∀ n, closingTotal? made = some n →
    (outcomeLines made).filter isFindingLine = (made.findings.map fun f => "   " ++ f.render) ∧
      n = ((outcomeLines made).filter isFindingLine).length

theorem numbersAgree_of_countable (time : String)
    (h : ∀ made ∈ summary.sections, made.Countable) : NumbersAgree time summary where
  bare := fun made hmade => (h made hmade).bare
  shown := exists_tableLines time summary
  cells := by
    have hissues : ∀ made ∈ summary.issues, made.Countable :=
      fun made hmade => h made (List.mem_filter.mp hmade).1
    rw [filterMap_countIn? hissues, sum_shownCount? hissues, totalFindings_eq_sum]
  ends := fun made _ description => exists_outcomeLines time made description
  closing := by
    intro made _
    rw [closingTotal?_eq, shownCount?, Section.failed, Section.isToolOutput]
    rcases made.error with - | e <;> rcases made.rawOutput with - | output <;> simp
  totals := by
    have hissues : ∀ made ∈ summary.issues, made.Countable :=
      fun made hmade => h made (List.mem_filter.mp hmade).1
    rw [show closingTotal? = shownCount? from funext closingTotal?_eq, sum_shownCount? hissues,
      totalFindings_eq_sum]
  rendered := by
    intro made hmade n hn
    rw [closingTotal?_eq] at hn
    -- A number that is shown is that of the findings in the lines.
    have hshown : shownCount? made ≠ none := by
      rw [hn]
      exact Option.some_ne_none n
    have hlines := filter_outcomeLines hshown
    refine ⟨hlines, ?_⟩
    rw [hlines, List.length_map]
    rw [shownCount?] at hn
    split at hn
    · cases hn
    · exact (Option.some.inj hn).symm

end Report

end PluginSweep
