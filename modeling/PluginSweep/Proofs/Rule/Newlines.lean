/-
PluginSweep/Proofs/Rule/Newlines.lean

How newlines are spelled makes no difference to what is found.  Every rule of the table depends
on the lines of a text and on nothing else in it (`scan_congr`): a pattern is tried on each
line, and a text whose absence is reported has no break in it, so it occurs in a text exactly
if it occurs in one of the lines.  Carriage returns before the line feeds leave the lines as
they are (`scan_withReturns`).
-/
import PluginSweep.Proofs.Rule.Lines
import PluginSweep.Proofs.Text.Newlines

namespace PluginSweep

open Text (isLineBreak)

namespace Rule

variable {r : Rule} {text other relpath : String}

/-! ### Rules that depend on lines only -/

theorem occursIn_eq_true_iff {needle text : List Char} :
    occursIn needle text = true ↔ needle <:+: text := by
  induction text with
  | nil => rw [occursIn, List.isEmpty_iff, List.infix_nil]
  | cons c rest ih =>
    rw [occursIn, Bool.or_eq_true, List.isPrefixOf_iff_prefix, ih, List.infix_cons_iff]

/-- The texts whose absence the rule reports. -/
def needles (r : Rule) : List String :=
  match r.test with
  | .absence needles => needles
  | _ => []

/-- None of these texts is empty, and none has a break in it. -/
def Linewise (r : Rule) : Prop :=
  ∀ needle ∈ r.needles, needle.toList ≠ [] ∧ ∀ c ∈ needle.toList, isLineBreak c = false

/-- **In texts with the same lines the same is found.** -/
theorem scan_congr (h : r.Linewise) (hlines : Text.lines text.toList = Text.lines other.toList) :
    r.scan relpath text = r.scan relpath other := by
  cases hpattern : r.linePattern with
  | some p => rw [scan_eq_scanFrom hpattern, scan_eq_scanFrom hpattern, hlines]
  | none =>
    cases htest : r.test with
    | absence needles =>
      have hany : (needles.any fun needle => occursIn needle.toList text.toList) =
          needles.any fun needle => occursIn needle.toList other.toList := by
        rw [Bool.eq_iff_iff, List.any_eq_true, List.any_eq_true]
        refine exists_congr fun needle => and_congr_right fun hneedle => ?_
        obtain ⟨hne, hplain⟩ := h needle (by rwa [Rule.needles, htest])
        rw [occursIn_eq_true_iff, occursIn_eq_true_iff, Text.infix_iff_exists_line hne hplain,
          Text.infix_iff_exists_line hne hplain, hlines]
      rw [scan, scan, htest]
      dsimp only
      rw [hany]
    | line p | call function =>
      rw [linePattern, htest] at hpattern
      cases hpattern

/-- The absence of texts is reported only where these are the guards. -/
theorem needles_of_mem_table :
    ∀ check ∈ Check.table, ∀ r ∈ check.rules, r.needles = [] ∨ r.needles = Check.guardStrings := by
  decide +kernel

theorem plain_of_mem_guardStrings {needle : String} (h : needle ∈ Check.guardStrings) :
    needle.toList ≠ [] ∧ ∀ c ∈ needle.toList, isLineBreak c = false := by
  have hguards : (Check.guardStrings.all fun needle =>
      !needle.toList.isEmpty && needle.toList.all fun c => !isLineBreak c) = true := by
    decide +kernel
  obtain ⟨hne, hplain⟩ := Bool.and_eq_true_iff.mp (List.all_eq_true.mp hguards needle h)
  refine ⟨?_, fun c hc => (Bool.not_eq_true' _).mp (List.all_eq_true.mp hplain c hc)⟩
  intro hnil
  rw [hnil] at hne
  cases hne

theorem linewise_of_mem_table {check : Check} (hcheck : check ∈ Check.table)
    (hr : r ∈ check.rules) : r.Linewise := by
  rw [Linewise]
  rcases needles_of_mem_table check hcheck r hr with hnone | hguards
  · rw [hnone]
    exact fun needle hneedle => absurd hneedle List.not_mem_nil
  · rw [hguards]
    exact fun needle => plain_of_mem_guardStrings

/-! ### Carriage returns -/

/-- **Carriage returns before the line feeds change nothing**: with every rule of the table, the
same is found in the same lines. -/
theorem scan_withReturns {check : Check} (hcheck : check ∈ Check.table) (hr : r ∈ check.rules)
    (htext : '\r' ∉ text.toList) (relpath : String) :
    r.scan relpath (String.ofList (Text.withReturns text.toList)) = r.scan relpath text := by
  apply scan_congr (linewise_of_mem_table hcheck hr)
  rw [String.toList_ofList, Text.lines_withReturns htext]

/-- The pattern for addresses reads on to the next blank; the return at the end of the line is not
there to be read, and the address that is excused stays excused. -/
theorem scan_withReturns_address :
    Check.remoteAddress.scan "p.php"
        "// see https://w3.org/\r\n  // from http://example.com/a \r\n" =
      [⟨"remote-url", "p.php", some 2, "// from http://example.com/a"⟩] := by
  have hcheck : Check.table[19] ∈ Check.table := List.getElem_mem _
  have hr : Check.remoteAddress ∈ Check.table[19].rules := by
    simp [Check.table]
  have hreturns : '\r' ∉ "// see https://w3.org/\n  // from http://example.com/a \n".toList := by
    decide
  have hscan := scan_withReturns hcheck hr hreturns "p.php"
  rw [show String.ofList (Text.withReturns _) =
    "// see https://w3.org/\r\n  // from http://example.com/a \r\n" by decide +kernel] at hscan
  rw [hscan]
  decide +kernel

end Rule

end PluginSweep
