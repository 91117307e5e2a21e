/-
PluginSweep/Proofs/Rule/Case.lean

Rules that ignore case.  The lines of a text in lower case are its lines in lower case, and the
patterns of such a rule, that which looks for lines as well as that which excuses them, are found
in the one exactly if they are found in the other.  So the rule finds the same in both, but shows
it as it is written (`scan_toLower`).

Two texts that differ in the case of letters are one text in lower case, and the same lines are
reported of both (`scan_recased`).
-/
import PluginSweep.Proofs.Pattern.Case
import PluginSweep.Proofs.Rule.Lines

namespace PluginSweep

/-- The finding as it is shown where the text is in lower case. -/
def Finding.toLower (f : Finding) : Finding :=
  { f with text := f.text.toLower }

namespace Rule

variable {r : Rule} {p : Pattern} {relpath text other : String}

/-! ### One line -/

theorem reportsLine_toLower (hcase : r.caseRule = .ignore) (p : Pattern) (line : List Char) :
    r.reportsLine p (line.map Char.toLower) = r.reportsLine p line := by
  rw [reportsLine, reportsLine, hcase, p.found_map_toLower]
  cases r.exclude with
  | none => rfl
  | some excused => simp only [Option.any_some, excused.found_map_toLower]

theorem report_toLower (r : Rule) (relpath : String) (number : Nat) (line : List Char) :
    r.report relpath number (line.map Char.toLower) = (r.report relpath number line).toLower := by
  have htext : String.ofList ((Text.trim line).map Char.toLower) =
      (String.ofList (Text.trim line)).toLower := by
    rw [String.toLower, ← String.toList_inj, String.toList_map, String.toList_ofList,
      String.toList_ofList]
  rw [report, Text.trim_map_toLower, htext]
  rfl

theorem report?_toLower (hcase : r.caseRule = .ignore) (number : Nat) (line : List Char) :
    r.report? relpath p number (line.map Char.toLower) =
      (r.report? relpath p number line).map Finding.toLower := by
  rw [report?, report?, reportsLine_toLower hcase, report_toLower]
  split <;> rfl

/-! ### Texts -/

theorem scanFrom_toLower (hcase : r.caseRule = .ignore) (start : Nat) (ls : List (List Char)) :
    r.scanFrom relpath p start (ls.map (List.map Char.toLower)) =
      (r.scanFrom relpath p start ls).map Finding.toLower := by
  induction ls generalizing start with
  | nil => rfl
  | cons line rest ih =>
    rw [List.map_cons, scanFrom_cons, scanFrom_cons, report?_toLower hcase, ih, List.map_append]
    cases r.report? relpath p start line <;> rfl

/-- **A rule that ignores case finds the same in a text in lower case**, and shows it in lower
case. -/
theorem scan_toLower (h : r.linePattern = some p) (hcase : r.caseRule = .ignore)
    (relpath text : String) :
    r.scan relpath text.toLower = (r.scan relpath text).map Finding.toLower := by
  rw [scan_eq_scanFrom h, scan_eq_scanFrom h, String.toLower, String.toList_map,
    Text.lines_map_toLower, scanFrom_toLower hcase]

/-- In lower case the same lines are reported. -/
theorem map_line_scan_toLower (h : r.linePattern = some p) (hcase : r.caseRule = .ignore)
    (relpath text : String) :
    (r.scan relpath text.toLower).map (·.line) = (r.scan relpath text).map (·.line) := by
  rw [scan_toLower h hcase, List.map_map]
  rfl

/-- **Rules that ignore case ignore it completely.**  Whatever pattern the rule tries on lines, be
it that of a credential, a text or a call, and whatever lines it excuses: of two texts that differ
only in the case of Latin letters the same lines are reported. -/
theorem scan_recased (h : r.linePattern = some p) (hcase : r.caseRule = .ignore)
    (htext : text.toLower = other.toLower) (relpath : String) :
    (r.scan relpath text).map (·.line) = (r.scan relpath other).map (·.line) := by
  calc (r.scan relpath text).map (·.line)
      = (r.scan relpath text.toLower).map (·.line) := (map_line_scan_toLower h hcase ..).symm
    _ = (r.scan relpath other.toLower).map (·.line) := by rw [htext]
    _ = (r.scan relpath other).map (·.line) := map_line_scan_toLower h hcase ..

/-- The name of a constant in mixed case, and a call that is reported next to a method and to a call
that is excused. -/
theorem scan_recased_mixed :
    let call := { Rule.call "Eval" with caseRule := .ignore, exclude := some (.ofString "Safe") }
    (Check.secretDefine.scan "p.php" "<?php\nDefine( \"My_Token\", 'x' );\n").map (·.line) =
        (Check.secretDefine.scan "p.php" "<?PHP\ndEFINE( \"mY_tOKEN\", 'X' );\n").map (·.line) ∧
      (Check.secretDefine.scan "p.php" "<?php\nDefine( \"My_Token\", 'x' );\n").map (·.line) =
        [some 2] ∧
      (call.scan "p.php" "$o->eval($a);\nEVAL($b); // safe\neval($c);").map (·.line) =
        (call.scan "p.php" "$O->Eval($A);\neval($b); // SAFE\nEvaL($C);").map (·.line) ∧
      (call.scan "p.php" "$o->eval($a);\nEVAL($b); // safe\neval($c);").map (·.line) =
        [some 3] := by
  intro call
  have hdefine : "<?php\nDefine( \"My_Token\", 'x' );\n".toLower =
      "<?PHP\ndEFINE( \"mY_tOKEN\", 'X' );\n".toLower := by
    rw [Text.toLower_eq_toLower_iff]
    decide +kernel
  have hcall : "$o->eval($a);\nEVAL($b); // safe\neval($c);".toLower =
      "$O->Eval($A);\neval($b); // SAFE\nEvaL($C);".toLower := by
    rw [Text.toLower_eq_toLower_iff]
    decide +kernel
  exact ⟨scan_recased (r := Check.secretDefine) rfl rfl hdefine "p.php", by decide +kernel,
    scan_recased (r := call) rfl rfl hcall "p.php", by decide +kernel⟩

end Rule

end PluginSweep
