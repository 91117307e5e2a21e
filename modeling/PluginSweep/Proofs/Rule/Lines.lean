/-
PluginSweep/Proofs/Rule/Lines.lean

What a rule reports of a text, line by line.  Every rule but those about absence tries one
pattern on each line (`Rule.linePattern`); its findings are the lines that it reports, in
their order and each with its number (`mem_scanFrom_iff`, `pairwise_scanFrom`).

Nothing else enters a finding.  So texts may be scanned in parts, wherever a line feed ends
the first of them:

  scan (a ++ "\n" ++ b)  =  scan (a ++ "\n"), then scan b with greater numbers

(`scan_newline`), and a finding is settled by its line and by the number of breaks before it.
For rules about calls the lines are those in which the function is called (`scan_call`).
-/
import PluginSweep.Check.Table
import PluginSweep.Proofs.Pattern.Call

namespace PluginSweep

namespace Finding

/-- The finding where `n` more lines come before it. -/
def later (n : Nat) (f : Finding) : Finding :=
  { f with line := f.line.map (· + n) }

/-- Both findings are on lines, the first on an earlier one. -/
def Above (f g : Finding) : Prop :=
  ∃ m n : Nat, f.line = some m ∧ g.line = some n ∧ m < n

end Finding

namespace Rule

variable {r : Rule} {p : Pattern} {relpath text : String} {start i n : Nat} {line : List Char}
  {rest : List (List Char)} {f : Finding}

/-! ### Numbered lines -/

/-- The pattern that the rule tries on every line; a rule about absence has none. -/
def linePattern (r : Rule) : Option Pattern :=
  match r.test with
  | .absence _ => none
  | .line p => some p
  | .call function => some (.callOf function)

/-- The report on a line. -/
def report (r : Rule) (relpath : String) (number : Nat) (line : List Char) : Finding :=
  ⟨r.name, relpath, some number, String.ofList (Text.trim line)⟩

/-- The report on a line, if there is one. -/
def report? (r : Rule) (relpath : String) (p : Pattern) (number : Nat) (line : List Char) :
    Option Finding :=
  if r.reportsLine p line then some (r.report relpath number line) else none

/-- The reports on lines, of which the first has the number `start`. -/
def scanFrom (r : Rule) (relpath : String) (p : Pattern) (start : Nat)
    (ls : List (List Char)) : List Finding :=
  (ls.zipIdx start).filterMap fun (line, number) => r.report? relpath p number line

theorem scan_eq_scanFrom (h : r.linePattern = some p) (relpath text : String) :
    r.scan relpath text = r.scanFrom relpath p 1 (Text.lines text.toList) := by
  cases htest : r.test with
  | absence needles =>
    rw [linePattern, htest] at h
    cases h
  | line pattern =>
    rw [linePattern, htest] at h
    rw [scan, htest, ← Option.some.inj h]
    rfl
  | call function =>
    rw [linePattern, htest] at h
    rw [scan, htest, ← Option.some.inj h]
    rfl

/-- A rule without a pattern for lines reports at most an absence, and that on no line. -/
theorem scan_of_linePattern_eq_none (h : r.linePattern = none) (relpath text : String) :
    r.scan relpath text = [] ∨ r.scan relpath text = [⟨r.name, relpath, none, absenceText⟩] := by
  cases htest : r.test with
  | absence needles =>
    rw [scan, htest]
    dsimp only
    split
    · exact .inl rfl
    · exact .inr rfl
  | line p | call function =>
    rw [linePattern, htest] at h
    cases h

theorem report?_eq_some_iff :
    r.report? relpath p n line = some f ↔
      r.reportsLine p line = true ∧ f = r.report relpath n line := by
  rw [report?, Option.ite_none_right_eq_some, Option.some_inj, eq_comm (b := f)]

@[simp] theorem scanFrom_nil : r.scanFrom relpath p start [] = [] := rfl

theorem scanFrom_cons (line : List Char) (rest : List (List Char)) :
    r.scanFrom relpath p start (line :: rest) =
      (r.report? relpath p start line).toList ++ r.scanFrom relpath p (start + 1) rest := by
  rw [scanFrom, List.zipIdx_cons, List.filterMap_cons]
  dsimp only
  cases r.report? relpath p start line <;> rfl

theorem mem_scanFrom_iff {ls : List (List Char)} :
    f ∈ r.scanFrom relpath p start ls ↔
      ∃ i line, ls[i]? = some line ∧ r.reportsLine p line = true ∧
        f = r.report relpath (start + i) line := by
  rw [scanFrom, List.mem_filterMap]
  constructor
  · rintro ⟨⟨line, number⟩, hmem, hf⟩
    obtain ⟨hle, hline⟩ := List.mk_mem_zipIdx_iff_le_and_getElem?_sub.mp hmem
    obtain ⟨hreports, rfl⟩ := report?_eq_some_iff.mp hf
    exact ⟨number - start, line, hline, hreports, by rw [Nat.add_sub_cancel' hle]⟩
  · rintro ⟨i, line, hline, hreports, rfl⟩
    refine ⟨(line, start + i), ?_, report?_eq_some_iff.mpr ⟨hreports, rfl⟩⟩
    rw [List.mk_mem_zipIdx_iff_le_and_getElem?_sub, Nat.add_sub_cancel_left]
    exact ⟨Nat.le_add_right .., hline⟩

theorem scanFrom_eq_nil_iff {ls : List (List Char)} :
    r.scanFrom relpath p start ls = [] ↔ ∀ line ∈ ls, r.reportsLine p line = false := by
  rw [List.eq_nil_iff_forall_not_mem]
  constructor
  · intro h line hline
    obtain ⟨i, hi⟩ := List.mem_iff_getElem?.mp hline
    rw [← Bool.not_eq_true]
    intro hreports
    exact h _ (mem_scanFrom_iff.mpr ⟨i, line, hi, hreports, rfl⟩)
  · intro h f hf
    obtain ⟨i, line, hline, hreports, -⟩ := mem_scanFrom_iff.mp hf
    rw [h line (List.mem_of_getElem? hline)] at hreports
    cases hreports

/-- Nothing is found if and only if no line is reported. -/
theorem scan_eq_nil_iff (h : r.linePattern = some p) :
    r.scan relpath text = [] ↔
      ∀ line ∈ Text.lines text.toList, r.reportsLine p line = false := by
  rw [scan_eq_scanFrom h, scanFrom_eq_nil_iff]

/-- A finding bears the name of its rule and the path of its file. -/
theorem of_mem_scan (h : f ∈ r.scan relpath text) : f.rule = r.name ∧ f.path = relpath := by
  cases hpattern : r.linePattern with
  | some p =>
    rw [scan_eq_scanFrom hpattern] at h
    obtain ⟨i, line, -, -, rfl⟩ := mem_scanFrom_iff.mp h
    exact ⟨rfl, rfl⟩
  | none =>
    rcases scan_of_linePattern_eq_none hpattern relpath text with heq | heq <;> rw [heq] at h
    · cases h
    · obtain rfl := List.mem_singleton.mp h
      exact ⟨rfl, rfl⟩

/-- The reports come in the order of the lines, one for each. -/
theorem pairwise_scanFrom (ls : List (List Char)) :
    (r.scanFrom relpath p start ls).Pairwise Finding.Above := by
  induction ls generalizing start with
  | nil => exact .nil
  | cons line rest ih =>
    rw [scanFrom_cons, List.pairwise_append]
    refine ⟨?_, ih, ?_⟩
    · cases r.report? relpath p start line <;> simp
    · intro f hf g hg
      obtain ⟨-, rfl⟩ := report?_eq_some_iff.mp (Option.mem_toList.mp hf)
      obtain ⟨i, other, -, -, rfl⟩ := mem_scanFrom_iff.mp hg
      exact ⟨start, start + 1 + i, rfl, rfl, by omega⟩

/-! ### More lines in front -/

theorem later_report (n number : Nat) (line : List Char) :
    (r.report relpath number line).later n = r.report relpath (number + n) line := by
  simp [report, Finding.later]

theorem map_later_report? :
    (r.report? relpath p start line).map (Finding.later n) =
      r.report? relpath p (start + n) line := by
  unfold report?
  split
  · rw [Option.map_some, later_report]
  · rfl

/-- Lines in front make the numbers greater, and change nothing else. -/
theorem scanFrom_later (ls : List (List Char)) :
    r.scanFrom relpath p (start + n) ls =
      (r.scanFrom relpath p start ls).map (Finding.later n) := by
  induction ls generalizing start with
  | nil => rfl
  | cons line rest ih =>
    rw [scanFrom_cons, scanFrom_cons, List.map_append, ← ih, Nat.add_right_comm,
      ← map_later_report?]
    cases r.report? relpath p start line <;> rfl

theorem scanFrom_append (first second : List (List Char)) :
    r.scanFrom relpath p start (first ++ second) =
      r.scanFrom relpath p start first ++
        (r.scanFrom relpath p start second).map (Finding.later first.length) := by
  rw [scanFrom, List.zipIdx_append, List.filterMap_append, ← scanFrom_later]
  rfl

/-- Where one text ends with the end of a line, the other is scanned as if by itself. -/
theorem scan_append {a b : List Char} (h : r.linePattern = some p) (ha : Text.Closed a)
    (huntorn : Text.Untorn a b) :
    r.scan relpath (String.ofList (a ++ b)) =
      r.scan relpath (String.ofList a) ++
        (r.scan relpath (String.ofList b)).map (Finding.later (Text.lines a).length) := by
  simp only [scan_eq_scanFrom h, String.toList_ofList, Text.lines_append ha huntorn,
    scanFrom_append]

/-- A finding is settled by its line and by how many breaks come before it. -/
theorem mem_scan_iff (h : r.linePattern = some p) :
    f ∈ r.scan relpath text ↔
      ∃ before line after, text.toList = before ++ (line ++ after) ∧
        Text.Stands before line after ∧ r.reportsLine p line = true ∧
        f = r.report relpath (Text.breaks before + 1) line := by
  rw [scan_eq_scanFrom h, mem_scanFrom_iff]
  constructor
  · rintro ⟨i, line, hline, hreports, rfl⟩
    obtain ⟨before, after, htext, hstands, rfl⟩ := Text.getElem?_lines_iff.mp hline
    exact ⟨before, line, after, htext, hstands, hreports, by rw [Nat.add_comm]⟩
  · rintro ⟨before, line, after, htext, hstands, hreports, rfl⟩
    have hline := Text.getElem?_lines_iff.mpr ⟨before, after, htext, hstands, rfl⟩
    exact ⟨Text.breaks before, line, hline, hreports, by rw [Nat.add_comm]⟩

/-- **Scanning composes at line ends.**  What is found in two texts with a line feed between them
is what is found in the first, together with the line feed, and then what is found in the
second, with greater numbers.  Therefore a finding depends on its line and on the number of
breaks before it, and on nothing else in the text. -/
theorem scan_newline (h : r.linePattern = some p) (relpath a b : String) :
    r.scan relpath (a ++ "\n" ++ b) =
        r.scan relpath (a ++ "\n") ++
          (r.scan relpath b).map (Finding.later (Text.lines (a ++ "\n").toList).length) ∧
      (Text.lines (a ++ "\n").toList).length = Text.breaks (a ++ "\n").toList ∧
      ∀ text f, f ∈ r.scan relpath text ↔
        ∃ before line after, text.toList = before ++ (line ++ after) ∧
          Text.Stands before line after ∧ r.reportsLine p line = true ∧
          f = r.report relpath (Text.breaks before + 1) line := by
  have hchars : (a ++ "\n").toList = a.toList ++ ['\n'] := String.toList_append
  have hclosed : Text.Closed (a ++ "\n").toList := by
    rw [hchars, Text.closed_concat]
    rfl
  -- A carriage return at the end of `a` makes a pair with the line feed, not with what follows.
  have huntorn : Text.Untorn (a ++ "\n").toList b.toList := by
    rw [hchars]
    simp [Text.Untorn]
  refine ⟨?_, Text.length_lines hclosed, fun text f => mem_scan_iff h⟩
  have happend : r.scan relpath _ = _ := scan_append h hclosed huntorn
  rwa [← String.toList_append, String.ofList_toList, String.ofList_toList,
    String.ofList_toList] at happend

/-- With exclusions, and with a line feed that makes a pair: the reader of the second line is
harmless, and that of the third is not. -/
theorem scan_newline_prepared :
    Check.wpdbGet.scan "p.php"
        ("$wpdb->get_var($q);\r" ++ "\n" ++ "$wpdb->get_blog_prefix();\n $wpdb->get_row($q);") =
      [⟨"wpdb-get", "p.php", some 1, "$wpdb->get_var($q);"⟩,
       ⟨"wpdb-get", "p.php", some 3, "$wpdb->get_row($q);"⟩] := by
  rw [(scan_newline (r := Check.wpdbGet) rfl "p.php" "$wpdb->get_var($q);\r"
    "$wpdb->get_blog_prefix();\n $wpdb->get_row($q);").1]
  decide +kernel

/-! ### Rules about calls -/

/-- **A rule about calls reports the lines in which the function is called**, each by its number
and without the blanks at its ends, in the order of the lines and each once.  The name of the
function may be made of any characters. -/
theorem scan_call (function name relpath text : String) (extensions : Option (List String)) :
    let r := { Rule.call function with name, extensions }
    (∀ f, f ∈ r.scan relpath text ↔
      ∃ i line, (Text.lines text.toList)[i]? = some line ∧
        Pattern.Calls Text.isBlank function.toList line ∧
        f = ⟨name, relpath, some (i + 1 : Nat), String.ofList (Text.trim line)⟩) ∧
      (r.scan relpath text).Pairwise Finding.Above := by
  intro r
  have hpattern : r.linePattern = some (.callOf function) := rfl
  have hreports : ∀ line, r.reportsLine (.callOf function) line = true ↔
      Pattern.Calls Text.isBlank function.toList line := by
    intro line
    rw [← Pattern.found_callOf_iff]
    simp [r, reportsLine, call]
  rw [scan_eq_scanFrom hpattern]
  refine ⟨fun f => ?_, pairwise_scanFrom _⟩
  simp only [mem_scanFrom_iff, hreports, Nat.add_comm 1]
  rfl

example : (Rule.call "exec").scan "p.php" "shell_exec($a); exec ($b);\n$p->exec($c);" =
    [⟨"exec", "p.php", some 1, "shell_exec($a); exec ($b);"⟩] := by
  decide +kernel

end Rule

end PluginSweep
