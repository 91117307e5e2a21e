/-
PluginSweep/Proofs/Rule/Bytes.lean

Bytes that are no text hide nothing.  A line of bytes below 0x80 between two line feeds is
scanned as if by itself, whatever bytes stand before and after it (`scan_delimited`): what
comes before it is read up to the line feed and no further, and only moves its number.

The one thing that a line does not bring along is the line feed at its end.  It makes no
difference unless there is nothing else: no bytes are no line, but a line feed ends an empty
line, which a pattern that matches the empty text reports (`empty_line_reported`).
-/
import PluginSweep.Proofs.Rule.Lines
import PluginSweep.Proofs.Text.Utf8

namespace PluginSweep

/-! ### One line of many -/

namespace Finding

/-- The finding is on the line with the number. -/
def isOn (number : Nat) (f : Finding) : Bool :=
  f.line == some (number : Int)

end Finding

namespace Rule

variable {r : Rule} {p : Pattern} {relpath text other : String} {start i n : Nat}

theorem isOn_report {number : Nat} {line : List Char} :
    (r.report relpath n line).isOn number = true ↔ n = number := by
  show (some (n : Int) == some (number : Int)) = true ↔ n = number
  rw [beq_iff_eq, Option.some_inj, Int.ofNat_inj]

/-- The findings on a line are settled by the line. -/
theorem filter_scanFrom (ls : List (List Char)) (i : Nat) :
    (r.scanFrom relpath p start ls).filter (·.isOn (start + i)) =
      (ls[i]?.bind (r.report? relpath p (start + i))).toList := by
  induction ls generalizing start i with
  | nil => simp
  | cons line rest ih =>
    -- What is reported of the first line has its number, and what comes later a greater one.
    have hnumber : ∀ f ∈ (r.report? relpath p start line).toList, ∀ number,
        f.isOn number = true ↔ start = number := by
      intro f hf number
      obtain ⟨-, rfl⟩ := report?_eq_some_iff.mp (Option.mem_toList.mp hf)
      exact isOn_report
    rw [scanFrom_cons, List.filter_append]
    cases i with
    | zero =>
      have hfirst := List.filter_eq_self.mpr fun f hf =>
        (hnumber f hf _).mpr (Nat.add_zero start).symm
      have hrest : (r.scanFrom relpath p (start + 1) rest).filter (·.isOn (start + 0)) = [] := by
        rw [List.filter_eq_nil_iff]
        intro f hf
        obtain ⟨i, other, -, -, rfl⟩ := mem_scanFrom_iff.mp hf
        rw [isOn_report]
        omega
      rw [hfirst, hrest, List.append_nil]
      rfl
    | succ i =>
      have hfirst :
          (r.report? relpath p start line).toList.filter (·.isOn (start + (i + 1))) = [] := by
        rw [List.filter_eq_nil_iff]
        intro f hf
        rw [hnumber f hf]
        omega
      rw [hfirst, List.nil_append, List.getElem?_cons_succ,
        show start + (i + 1) = start + 1 + i by omega]
      exact ih i

/-- A line that is the only one of another text is reported as that text is. -/
theorem filter_scan (h : r.linePattern = some p)
    (hother : Text.lines other.toList = (Text.lines text.toList)[n]?.toList) :
    (r.scan relpath text).filter (·.isOn (n + 1)) =
      (r.scan relpath other).map (Finding.later n) := by
  rw [scan_eq_scanFrom h, scan_eq_scanFrom h, ← scanFrom_later, Nat.add_comm n, filter_scanFrom,
    hother]
  cases (Text.lines text.toList)[n]? with
  | none => rfl
  | some line => simp [scanFrom_cons]

end Rule

/-! ### Lines of bytes -/

namespace Text

/-- A line of bytes below 0x80, without a break in it, that line feeds or the ends of all bytes
set apart from what comes before it and what comes after it. -/
structure Delimited (before line after : List UInt8) : Prop where
  starts : ∀ b ∈ before.getLast?, b = 0x0A
  stops : ∀ b ∈ after.head?, b = 0x0A
  ascii : ∀ b ∈ line, b.toNat < 0x80
  unbroken : ∀ b ∈ line, isLineBreak (Char.ofNat b.toNat) = false

variable {before line after : List UInt8}

/-- A line feed is read where it stands, and so ends what comes before the line. -/
theorem Delimited.eq_newline (h : Delimited before line after) :
    ∀ c ∈ (decodeLossy before).getLast?, c = '\n' := by
  rcases List.eq_nil_or_concat before with rfl | ⟨front, b, rfl⟩
  · nofun
  · rw [List.concat_eq_append] at h ⊢
    obtain rfl : b = 0x0A := h.starts b (by simp)
    rw [decodeLossy_append_cons front [] (by decide), show decodeLossy [] = [] from rfl]
    simp

theorem Delimited.decodeLossy_eq (h : Delimited before line after) :
    decodeLossy (before ++ line ++ after) =
      decodeLossy before ++ (line.map (fun b => Char.ofNat b.toNat) ++ decodeLossy after) := by
  have hbefore : ∀ b ∈ before.getLast?, b.toNat < 0x80 := by
    intro b hb
    obtain rfl := h.starts b hb
    decide
  rw [List.append_assoc, decodeLossy_append hbefore, decodeLossy_ascii_append h.ascii]

/-- The line by itself is read byte by byte. -/
theorem Delimited.decodeLossy_line (h : Delimited before line after) :
    decodeLossy line = line.map (fun b => Char.ofNat b.toNat) := by
  have hread := decodeLossy_ascii_append h.ascii []
  rwa [List.append_nil, show decodeLossy [] = [] from rfl, List.append_nil] at hread

theorem Delimited.plain (h : Delimited before line after) :
    ∀ c ∈ line.map (fun b => Char.ofNat b.toNat), isLineBreak c = false :=
  List.forall_mem_map.mpr h.unbroken

/-- What comes after the line is nothing or a line feed, which is read by itself. -/
theorem Delimited.take_one (h : Delimited before line after) :
    decodeLossy (after.take 1) = (decodeLossy after).take 1 ∧
      ∀ c ∈ (decodeLossy after).head?, isLineBreak c = true := by
  cases after with
  | nil => exact ⟨rfl, nofun⟩
  | cons b after =>
    obtain rfl : b = 0x0A := h.stops b rfl
    have hread : decodeLossy (0x0A :: after) = '\n' :: decodeLossy after :=
      decodeLossy_append_cons [] after (by decide)
    rw [hread]
    refine ⟨rfl, fun c hc => ?_⟩
    obtain rfl := Option.some.inj hc
    rfl

/-- The line has the number that follows those of the lines before it; what it is does not
depend on what surrounds it, except that a line feed makes a line of nothing. -/
theorem Delimited.getElem?_lines (h : Delimited before line after) :
    (lines (decodeLossy (before ++ line ++ after)))[(lines (decodeLossy before)).length]?.toList =
      lines (decodeLossy (line ++ after.take 1)) := by
  have hclosed : Closed (decodeLossy before) := by
    intro c hc
    rw [h.eq_newline c hc]
    rfl
  have huntorn : ∀ rest, Untorn (decodeLossy before) rest := by
    intro rest hlast
    exact absurd (h.eq_newline _ hlast) (by decide)
  obtain ⟨htake, hstop⟩ := h.take_one
  rw [h.decodeLossy_eq, lines_append hclosed (huntorn _),
    List.getElem?_append_right (Nat.le_refl _), Nat.sub_self, ← List.head?_eq_getElem?,
    toList_head?_lines h.plain hstop, ← htake, decodeLossy_ascii_append h.ascii]

/-- A line that has bytes is a line even without the line feed. -/
theorem Delimited.lines_alone (h : Delimited before line after) (hne : line ≠ []) :
    lines (decodeLossy line) = [decodeLossy line] := by
  rw [h.decodeLossy_line]
  exact lines_unbroken h.plain (by simpa using hne)

theorem Delimited.lines_take (h : Delimited before line after) (hne : line ≠ []) :
    lines (decodeLossy (line ++ after.take 1)) = [decodeLossy line] := by
  cases after with
  | nil =>
    rw [List.take_nil, List.append_nil]
    exact h.lines_alone hne
  | cons b after =>
    obtain rfl : b = 0x0A := h.stops b rfl
    rw [decodeLossy_ascii_append h.ascii, h.decodeLossy_line]
    exact lines_unbroken_concat h.plain (by rfl)

end Text

namespace Rule

open Text (Delimited decodeLossy)

variable {r : Rule} {p : Pattern} {before line after : List UInt8} {b : UInt8}

/-- **Bytes that are no text hide nothing.**  A byte below 0x80 is read as its character, and what
comes before it and after it is read as if by itself.  So a line of such bytes between line
feeds is a line of the text, and it is reported, under its number, exactly as it is where there
is nothing but the line.  If nothing is in the line, it is reported as its line feed is by
itself. -/
theorem scan_delimited (h : r.linePattern = some p) (hline : Delimited before line after)
    (hb : b.toNat < 0x80) (relpath : String) (first second : List UInt8) :
    decodeLossy (first ++ [b] ++ second) =
        decodeLossy first ++ [Char.ofNat b.toNat] ++ decodeLossy second ∧
      let text (bytes : List UInt8) := String.ofList (decodeLossy bytes)
      let whole := before ++ line ++ after
      let n := (Text.lines (decodeLossy before)).length
      (r.scan relpath (text whole)).filter (·.isOn (n + 1)) =
          (r.scan relpath (text (line ++ after.take 1))).map (Finding.later n) ∧
        (line ≠ [] → (Text.lines (decodeLossy whole))[n]? = some (decodeLossy line) ∧
          (r.scan relpath (text whole)).filter (·.isOn (n + 1)) =
            (r.scan relpath (text line)).map (Finding.later n)) := by
  have hread := Text.decodeLossy_append_cons first second hb
  have hwhole := hline.getElem?_lines
  refine ⟨by simpa using hread, ?_, fun hne => ⟨?_, ?_⟩⟩
  · apply filter_scan h
    rw [String.toList_ofList, String.toList_ofList, hwhole]
  · rw [hline.lines_take hne] at hwhole
    exact Option.toList_eq_singleton_iff.mp hwhole
  · apply filter_scan h
    rw [String.toList_ofList, String.toList_ofList, hwhole, hline.lines_take hne,
      hline.lines_alone hne]

/-- A call between a character of another encoding and a byte that is nowhere part of a
character. -/
theorem scan_delimited_latin :
    ((call "eval").scan "p.php" (String.ofList
        (decodeLossy ([0xE9, 0x0A] ++ Text.encode "eval($x);" ++ [0x0A, 0xFF])))).filter
          (·.isOn 2) =
      [⟨"eval", "p.php", some 2, "eval($x);"⟩] := by
  have hbytes : (Text.encode "eval($x);").all (fun b =>
      decide (b.toNat < 0x80) && !Text.isLineBreak (Char.ofNat b.toNat)) = true := by
    decide +kernel
  simp only [List.all_eq_true, Bool.and_eq_true, decide_eq_true_eq, Bool.not_eq_true'] at hbytes
  have hline : Delimited [0xE9, 0x0A] (Text.encode "eval($x);") [0x0A, 0xFF] :=
    ⟨fun _ hb => (Option.some.inj hb).symm, fun _ hb => (Option.some.inj hb).symm,
      fun b hb => (hbytes b hb).1, fun b hb => (hbytes b hb).2⟩
  have hscan := scan_delimited (r := call "eval") (b := 0x0A) rfl hline (by decide) "p.php" [] []
  rw [show 2 = (Text.lines (decodeLossy [0xE9, 0x0A])).length + 1 by decide +kernel,
    (hscan.2.2 (by decide +kernel)).2]
  decide +kernel

/-- An empty line is reported by a rule that looks for the empty text, but nothing is reported
where there is no line. -/
theorem empty_line_reported :
    Delimited [] [] [0x0A] ∧
      (literal "blank" "").scan "p.php" (String.ofList (decodeLossy ([] ++ [] ++ [0x0A]))) =
        [⟨"blank", "p.php", some 1, ""⟩] ∧
      (literal "blank" "").scan "p.php" (String.ofList (decodeLossy [])) = [] :=
  ⟨⟨nofun, fun _ hb => (Option.some.inj hb).symm, nofun, nofun⟩, by decide +kernel,
    by decide +kernel⟩

end Rule

end PluginSweep
