/-
PluginSweep/Proofs/Rule/Numbering.lean

The numbers of reported lines.  Statistics count the parts of a file that end with a line feed
or with the file; rules number the lines of its text, of which there are more, since other
characters end lines as well.

Both are compared here (`scan_numbered`).  The lines are as many as the parts, and one more for
each break that is no newline and has something behind it; a line that is reported is in one
of the parts, and its number exceeds that of the part by the breaks of this kind before it.
So the two agree where there are no such breaks, and not otherwise (`form_feed_drifts`).
-/
import PluginSweep.Proofs.Rule.Lines
import PluginSweep.Proofs.Text.Newlines
import PluginSweep.Walk

namespace PluginSweep.Rule

open Text (decodeLossy strays drift)

variable {r : Rule} {p : Pattern} {relpath text : String} {bytes : List UInt8} {f : Finding}

/-- Only rules that try a pattern on each line report lines. -/
theorem exists_linePattern {n : Int} (hf : f ∈ r.scan relpath text) (hline : f.line = some n) :
    ∃ p, r.linePattern = some p := by
  rcases hpattern : r.linePattern with - | p
  · rcases scan_of_linePattern_eq_none hpattern relpath text with heq | heq <;> rw [heq] at hf
    · cases hf
    · obtain rfl := List.mem_singleton.mp hf
      cases hline
  · exact ⟨p, rfl⟩

/-- The finding is on the line that follows `before`, which is in this part of the bytes. -/
structure Numbered (r : Rule) (relpath : String) (bytes : List UInt8) (f : Finding)
    (before line : List Char) (part : List UInt8) : Prop where
  stands : before ++ line <+: decodeLossy bytes
  reports : ∃ p, r.linePattern = some p ∧ r.reportsLine p line = true
  /-- The line feeds before the line are the ends of the parts before this one. -/
  place : (bytes.splitOn 0x0A)[before.count '\n']? = some part
  within : line <:+: decodeLossy part
  /-- All other breaks before the line make its number greater than that of the part. -/
  number : f = r.report relpath (before.count '\n' + 1 + strays before) line

/-- A finding of a pattern is on a line in one of the parts. -/
theorem exists_numbered (h : r.linePattern = some p)
    (hf : f ∈ r.scan relpath (String.ofList (decodeLossy bytes))) :
    ∃ before line part, Numbered r relpath bytes f before line part ∧
      strays before ≤ drift (decodeLossy bytes) ∧
      before.count '\n' + 1 + strays before ≤ (Text.lines (decodeLossy bytes)).length := by
  obtain ⟨before, line, after, htext, hstands, hreports, hnumber⟩ := (mem_scan_iff h).mp hf
  rw [String.toList_ofList] at htext
  have hline : '\n' ∉ line := fun hmem => absurd (hstands.plain _ hmem) (by decide)
  obtain ⟨whole, hwhole, hwithin⟩ := Text.exists_part hline before after
  rw [← htext, Text.splitOn_decodeLossy, List.getElem?_map, Option.map_eq_some_iff] at hwhole
  obtain ⟨part, hpart, rfl⟩ := hwhole
  have hcount : Text.breaks before + 1 = before.count '\n' + 1 + strays before := by
    rw [Text.breaks_eq, Nat.add_right_comm]
  rw [hcount] at hnumber
  refine ⟨before, line, part, ⟨⟨after, by simp [htext]⟩, ⟨p, h, hreports⟩, hpart, hwithin, hnumber⟩,
    ?_, ?_⟩
  · rw [htext, Text.drift_append hstands.untorn hstands.ne_nil]
    exact Nat.le_add_right _ _
  · rw [← hcount, htext]
    exact (List.getElem?_eq_some_iff.mp hstands.getElem?_lines).1

theorem length_lines_decodeLossy (bytes : List UInt8) :
    (Text.lines (decodeLossy bytes)).length = lineCount bytes + drift (decodeLossy bytes) := by
  rw [Text.length_lines_eq_partCount_add_drift, Text.partCount_decodeLossy]
  rfl

/-- **Lines as they are numbered and as they are counted.**  For all bytes, the lines of the text
are as many as are counted, and one more for each break that is no newline and has something
behind it; what is reported under a number is in the part of the bytes with that number less the
breaks of this kind before it.  So where there are none, a number is at most the count, and it is
the number of the part that holds what is reported. -/
theorem scan_numbered (r : Rule) (relpath : String) (bytes : List UInt8) :
    let text := decodeLossy bytes
    (Text.lines text).length = lineCount bytes + drift text ∧
      (∀ f ∈ r.scan relpath (String.ofList text), ∀ n, f.line = some n →
        n ≤ (lineCount bytes + drift text : Nat) ∧
          ∃ before line part, Numbered r relpath bytes f before line part ∧
            strays before ≤ drift text) ∧
      (drift text = 0 → (Text.lines text).length = lineCount bytes ∧
        ∀ f ∈ r.scan relpath (String.ofList text), ∀ n, f.line = some n →
          n ≤ lineCount bytes ∧ ∃ before line part, Numbered r relpath bytes f before line part ∧
            n = (before.count '\n' + 1 : Nat)) := by
  intro text
  have hlength : (Text.lines text).length = lineCount bytes + drift text :=
    length_lines_decodeLossy bytes
  -- What is found on a line is found in the part of the bytes that the line comes from.
  have hfound : ∀ f ∈ r.scan relpath (String.ofList text), ∀ n, f.line = some n →
      ∃ before line part, Numbered r relpath bytes f before line part ∧
        strays before ≤ drift text ∧ n = (before.count '\n' + 1 + strays before : Nat) ∧
        n ≤ (lineCount bytes + drift text : Nat) := by
    intro f hf n hn
    obtain ⟨p, hp⟩ := exists_linePattern hf hn
    obtain ⟨before, line, part, hnumbered, hstrays, hle⟩ := exists_numbered hp hf
    change _ ≤ (Text.lines text).length at hle
    have hnumber : n = (before.count '\n' + 1 + strays before : Nat) := by
      rw [hnumbered.number] at hn
      exact (Option.some.inj hn).symm
    rw [hlength] at hle
    exact ⟨before, line, part, hnumbered, hstrays, hnumber, by omega⟩
  refine ⟨hlength, fun f hf n hn => ?_, fun hdrift => ⟨by omega, fun f hf n hn => ?_⟩⟩
  · obtain ⟨before, line, part, hnumbered, hstrays, -, hle⟩ := hfound f hf n hn
    exact ⟨hle, before, line, part, hnumbered, hstrays⟩
  · obtain ⟨before, line, part, hnumbered, hstrays, hnumber, hle⟩ := hfound f hf n hn
    exact ⟨by omega, before, line, part, hnumbered, by omega⟩

/-- After a paragraph separator the number is one more than that of the part; a form feed at the end
makes no difference. -/
theorem scan_numbered_separators :
    let bytes := Text.encode "<?php\u2029\r\neval($x);\x0c"
    let plain := Text.encode "<?php\r\neval($x);\x0c"
    ((Text.lines (decodeLossy bytes)).length = lineCount bytes + 1 ∧
      ∃ before line part, Numbered (call "eval") "p.php" bytes
        ⟨"eval", "p.php", some 3, "eval($x);"⟩ before line part ∧ strays before ≤ 1) ∧
    ((Text.lines (decodeLossy plain)).length = lineCount plain ∧
      ∃ before line part, Numbered (call "eval") "p.php" plain
        ⟨"eval", "p.php", some 2, "eval($x);"⟩ before line part ∧
          (2 : Int) = (before.count '\n' + 1 : Nat)) := by
  intro bytes plain
  have hdrift : drift (decodeLossy bytes) = 1 := by
    decide +kernel
  have hscan : (call "eval").scan "p.php" (String.ofList (decodeLossy bytes)) =
      [⟨"eval", "p.php", some 3, "eval($x);"⟩] := by
    decide +kernel
  have hdriftless : drift (decodeLossy plain) = 0 := by
    decide +kernel
  have hscan' : (call "eval").scan "p.php" (String.ofList (decodeLossy plain)) =
      [⟨"eval", "p.php", some 2, "eval($x);"⟩] := by
    decide +kernel
  obtain ⟨hlength, hfound, -⟩ := scan_numbered (call "eval") "p.php" bytes
  obtain ⟨-, -, hagree⟩ := scan_numbered (call "eval") "p.php" plain
  obtain ⟨hlength', hfound'⟩ := hagree hdriftless
  rw [hscan] at hfound
  rw [hscan'] at hfound'
  obtain ⟨-, hplace⟩ := hfound _ (List.mem_singleton_self _) 3 rfl
  obtain ⟨-, hplace'⟩ := hfound' _ (List.mem_singleton_self _) 2 rfl
  rw [hdrift] at hlength hplace
  exact ⟨⟨hlength, hplace⟩, hlength', hplace'⟩

/-- **A form feed makes the numbers drift**: of a file with one line the second line is reported. -/
theorem form_feed_drifts :
    ∃ bytes, bytes = Text.encode "a\x0ceval($x);\n" ∧ lineCount bytes = 1 ∧
      (Text.lines (decodeLossy bytes)).length = 2 ∧
      (call "eval").scan "p.php" (String.ofList (decodeLossy bytes)) =
        [⟨"eval", "p.php", some 2, "eval($x);"⟩] := by
  refine ⟨_, rfl, ?_, ?_, ?_⟩ <;> decide +kernel

end PluginSweep.Rule
