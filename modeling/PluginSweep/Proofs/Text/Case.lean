/-
PluginSweep/Proofs/Text/Case.lean

Letters in lower case.  `Char.toLower` changes the 26 capital letters of the Latin alphabet and
leaves every other character as it is, so what is the same for each of these letters in either
case is the same for all characters (`apply_toLower`).  That holds of everything that is asked of
a character here: its key, and whether it is a word character, a blank or a break.

Hence a text in lower case has its lines and their blanks where they were (`lines_map_toLower`,
`trim_map_toLower`).

Keys are there for the sake of letters.  A character that comes before all letters is the key of
no other character (`foldKey_eq_iff`).
-/
import Mathlib
import PluginSweep.Proofs.Text.Lines
import PluginSweep.Text.Case
import PluginSweep.Text.Word

namespace PluginSweep.Text

variable {c d : Char} {a b text : List Char}

/-! ### Small and capital letters -/

theorem toNat_of_isUpper (hc : c.isUpper = true) : 65 ≤ c.toNat ∧ c.toNat ≤ 90 := by
  rw [Char.isUpper] at hc
  exact of_decide_eq_true hc

/-- What every capital letter has in common with the small one is the same in lower case. -/
theorem apply_toLower {β : Type} {f : Char → β}
    (h : ∀ n ∈ List.range' 65 26, f (Char.ofNat (n + 32)) = f (Char.ofNat n)) (c : Char) :
    f c.toLower = f c := by
  by_cases hc : c.isUpper = true
  · obtain ⟨hlow, hhigh⟩ := toNat_of_isUpper hc
    have hmem : c.toNat ∈ List.range' 65 26 := by
      rw [List.mem_range'_1]
      omega
    rw [Char.toLower_eq_of_isUpper hc, h _ hmem, Char.ofNat_toNat]
  · rw [Char.toLower_eq_of_not_isUpper hc]

theorem toLower_eq_toLower_iff {s t : String} :
    s.toLower = t.toLower ↔ s.toList.map Char.toLower = t.toList.map Char.toLower := by
  rw [String.toLower, String.toLower, ← String.toList_inj, String.toList_map, String.toList_map]

theorem foldKey_toLower (c : Char) : foldKey c.toLower = foldKey c :=
  apply_toLower (by decide) c

theorem isWord_toLower (c : Char) : isWord c.toLower = isWord c :=
  apply_toLower (by decide) c

theorem isBlank_toLower (c : Char) : isBlank c.toLower = isBlank c :=
  apply_toLower (by decide) c

theorem isLineBreak_toLower (c : Char) : isLineBreak c.toLower = isLineBreak c :=
  apply_toLower (by decide) c

/-- A character that comes before the letters is the lower case of itself only. -/
theorem toLower_eq_iff (hd : d.toNat < 65) : c.toLower = d ↔ c = d := by
  by_cases hc : c.isUpper = true
  · obtain ⟨hlow, hhigh⟩ := toNat_of_isUpper hc
    have hlower : c.toLower.toNat = c.toNat + 32 := by
      rw [Char.toLower_eq_of_isUpper hc, Char.toNat_ofNat, if_pos (.inl (by omega))]
    refine iff_of_false ?_ ?_
    · rintro rfl
      omega
    · rintro rfl
      omega
  · rw [Char.toLower_eq_of_not_isUpper hc]

/-! ### Keys -/

theorem image_of_mem_caseRuns : ∀ r ∈ caseRuns, 105 ≤ r.image ∧
    (r.image + (r.last - r.first) < 0xd800 ∨
      0xdfff < r.image ∧ r.image + (r.last - r.first) < 0x110000) := by
  decide +kernel

theorem of_mem_caseFamilies : ∀ family ∈ caseFamilies, 105 ≤ (Char.ofNat family.2).toNat := by
  decide +kernel

/-- Of the characters of other alphabets none has a lower case before the letter `i`. -/
theorem le_toNat_lower (hc : 128 ≤ c.toNat) : 105 ≤ (lower c).toNat := by
  have hother : ¬ c.val < 128 := Nat.not_lt.mpr hc
  rw [lower, if_neg hother]
  cases hrun : caseRuns.find? (·.covers c.toNat) with
  | none =>
    show 105 ≤ c.toNat
    omega
  | some r =>
    obtain ⟨himage, hvalid⟩ := image_of_mem_caseRuns r (List.mem_of_find?_eq_some hrun)
    have hcovers := List.find?_some hrun
    simp only [CaseRun.covers, Bool.and_eq_true, decide_eq_true_eq] at hcovers
    have happly : (r.apply c.toNat).isValidChar := by
      rw [CaseRun.apply, Nat.isValidChar]
      omega
    show 105 ≤ (Char.ofNat (r.apply c.toNat)).toNat
    rw [Char.toNat_ofNat, if_pos happly, CaseRun.apply]
    omega

theorem le_toNat_foldKey (hc : 128 ≤ c.toNat) : 105 ≤ (foldKey c).toNat := by
  have hother : ¬ c.val < 128 := Nat.not_lt.mpr hc
  rw [foldKey, if_neg hother]
  dsimp only
  cases hfamily : caseFamilies.lookup (lower c).toNat with
  | none => exact le_toNat_lower hc
  | some n =>
    obtain ⟨_, _, heq, -⟩ := List.lookup_eq_some_iff.mp hfamily
    exact of_mem_caseFamilies ((lower c).toNat, n) (by simp [heq])

/-- **A character that comes before the letters is the key of itself only.** -/
theorem foldKey_eq_iff (hd : d.toNat < 65) : foldKey c = d ↔ c = d := by
  by_cases hc : c.val < 128
  · rw [foldKey, if_pos hc, toLower_eq_iff hd]
  · have hother : 128 ≤ c.toNat := Nat.not_lt.mp hc
    have hkey := le_toNat_foldKey hother
    refine iff_of_false ?_ ?_
    · rintro rfl
      omega
    · rintro rfl
      omega

/-! ### Lines in lower case -/

theorem toLower_newline_iff : c.toLower = '\n' ↔ c = '\n' :=
  toLower_eq_iff (by decide)

theorem toLower_return_iff : c.toLower = '\r' ↔ c = '\r' :=
  toLower_eq_iff (by decide)

theorem Untorn.map_toLower (h : Untorn a b) :
    Untorn (a.map Char.toLower) (b.map Char.toLower) := by
  intro hlast hhead
  rw [List.getLast?_map, Option.map_eq_some_iff] at hlast
  rw [List.head?_map, Option.map_eq_some_iff] at hhead
  obtain ⟨last, hlast, hreturn⟩ := hlast
  obtain ⟨first, hhead, hnewline⟩ := hhead
  obtain rfl := toLower_return_iff.mp hreturn
  obtain rfl := toLower_newline_iff.mp hnewline
  exact h hlast hhead

theorem map_extend (f : Char → Char) (ls : List (List Char)) (c : Char) :
    (extend ls c).map (List.map f) = extend (ls.map (List.map f)) (f c) := by
  cases ls <;> rfl

/-- **The lines of a text in lower case are its lines in lower case.** -/
theorem lines_map_toLower (text : List Char) :
    lines (text.map Char.toLower) = (lines text).map (List.map Char.toLower) := by
  induction text using induction_on_breaks with
  | nil => rfl
  | pair rest ih =>
    rw [lines_pair, List.map_cons (f := List.map Char.toLower), ← ih]
    exact lines_pair _
  | stop c rest huntorn hbreak ih =>
    rw [lines_break huntorn hbreak, List.map_cons, List.map_cons,
      lines_break huntorn.map_toLower (by rw [isLineBreak_toLower, hbreak]), ih]
    rfl
  | plain c rest huntorn hplain ih =>
    rw [lines_plain hplain, List.map_cons, lines_plain (by rw [isLineBreak_toLower, hplain]), ih,
      map_extend]

theorem dropWhile_isBlank_map_toLower (text : List Char) :
    (text.map Char.toLower).dropWhile isBlank = (text.dropWhile isBlank).map Char.toLower := by
  have hblank : isBlank ∘ Char.toLower = isBlank := funext isBlank_toLower
  rw [List.dropWhile_map, hblank]

theorem trim_map_toLower (text : List Char) :
    trim (text.map Char.toLower) = (trim text).map Char.toLower := by
  rw [trim, trim, trimEnd, trimEnd, dropWhile_isBlank_map_toLower, ← List.map_reverse,
    dropWhile_isBlank_map_toLower, ← List.map_reverse]

end PluginSweep.Text
