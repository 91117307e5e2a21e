/-
PluginSweep/Proofs/Pattern/Call.lean

Calls of a function, as they stand in a text.  The name of the function is followed by
blanks, if any, and an opening parenthesis, and what comes before it does not make it part
of something else (`Free`).

The pattern for calls is found in a line exactly if the line has such a call
(`found_callOf_iff`), wherever in the line it is and whatever the name is made of.  In a
text of several lines a call can be broken between the name and the parenthesis; one that
is not broken is in one of the lines (`Calls.exists_line`).
-/
import PluginSweep.Proofs.Pattern.Match
import PluginSweep.Proofs.Text.Lines

namespace PluginSweep.Pattern

variable {before mid after line : List Char} {name : String}

/-! ### Calls -/

/-- A name that comes next is the name of a function: it is not the end of a longer identifier,
not a variable, and not a method. -/
@[mk_iff] structure Free (before : List Char) : Prop where
  identifier : ∀ c ∈ before.getLast?, Text.isWord c = false ∧ c ≠ '$'
  arrow : ¬ ['-', '>'] <:+ before
  colons : ¬ [':', ':'] <:+ before

/-- The function is called in the text, with characters of the class `gap` between its name and
the parenthesis. -/
def Calls (gap : Char → Bool) (name text : List Char) : Prop :=
  ∃ before blanks after, text = before ++ (name ++ (blanks ++ '(' :: after)) ∧ Free before ∧
    ∀ c ∈ blanks, gap c = true

/-- What is free stays free when it is cut at its start. -/
theorem Free.of_suffix {start : List Char} (h : Free before) (hstart : start <:+ before) :
    Free start where
  identifier := by
    intro c hc
    obtain ⟨front, rfl⟩ := hstart
    have hsome : start ≠ [] := by
      rintro rfl
      cases hc
    exact h.identifier c (by rwa [List.getLast?_append_of_ne_nil _ hsome])
  arrow := fun harrow => h.arrow (harrow.trans hstart)
  colons := fun hcolons => h.colons (hcolons.trans hstart)

/-! ### In a line -/

theorem exact_alike (d c : Char) : CaseRule.exact.alike d c = decide (d = c) :=
  beq_eq_decide d c

theorem forall₂_exact_alike_iff {s : List Char} :
    List.Forall₂ (fun d c => CaseRule.exact.alike d c = true) s mid ↔ s = mid := by
  simp only [exact_alike, decide_eq_true_eq]
  rw [List.forall₂_eq_eq_eq]

/-- The pattern looks behind itself for what `Free` says, and then reads the name, the blanks and
the parenthesis. -/
theorem matches_callOf_iff :
    (callOf name).Matches .exact before mid after ↔
      Free before ∧ ∃ blanks, mid = name.toList ++ (blanks ++ ['(']) ∧
        ∀ c ∈ blanks, Text.isBlank c = true := by
  simp only [callOf, sequence, ofString, Matches, forall₂_exact_alike_iff, exists_eq_right']
  simp only [free_iff, CharClass.contains, exact_alike, eq_comm (a := '$'), Bool.or_eq_false_iff,
    decide_eq_false_iff_not]
  constructor
  · rintro ⟨_, _, rfl, ⟨rfl, hidentifier⟩, _, _, rfl, ⟨rfl, harrow⟩, _, _, rfl, ⟨rfl, hcolons⟩,
      _, _, rfl, rfl, blanks, _, rfl, hblanks, rfl⟩
    exact ⟨⟨hidentifier, by simpa using harrow, by simpa using hcolons⟩, blanks, rfl, hblanks⟩
  · rintro ⟨⟨hidentifier, harrow, hcolons⟩, blanks, rfl, hblanks⟩
    exact ⟨[], _, rfl, ⟨rfl, hidentifier⟩, [], _, rfl, ⟨rfl, by simpa using harrow⟩,
      [], _, rfl, ⟨rfl, by simpa using hcolons⟩, _, _, rfl, rfl, blanks, _, rfl, hblanks, rfl⟩

/-- **The pattern for calls is found in a line exactly if the line calls the function.** -/
theorem found_callOf_iff :
    (callOf name).found .exact line = true ↔ Calls Text.isBlank name.toList line := by
  rw [found_eq_true_iff]
  constructor
  · rintro ⟨before, mid, after, rfl, hmatches⟩
    obtain ⟨hfree, blanks, rfl, hblanks⟩ := matches_callOf_iff.mp hmatches
    exact ⟨before, blanks, after, by simp, hfree, hblanks⟩
  · rintro ⟨before, blanks, after, rfl, hfree, hblanks⟩
    exact ⟨before, name.toList ++ (blanks ++ ['(']), after, by simp,
      matches_callOf_iff.mpr ⟨hfree, blanks, rfl, hblanks⟩⟩

/-! ### In a text -/

/-- A blank that ends no line. -/
def isInlineBlank (c : Char) : Bool :=
  Text.isBlank c && !Text.isLineBreak c

/-- **A call without a break is in one of the lines.** -/
theorem Calls.exists_line {function text : List Char}
    (hfunction : ∀ c ∈ function, Text.isLineBreak c = false)
    (h : Calls isInlineBlank function text) :
    ∃ line ∈ Text.lines text, Calls Text.isBlank function line := by
  obtain ⟨before, blanks, after, rfl, hfree, hblanks⟩ := h
  have hboth : ∀ c ∈ blanks, Text.isBlank c = true ∧ Text.isLineBreak c = false := by
    intro c hc
    simpa [isInlineBlank] using hblanks c hc
  have hplain : ∀ c ∈ function ++ (blanks ++ ['(']), Text.isLineBreak c = false := by
    intro c hc
    simp only [List.mem_append, List.mem_singleton] at hc
    rcases hc with hc | hc | rfl
    · exact hfunction c hc
    · exact (hboth c hc).2
    · decide
  obtain ⟨start, stop, hstart, -, hline⟩ :=
    Text.exists_line_of_unbroken (by simp) hplain before after
  refine ⟨_, by simpa using hline, start, blanks, stop, rfl, hfree.of_suffix hstart, ?_⟩
  exact fun c hc => (hboth c hc).1

end PluginSweep.Pattern
