/-
PluginSweep/Proofs/Check/Translations.lean

Which calls for a translation are reported.  The rule looks for the name of a function, a
parenthesis, one literal and the closing parenthesis.  It takes a literal to reach from a
quotation mark of either kind to the next one of either kind (`found_missingTextdomain_iff`).

So a call whose only argument is a literal is reported if the literal holds no quotation mark of
the other kind.  If it does, the rule takes it to end there, and unless something else in the line
makes up for it, the call is not reported (`literal_call_reported`, `apostrophe_unnoticed`).
-/
import PluginSweep.Proofs.Check.Reported
import PluginSweep.Proofs.Text.Occurrence

namespace PluginSweep.Check

open Pattern

/-! ### Calls -/

/-- The functions whose calls are looked at. -/
def translators : List String := ["__", "_e", "esc_html__", "esc_attr__"]

/-- A quotation mark of either kind. -/
def IsMark (c : Char) : Prop := c = '\'' ∨ c = '"'

instance (c : Char) : Decidable (IsMark c) :=
  inferInstanceAs (Decidable (_ ∨ _))

/-- The parts of a line in which a function is called with one literal. -/
structure LiteralCall where
  before : List Char
  function : String
  /-- What is between the name and the parenthesis. -/
  gap : List Char
  /-- What is before the literal. -/
  left : List Char
  opening : Char
  text : List Char
  closing : Char
  /-- What is behind the literal. -/
  right : List Char
  after : List Char

namespace LiteralCall

/-- What comes behind the opening parenthesis. -/
def argument (t : LiteralCall) : List Char :=
  t.left ++ t.opening :: (t.text ++ t.closing :: (t.right ++ ')' :: t.after))

/-- The line. -/
def line (t : LiteralCall) : List Char :=
  t.before ++ (t.function.toList ++ (t.gap ++ '(' :: t.argument))

/-- The function is one of those that are looked at, and its name does not go on to the left. -/
structure Named (t : LiteralCall) : Prop where
  known : t.function ∈ translators
  edge : ∀ c ∈ t.before.getLast?, Text.isWord c = false

/-- What the rule takes for a call with one literal. -/
structure Seen (t : LiteralCall) : Prop extends Named t where
  gap : ∀ c ∈ t.gap, Text.isBlank c = true
  left : ∀ c ∈ t.left, Text.isBlank c = true
  opening : IsMark t.opening
  filled : t.text ≠ []
  text : ∀ c ∈ t.text, ¬ IsMark c
  closing : IsMark t.closing
  right : ∀ c ∈ t.right, Text.isBlank c = true

/-- A call with one literal, which ends with the mark that it starts with, has something in it,
and spaces or tabs around it. -/
structure Written (t : LiteralCall) : Prop extends Named t where
  gap : t.gap = []
  left : ∀ c ∈ t.left, c = ' ' ∨ c = '\t'
  opening : IsMark t.opening
  filled : t.text ≠ []
  closing : t.closing = t.opening
  text : t.opening ∉ t.text
  right : ∀ c ∈ t.right, c = ' ' ∨ c = '\t'

end LiteralCall

/-! ### What the rule sees -/

section Seen

variable {line before rest : List Char}

theorem contains_quoteMark_iff {c : Char} :
    quoteMark.contains .exact c = true ↔ IsMark c := by
  simp [quoteMark, CharClass.oneOf, CharClass.contains, exact_alike, IsMark, eq_comm (b := c)]

theorem contains_compl_quoteMark_iff {c : Char} :
    (CharClass.compl quoteMark).contains .exact c = true ↔ ¬ IsMark c := by
  rw [← contains_quoteMark_iff, CharClass.contains, Bool.not_eq_true', Bool.not_eq_true]

/-- Names of the functions start with a word character. -/
theorem exists_word_of_translator {function : String} (h : function ∈ translators) :
    ∃ c rest, function.toList = c :: rest ∧ Text.isWord c = true := by
  have hall : translators.all (fun function => function.toList.head?.any Text.isWord) = true := by
    decide +kernel
  have hfirst := List.all_eq_true.mp hall function h
  rcases htext : function.toList with - | ⟨c, rest⟩
  · rw [htext] at hfirst
    cases hfirst
  · rw [htext] at hfirst
    exact ⟨c, rest, rfl, hfirst⟩

/-- In front of such a name is a word edge exactly if no word goes on there. -/
theorem atWordEdge_translator_iff {function : String} (h : function ∈ translators) :
    Place.atWordEdge ⟨before.reverse, function.toList ++ rest⟩ = true ↔
      ∀ c ∈ before.getLast?, Text.isWord c = false := by
  obtain ⟨c, others, htext, hword⟩ := exists_word_of_translator h
  rw [htext, Place.atWordEdge]
  simp [hword, Option.any_eq_false]

theorem matches_anyText_translators_iff {mid : List Char} :
    (anyText translators).Matches .exact before mid rest ↔
      ∃ function ∈ translators, mid = function.toList := by
  simp only [translators, anyText, ofString, Matches, forall₂_exact_alike_iff, List.mem_cons,
    List.not_mem_nil, or_false, exists_eq_or_imp, exists_eq_left, eq_comm (a := mid)]

theorem matches_oneOrMore_iff {k : CharClass} {mid : List Char} :
    (oneOrMore k).Matches .exact before mid rest ↔
      mid ≠ [] ∧ ∀ c ∈ mid, k.contains .exact c = true := by
  simp only [oneOrMore, Matches]
  constructor
  · rintro ⟨_, others, rfl, ⟨c, rfl, hc⟩, hothers⟩
    exact ⟨List.cons_ne_nil _ _, List.forall_mem_cons.mpr ⟨hc, hothers⟩⟩
  · rintro ⟨hne, hall⟩
    obtain ⟨c, others, rfl⟩ := List.exists_cons_of_ne_nil hne
    obtain ⟨hc, hothers⟩ := List.forall_mem_cons.mp hall
    exact ⟨[c], others, rfl, ⟨c, rfl, hc⟩, hothers⟩

theorem missingTextdomain_linePattern :
    missingTextdomain.linePattern = some (Pattern.sequence [wordEdge, anyText translators, opening,
      many .blank, one quoteMark, oneOrMore (.compl quoteMark), one quoteMark, many .blank,
      ofString ")"]) :=
  rfl

/-- **The pattern is found in a line exactly if the line has a call that the rule takes for one
with one literal.** -/
theorem found_missingTextdomain_iff :
    (Pattern.sequence [wordEdge, anyText translators, opening, many .blank, one quoteMark,
      oneOrMore (.compl quoteMark), one quoteMark, many .blank, ofString ")"]).found .exact line =
        true ↔ ∃ t : LiteralCall, t.line = line ∧ t.Seen := by
  rw [found_eq_true_iff]
  simp only [Pattern.sequence, Matches, matches_anyText_translators_iff, matches_oneOrMore_iff,
    opening, ofString, forall₂_exact_alike_iff, contains_quoteMark_iff,
    contains_compl_quoteMark_iff]
  constructor
  · rintro ⟨before, _, after, rfl, _, _, rfl, ⟨rfl, hedge⟩, _, _, rfl, ⟨function, hknown, rfl⟩,
      _, _, rfl, ⟨gap, _, rfl, hgap, rfl⟩, left, _, rfl, hleft, _, _, rfl, ⟨opening, rfl, hopening⟩,
      text, _, rfl, ⟨hfilled, htext⟩, _, _, rfl, ⟨closing, rfl, hclosing⟩, right, _, rfl, hright,
      rfl⟩
    -- An edge of a word before a name asks only for what comes before it.
    rw [List.append_assoc, atWordEdge_translator_iff hknown] at hedge
    refine ⟨⟨before, function, gap, left, opening, text, closing, right, after⟩, ?_,
      ⟨hknown, hedge⟩, hgap, hleft, hopening, hfilled, htext, hclosing, hright⟩
    simp [LiteralCall.line, LiteralCall.argument]
  · rintro ⟨t, rfl, h⟩
    refine ⟨t.before, _, t.after, ?_, [], _, rfl, ⟨rfl, ?_⟩, _, _, rfl, ⟨_, h.known, rfl⟩,
      _, _, rfl, ⟨_, _, rfl, h.gap, rfl⟩, _, _, rfl, h.left, _, _, rfl, ⟨_, rfl, h.opening⟩,
      _, _, rfl, ⟨h.filled, h.text⟩, _, _, rfl, ⟨_, rfl, h.closing⟩, _, _, rfl, h.right, rfl⟩
    · simp [LiteralCall.line, LiteralCall.argument]
    · rw [List.append_assoc, atWordEdge_translator_iff h.known]
      exact h.edge

end Seen

/-! ### Literals with a quotation mark in them -/

namespace LiteralCall

variable {t : LiteralCall} {relpath text : String} {i : Nat}

theorem isBlank_of_inline {c : Char} (h : c = ' ' ∨ c = '\t') : Text.isBlank c = true := by
  rcases h with rfl | rfl <;> decide

theorem not_isMark_of_isBlank {c : Char} (h : Text.isBlank c = true) : ¬ IsMark c := by
  rintro (rfl | rfl) <;> exact absurd h (by decide)

/-- A call is what the rule takes it for if no mark is in the literal. -/
theorem Written.seen (h : t.Written) (hplain : ∀ c ∈ t.text, ¬ IsMark c) : t.Seen where
  toNamed := h.toNamed
  gap := by
    rw [h.gap]
    exact fun c hc => absurd hc List.not_mem_nil
  left := fun c hc => isBlank_of_inline (h.left c hc)
  opening := h.opening
  filled := h.filled
  text := hplain
  closing := h.closing ▸ h.opening
  right := fun c hc => isBlank_of_inline (h.right c hc)

/-- No other call is in the line, and no parenthesis in the literal. -/
structure Alone (t : LiteralCall) : Prop where
  before : '(' ∉ t.before
  opened : '(' ∉ t.text
  closed : ')' ∉ t.text
  after : '(' ∉ t.after

theorem Written.not_mem_left (h : t.Written) {c : Char} (hspace : c ≠ ' ') (htab : c ≠ '\t') :
    c ∉ t.left ∧ c ∉ t.right :=
  ⟨fun hc => (h.left c hc).elim hspace htab, fun hc => (h.right c hc).elim hspace htab⟩

/-- The one parenthesis that opens comes before the argument. -/
theorem argument_eq {t' : LiteralCall} (h : t.Written) (halone : t.Alone)
    (hline : t'.line = t.line) : t'.argument = t.argument := by
  have hname : '(' ∉ t.function.toList := by
    have hall : translators.all (fun function => !function.toList.contains '(') = true := by
      decide +kernel
    have hnone := List.all_eq_true.mp hall _ h.known
    simpa using hnone
  have hfront : '(' ∉ t.before ++ t.function.toList ++ t.gap := by
    simp only [h.gap, List.append_nil, List.mem_append, not_or]
    exact ⟨halone.before, hname⟩
  have hargument : '(' ∉ t.argument := by
    obtain ⟨hleft, hright⟩ := h.not_mem_left (c := '(') (by decide) (by decide)
    have hmark : '(' ≠ t.opening := by
      rintro heq
      exact absurd (heq ▸ h.opening) (by decide)
    simp [argument, h.closing, hleft, hright, hmark, halone.opened, halone.after]
  have hsplit : t.before ++ t.function.toList ++ t.gap ++ '(' :: t.argument =
      t'.before ++ t'.function.toList ++ t'.gap ++ '(' :: t'.argument := by
    simpa [line] using hline.symm
  exact ((List.append_cons_inj_of_notMem hfront hargument).mp hsplit).2.2.symm

/-- If the line is that of a call which the rule takes for one with one literal, no mark is in the
literal that is there. -/
theorem Written.plain_of_seen {t' : LiteralCall} (h : t.Written) (halone : t.Alone)
    (hline : t'.line = t.line) (hseen : t'.Seen) : ∀ c ∈ t.text, ¬ IsMark c := by
  have hclosing : IsMark t.closing := h.closing ▸ h.opening
  obtain ⟨-, -, hrest⟩ := Text.eq_of_firsts (p := IsMark)
    (fun c hc => not_isMark_of_isBlank (hseen.left c hc)) hseen.opening
    (fun c hc => not_isMark_of_isBlank (isBlank_of_inline (h.left c hc))) h.opening
    (argument_eq h halone hline)
  rcases List.append_eq_append_iff.mp hrest with ⟨mid, htext, hmid⟩ | ⟨mid, htext, -⟩
  · cases mid with
    | nil =>
      rw [htext, List.append_nil]
      exact hseen.text
    | cons d mid =>
      -- The literal goes on behind the mark at which the rule takes it to end.
      obtain ⟨rfl, hbehind⟩ := List.cons.inj hmid
      have hin : ∀ c ∈ mid, c ∈ t.text := by
        intro c hc
        rw [htext]
        exact List.mem_append_right _ (List.mem_cons_of_mem _ hc)
      have hright : ∀ c ∈ t'.right, ¬ (c = ')' ∨ c = t.closing) := by
        intro c hc hstop
        have hblank := hseen.right c hc
        rcases hstop with rfl | rfl
        · exact absurd hblank (by decide)
        · exact not_isMark_of_isBlank hblank hclosing
      have hmid : ∀ c ∈ mid, ¬ (c = ')' ∨ c = t.closing) := by
        intro c hc hstop
        rcases hstop with rfl | rfl
        · exact halone.closed (hin _ hc)
        · exact h.text (h.closing ▸ hin _ hc)
      obtain ⟨-, hsame, -⟩ := Text.eq_of_firsts hright (.inl rfl) hmid (.inr rfl) hbehind
      exact absurd (hsame ▸ hclosing) (by decide)
  · intro c hc
    exact hseen.text c (htext ▸ List.mem_append_left _ hc)

theorem reports_iff_exists_seen {line : List Char}
    (h : (Text.lines text.toList)[i]? = some line) :
    Reports "i18n-missing-textdomain" relpath text (i + 1) ↔
      ∃ t : LiteralCall, t.line = line ∧ t.Seen := by
  rw [← found_missingTextdomain_iff]
  exact reports_iff_found rfl rfl missingTextdomain_linePattern rfl h

/-- A call that is alone in its line is reported exactly if no mark is in its literal. -/
theorem Written.reports_iff (h : t.Written) (halone : t.Alone)
    (hline : (Text.lines text.toList)[i]? = some t.line) :
    Reports "i18n-missing-textdomain" relpath text (i + 1) ↔ ∀ c ∈ t.text, ¬ IsMark c := by
  rw [reports_iff_exists_seen hline]
  constructor
  · rintro ⟨t', hline', hseen⟩
    exact h.plain_of_seen halone hline' hseen
  · exact fun hplain => ⟨t, rfl, h.seen hplain⟩

end LiteralCall

variable {t : LiteralCall} {relpath text : String} {i : Nat}

/-- **A call with one literal is reported unless the literal holds a quotation mark.**  Whatever
comes before the name of the function, as long as the name does not go on there, and whatever comes
behind the call, the line is reported if no quotation mark of the other kind is in the literal.  If
one is, and there are no other parentheses to make up for it, the line is not reported. -/
theorem literal_call_reported (h : t.Written)
    (hline : (Text.lines text.toList)[i]? = some t.line) :
    ((∀ c ∈ t.text, ¬ IsMark c) →
        Reports "i18n-missing-textdomain" relpath text (i + 1)) ∧
      (t.Alone → (Reports "i18n-missing-textdomain" relpath text (i + 1) ↔
        ∀ c ∈ t.text, ¬ IsMark c)) :=
  ⟨fun hplain => (LiteralCall.reports_iff_exists_seen hline).mpr ⟨t, rfl, h.seen hplain⟩,
    fun halone => h.reports_iff halone hline⟩

/-- A call in the middle of a line, with a parenthesis in its literal and another call behind. -/
def greeting : LiteralCall where
  before := ['<', 'b', '>']
  function := "esc_html__"
  gap := []
  left := ['\t', ' ']
  opening := '"'
  text := "Hello (all)".toList
  closing := '"'
  right := [' ']
  after := "; __( 'Hi', 'demo' );".toList

/-- A file with it. -/
def greetingText : String :=
  "<?php\r\n<b>esc_html__(\t \"Hello (all)\" ); __( 'Hi', 'demo' );\r\n"

theorem literal_call_reported_greeting :
    greeting.Written ∧ (Text.lines greetingText.toList)[1]? = some greeting.line ∧
      Reports "i18n-missing-textdomain" "hello.php" greetingText 2 := by
  have hwritten : greeting.Written :=
    ⟨⟨by decide, fun c hc => by cases hc; decide⟩, rfl, by simp [greeting], .inr rfl,
      by decide +kernel, rfl, by decide +kernel, by simp [greeting]⟩
  have hline : (Text.lines greetingText.toList)[1]? = some greeting.line := by
    decide +kernel
  have hall : greeting.text.all (fun c => !decide (IsMark c)) = true := by
    decide +kernel
  have hplain : ∀ c ∈ greeting.text, ¬ IsMark c := by
    simpa using hall
  exact ⟨hwritten, hline, (literal_call_reported hwritten hline).1 hplain⟩

/-! ### A call that is not noticed -/

/-- A call whose literal has an apostrophe between double quotation marks. -/
def apostrophe : LiteralCall where
  before := ['e', 'c', 'h', 'o', ' ']
  function := "__"
  gap := []
  left := [' ']
  opening := '"'
  text := "Don't".toList
  closing := '"'
  right := [' ']
  after := [';']

/-- A file with it. -/
def apostropheText : String :=
  "<?php\necho __( \"Don't\" );\n"

theorem apostrophe_unnoticed :
    apostrophe.Written ∧ (Text.lines apostropheText.toList)[1]? = some apostrophe.line ∧
      ¬ Reports "i18n-missing-textdomain" "demo.php" apostropheText 2 := by
  have hwritten : apostrophe.Written :=
    ⟨⟨by decide, fun c hc => by cases hc; decide⟩, rfl, by simp [apostrophe], .inr rfl,
      by decide +kernel, rfl, by decide +kernel, by simp [apostrophe]⟩
  have hline : (Text.lines apostropheText.toList)[1]? = some apostrophe.line := by
    decide +kernel
  have halone : apostrophe.Alone :=
    ⟨by decide +kernel, by decide +kernel, by decide +kernel, by decide⟩
  refine ⟨hwritten, hline, fun hreports => ?_⟩
  have hplain := (hwritten.reports_iff halone hline).mp hreports
  exact hplain '\'' (by decide +kernel) (.inl rfl)

end PluginSweep.Check
