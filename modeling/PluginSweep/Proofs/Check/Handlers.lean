/-
PluginSweep/Proofs/Check/Handlers.lean

Which check reports the registration of a handler.  The text by which a registration is known
stands in its line once, right before the name of the action.  So each of the two checks looks at
that name only: the check of public handlers reports the names that start with `nopriv_`, and
that of handlers for logged-in users those that do not start with `n` (`handlers_told_apart`).

No line is reported by both, and a name that starts with `n` but not with `nopriv_` is reported
by neither (`handler_unnoticed`).
-/
import PluginSweep.Proofs.Check.Reported
import PluginSweep.Proofs.Text.Occurrence

namespace PluginSweep.Check

open Pattern

/-! ### Registrations -/

/-- The function that registers a handler. -/
def registrar : List Char := ['a', 'd', 'd', '_', 'a', 'c', 't', 'i', 'o', 'n']

/-- The text in front of the name of an action. -/
def handlerMark : List Char := ['w', 'p', '_', 'a', 'j', 'a', 'x', '_']

/-- The beginning of the name of an action that is open to everyone. -/
def publicMark : List Char := ['n', 'o', 'p', 'r', 'i', 'v', '_']

theorem toList_registrar : "add_action".toList = registrar := by
  decide +kernel

theorem toList_handlerMark : "wp_ajax_".toList = handlerMark := by
  decide +kernel

theorem toList_publicMark : "wp_ajax_nopriv_".toList = handlerMark ++ publicMark := by
  decide +kernel

/-- The registration of a handler: the function that registers it is called with the name of an
action, in quotes of either kind. -/
structure Registration where
  blanks : List Char
  quote : Char
  action : List Char
  rest : List Char
  inline : ∀ c ∈ blanks, c = ' ' ∨ c = '\t'
  quoted : quote = '\'' ∨ quote = '"'
  named : action ≠ []
  word : ∀ c ∈ action, Text.isWord c = true
  /-- The mark is neither in the name nor behind it. -/
  plain : ¬ handlerMark <:+: action
  sole : ¬ handlerMark <:+: rest

namespace Registration

variable {g : Registration} {relpath text : String} {i : Nat} {start behind : List Char}

/-- What comes before the mark. -/
def front (g : Registration) : List Char :=
  registrar ++ '(' :: (g.blanks ++ [g.quote])

/-- The line of a registration. -/
def line (g : Registration) : List Char :=
  g.front ++ (handlerMark ++ (g.action ++ g.quote :: g.rest))

theorem quote_ne (g : Registration) : g.quote ≠ 'w' ∧ g.quote ≠ '\n' ∧ g.quote ∉ handlerMark ∧
    g.quote ∉ publicMark := by
  rcases g.quoted with h | h <;> rw [h] <;> decide

/-- A character that is not in the call itself, and is no blank, does not come before the mark. -/
theorem not_mem_front {c : Char} (hcall : c ∉ registrar ++ ['(', ' ', '\t'])
    (hquote : g.quote ≠ c) : c ∉ g.front := by
  simp only [List.mem_append, List.mem_cons, List.not_mem_nil, or_false, not_or] at hcall
  obtain ⟨hname, hopening, hspace, htab⟩ := hcall
  simp only [front, List.mem_append, List.mem_cons, List.not_mem_nil, or_false, not_or]
  exact ⟨hname, hopening, fun hblank => (g.inline c hblank).elim hspace htab, hquote.symm⟩

/-- The mark is in one place of the line, right before the name. -/
theorem eq_of_line (h : g.line = start ++ (handlerMark ++ behind)) :
    start = g.front ∧ behind = g.action ++ g.quote :: g.rest := by
  have hbehind : ¬ handlerMark <:+: g.action ++ g.quote :: g.rest := by
    rw [Text.infix_append_cons_iff g.quote_ne.2.2.1, not_or]
    exact ⟨g.plain, g.sole⟩
  exact Text.eq_of_sole (not_mem_front (by decide) g.quote_ne.1) (by decide) hbehind h

/-! ### Patterns in the line -/

/-- The pattern for handlers reads the character behind the mark, which is the first of the name,
and any will do but one. -/
theorem found_ajaxHandler_iff :
    (Pattern.sequence [ofString "add_action", many anyChar, ofString "wp_ajax_",
      one (.noneOf "n")]).found .exact g.line = true ↔ g.action.head? ≠ some 'n' := by
  obtain ⟨first, others, haction⟩ := List.exists_cons_of_ne_nil g.named
  have hnone : ∀ c, (CharClass.noneOf "n").contains .exact c = true ↔ c ≠ 'n' := by
    intro c
    simp [CharClass.noneOf, CharClass.oneOf, CharClass.contains, exact_alike, eq_comm (a := 'n')]
  have hany : ∀ c, anyChar.contains .exact c = true ↔ c ≠ '\n' := by
    intro c
    simp [anyChar, CharClass.contains, exact_alike, eq_comm (a := '\n')]
  rw [found_eq_true_iff, haction, List.head?_cons]
  simp only [Pattern.sequence, ofString, Matches, forall₂_exact_alike_iff, hnone, hany,
    toList_registrar, toList_handlerMark]
  constructor
  · rintro ⟨before, _, after, hline, _, _, rfl, rfl, gap, _, rfl, -, _, _, rfl, rfl, c, rfl, hc⟩
    -- The mark that was found is the one of the line, for it stands nowhere else in it.
    have hplace : g.line = (before ++ registrar ++ gap) ++ (handlerMark ++ c :: after) := by
      rw [hline]
      simp only [List.append_assoc, List.cons_append, List.nil_append]
    obtain ⟨-, hbehind⟩ := eq_of_line hplace
    rw [haction] at hbehind
    obtain ⟨rfl, -⟩ := List.cons.inj hbehind
    simpa using hc
  · intro hfirst
    -- All before the mark can be passed over, since no line break is in it.
    have hgap : '\n' ∉ '(' :: (g.blanks ++ [g.quote]) := fun hmem =>
      not_mem_front (by decide) g.quote_ne.2.1 (List.mem_append_right registrar hmem)
    refine ⟨[], _, others ++ g.quote :: g.rest, ?_, _, _, rfl, rfl,
      '(' :: (g.blanks ++ [g.quote]), _, rfl, fun c hc heq => hgap (heq ▸ hc), _, _, rfl, rfl,
      first, rfl, fun heq => hfirst (congrArg some heq)⟩
    simp only [line, front, haction, List.append_assoc, List.cons_append, List.nil_append]

/-- The text of public handlers is the mark with the beginning of their names. -/
theorem found_publicHandler_iff :
    (ofString "wp_ajax_nopriv_").found .exact g.line = true ↔ publicMark <+: g.action := by
  have hprefix : publicMark <+: g.action ++ g.quote :: g.rest ↔ publicMark <+: g.action :=
    Text.prefix_append_cons_iff g.quote_ne.2.2.2
  rw [found_eq_true_iff, ← hprefix]
  simp only [ofString, Matches, forall₂_exact_alike_iff, toList_publicMark]
  constructor
  · rintro ⟨before, _, after, hline, rfl⟩
    rw [List.append_assoc] at hline
    obtain ⟨-, hbehind⟩ := eq_of_line hline
    exact ⟨after, hbehind⟩
  · rintro ⟨after, hbehind⟩
    refine ⟨g.front, _, after, ?_, rfl⟩
    rw [line, ← hbehind, List.append_assoc]

/-! ### The two checks -/

theorem reports_ajaxHandlers_iff (h : (Text.lines text.toList)[i]? = some g.line) :
    Reports "ajax-handlers" relpath text (i + 1) ↔ g.action.head? ≠ some 'n' := by
  rw [← found_ajaxHandler_iff]
  exact reports_iff_found (r := ajaxHandler) rfl rfl rfl rfl h

theorem reports_publicAjax_iff (h : (Text.lines text.toList)[i]? = some g.line) :
    Reports "public-ajax" relpath text (i + 1) ↔ publicMark <+: g.action := by
  rw [← found_publicHandler_iff]
  exact reports_iff_found (r := .literal "wp_ajax_nopriv" "wp_ajax_nopriv_") rfl rfl rfl rfl h

theorem head?_of_publicMark (h : publicMark <+: g.action) : g.action.head? = some 'n' := by
  obtain ⟨behind, hbehind⟩ := h
  rw [← hbehind]
  rfl

end Registration

variable {text : String} {i : Nat}

/-- **Handlers are told apart by the beginning of their names.**  The line of a registration is
reported as that of a handler for logged-in users unless the name of the action starts with `n`,
and as that of a public handler exactly if it starts with `nopriv_`.  So no line is reported by
both checks, every line is reported by one of them unless its name starts with `n` and goes on
otherwise, and then it is reported by neither. -/
theorem handlers_told_apart (relpath : String) (g : Registration)
    (h : (Text.lines text.toList)[i]? = some g.line) :
    (Reports "ajax-handlers" relpath text (i + 1) ↔ g.action.head? ≠ some 'n') ∧
      (Reports "public-ajax" relpath text (i + 1) ↔ publicMark <+: g.action) ∧
      ((g.action.head? = some 'n' → publicMark <+: g.action) →
        (Reports "ajax-handlers" relpath text (i + 1) ↔ ¬ publicMark <+: g.action) ∧
        Xor (Reports "ajax-handlers" relpath text (i + 1))
          (Reports "public-ajax" relpath text (i + 1))) ∧
      (g.action.head? = some 'n' ∧ ¬ publicMark <+: g.action ↔
        ¬ Reports "ajax-handlers" relpath text (i + 1) ∧
          ¬ Reports "public-ajax" relpath text (i + 1)) := by
  have hajax : Reports "ajax-handlers" relpath text (i + 1) ↔ g.action.head? ≠ some 'n' :=
    Registration.reports_ajaxHandlers_iff h
  have hpublic : Reports "public-ajax" relpath text (i + 1) ↔ publicMark <+: g.action :=
    Registration.reports_publicAjax_iff h
  refine ⟨hajax, hpublic, fun hname => ?_, by rw [hajax, hpublic, not_not]⟩
  have hsplit : g.action.head? ≠ some 'n' ↔ ¬ publicMark <+: g.action :=
    not_congr ⟨hname, Registration.head?_of_publicMark⟩
  rw [hajax, hpublic, hsplit]
  exact ⟨Iff.rfl, xor_not_left.mpr Iff.rfl⟩

/-- The registration of a public handler, with a tab and double quotes. -/
def openVote : Registration where
  blanks := ['\t']
  quote := '"'
  action := "nopriv_vote".toList
  rest := ", 'n_wp_ajax');".toList
  inline := by simp
  quoted := .inr rfl
  named := by decide +kernel
  word := List.all_eq_true.mp (by decide +kernel)
  plain := by decide +kernel
  sole := by decide +kernel

/-- A file that registers it. -/
def openVoteText : String :=
  "<?php\r\nadd_action(\t\"wp_ajax_nopriv_vote\", 'n_wp_ajax');\r\n"

theorem handlers_told_apart_openVote :
    (Text.lines openVoteText.toList)[1]? = some openVote.line ∧
      ¬ Reports "ajax-handlers" "vote.php" openVoteText 2 ∧
      Reports "public-ajax" "vote.php" openVoteText 2 := by
  have hline : (Text.lines openVoteText.toList)[1]? = some openVote.line := by
    decide +kernel
  have happart := handlers_told_apart "vote.php" openVote hline
  refine ⟨hline, fun hajax => ?_, happart.2.1.mpr (by decide +kernel)⟩
  exact absurd (by decide +kernel) (happart.1.mp hajax)

/-! ### A handler that is not noticed -/

/-- The registration of a handler for logged-in users whose name starts with the letter that
public handlers start with. -/
def notifier : Registration where
  blanks := [' ']
  quote := '\''
  action := "notify".toList
  rest := ", 'demo_notify' );".toList
  inline := by simp
  quoted := .inl rfl
  named := by decide +kernel
  word := List.all_eq_true.mp (by decide +kernel)
  plain := by decide +kernel
  sole := by decide +kernel

/-- A file that registers it. -/
def notifierText : String :=
  "<?php\nadd_action( 'wp_ajax_notify', 'demo_notify' );\n"

/-- It is no public handler, and neither check reports it. -/
theorem handler_unnoticed :
    (Text.lines notifierText.toList)[1]? = some notifier.line ∧
      ¬ publicMark <+: notifier.action ∧
      ¬ Reports "ajax-handlers" "demo.php" notifierText 2 ∧
      ¬ Reports "public-ajax" "demo.php" notifierText 2 := by
  have hline : (Text.lines notifierText.toList)[1]? = some notifier.line := by
    decide +kernel
  have hclosed : ¬ publicMark <+: notifier.action := by
    decide +kernel
  refine ⟨hline, hclosed, fun hajax => ?_, fun hpublic => ?_⟩
  · exact absurd (by decide +kernel) ((Registration.reports_ajaxHandlers_iff hline).mp hajax)
  · exact absurd ((Registration.reports_publicAjax_iff hline).mp hpublic) hclosed

end PluginSweep.Check
