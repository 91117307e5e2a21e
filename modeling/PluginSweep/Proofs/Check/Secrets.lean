/-
PluginSweep/Proofs/Check/Secrets.lean

What the rules about credentials look for.  One looks for a word that secrets go by, an operator of
one character and the beginning of a literal (`Assigns`), the other for the definition of a
constant with such a word in its name (`Defines`), in whatever case the words are written.  A line
is reported exactly if it holds one or the other (`reports_credentials_iff`).

Neither reaches across an arrow that comes behind a quotation mark: a line with one is reported
exactly if what is before the arrow or what is behind it holds what the rules look for
(`reveals_arrow_iff`).
-/
import PluginSweep.Proofs.Check.Translations
import PluginSweep.Proofs.Pattern.Case

namespace PluginSweep.Check

open Pattern

variable {line mid back before after body u v : List Char} {c d k mark : Char}
  {words : List (List Char)}

/-! ### Words and signs -/

/-- The words that secrets go by. -/
def secretWords : List (List Char) :=
  ["api_key", "api-key", "apikey", "secret_key", "secret-key", "secretkey", "password", "token",
    "auth"].map String.toList

/-- The words in the names of secret constants. -/
def constantWords : List (List Char) :=
  ["key", "secret", "token", "password"].map String.toList

/-- The signs that come between the name of a secret and the secret. -/
def IsOperator (c : Char) : Prop := c = '=' ∨ c = ':' ∨ c = '>'

instance (c : Char) : Decidable (IsOperator c) :=
  inferInstanceAs (Decidable (_ ∨ _))

theorem contains_operator_iff :
    (CharClass.oneOf "=:>").contains .ignore c = true ↔ IsOperator c := by
  have hequals := alike_iff_eq (c := c) (d := '=') (by decide)
  have hcolon := alike_iff_eq (c := c) (d := ':') (by decide)
  have hgreater := alike_iff_eq (c := c) (d := '>') (by decide)
  simp [CharClass.oneOf, CharClass.contains, IsOperator, hequals, hcolon, hgreater]

theorem contains_ignore_quoteMark_iff : quoteMark.contains .ignore c = true ↔ IsMark c := by
  have hsingle := alike_iff_eq (c := c) (d := '\'') (by decide)
  have hdouble := alike_iff_eq (c := c) (d := '"') (by decide)
  simp [quoteMark, CharClass.oneOf, CharClass.contains, IsMark, hsingle, hdouble]

/-- A character between the ends of a range is in it. -/
theorem contains_range {first last : Char} (hfirst : first.toNat ≤ c.toNat)
    (hlast : c.toNat ≤ last.toNat) : (CharClass.range first last).contains .ignore c = true := by
  rw [CharClass.contains, List.any_eq_true]
  refine ⟨c.toNat, ?_, ?_⟩
  · rw [List.mem_range'_1]
    omega
  · rw [Char.ofNat_toNat, alike_ignore_iff]

theorem contains_latinAlphanumeric (h : c.isAlphanum = true) :
    latinAlphanumeric.contains .ignore c = true := by
  rw [Char.isAlphanum, Char.isAlpha, Bool.or_eq_true, Bool.or_eq_true] at h
  simp only [latinAlphanumeric, CharClass.contains, Bool.or_eq_true]
  rcases h with (hupper | hlower) | hdigit
  · obtain ⟨hfirst, hlast⟩ := Text.toNat_of_isUpper hupper
    exact .inl (.inr (contains_range hfirst hlast))
  · rw [Char.isLower, Bool.and_eq_true, decide_eq_true_eq, decide_eq_true_eq] at hlower
    obtain ⟨hfirst, hlast⟩ := hlower
    exact .inl (.inl (contains_range hfirst hlast))
  · obtain ⟨hfirst, hlast⟩ := Char.isDigit_iff_toNat.mp hdigit
    exact .inr (contains_range hfirst hlast)

/-- The signs that the rules look for beside words and quotation marks. -/
def IsSign (c : Char) : Prop := IsOperator c ∨ c = '('

instance (c : Char) : Decidable (IsSign c) :=
  inferInstanceAs (Decidable (_ ∨ _))

theorem toNat_lt_of_isSign (h : IsSign c) : c.toNat < 65 := by
  rcases h with (rfl | rfl | rfl) | rfl <;> decide

/-- None of the words holds a sign. -/
def signless (words : List (List Char)) : Bool :=
  words.all fun word => word.all fun c => !decide (IsSign c)

theorem not_isSign_of_signless {word : List Char} (h : signless words = true)
    (hword : word ∈ words) : ∀ c ∈ word, ¬ IsSign c := by
  intro c hc
  have hnone := List.all_eq_true.mp (List.all_eq_true.mp h word hword) c hc
  rwa [Bool.not_eq_true', decide_eq_false_iff_not] at hnone

/-- Characters that spell words without signs are no signs. -/
theorem not_isSign_of_map_mem (hwords : signless words = true)
    (hmid : mid.map Text.foldKey ∈ words) : ∀ c ∈ mid, ¬ IsSign c := by
  intro c hc hsign
  have hkey : Text.foldKey c = c := (Text.foldKey_eq_iff (toNat_lt_of_isSign hsign)).mpr rfl
  have hmem : c ∈ mid.map Text.foldKey := by
    rw [← hkey]
    exact List.mem_map_of_mem hc
  exact not_isSign_of_signless hwords hmid c hmem hsign

theorem signless_secretWords : signless secretWords = true := by
  decide +kernel

theorem signless_constantWords : signless constantWords = true := by
  decide +kernel

theorem signless_define : signless ["define".toList] = true := by
  decide +kernel

theorem not_isSign_of_isBlank (h : Text.isBlank c = true) : ¬ IsSign c := by
  rintro ((rfl | rfl | rfl) | rfl) <;> exact absurd h (by decide)

theorem not_isSign_of_isMark (h : IsMark c) : ¬ IsSign c := by
  rcases h with rfl | rfl <;> decide

/-! ### What the rules look for -/

/-- A word that secrets go by, an operator, and the beginning of a literal. -/
inductive Assigns : List Char → Prop
  | intro {name left right : List Char} {operator quote first : Char}
    (named : name.map Text.foldKey ∈ secretWords)
    (left_blank : ∀ c ∈ left, Text.isBlank c = true)
    (operates : IsOperator operator)
    (right_blank : ∀ c ∈ right, Text.isBlank c = true)
    (quoted : IsMark quote)
    (starts : latinAlphanumeric.contains .ignore first = true) :
    Assigns (name ++ (left ++ operator :: (right ++ [quote, first])))

/-- The definition of a constant, up to a word in its name. -/
inductive Defines : List Char → Prop
  | intro {call gap left body word : List Char} {quote : Char}
    (called : call.map Text.foldKey ∈ ["define".toList])
    (gap_blank : ∀ c ∈ gap, Text.isBlank c = true)
    (left_blank : ∀ c ∈ left, Text.isBlank c = true)
    (quoted : IsMark quote)
    (plain : ∀ c ∈ body, ¬ IsMark c)
    (named : word.map Text.foldKey ∈ constantWords) :
    Defines (call ++ (gap ++ '(' :: (left ++ quote :: (body ++ word))))

/-! ### What their patterns match -/

theorem spells_optionalJoint : optionalJoint.Spells [['_'], ['-'], []] := by
  intro before mid after
  have hunderscore : Text.foldKey '_' = '_' := by decide
  have hhyphen : Text.foldKey '-' = '-' := by decide
  simp [optionalJoint, Pattern.optional, Matches, CharClass.oneOf, CharClass.contains,
    alike_ignore_iff, hunderscore, hhyphen, List.map_eq_singleton_iff, and_or_left, exists_or,
    or_assoc]

/-- The part of a pattern that looks for the name of a secret. -/
def secretName : Pattern :=
  alt (Pattern.sequence [ofString "api", optionalJoint, ofString "key"])
    (alt (Pattern.sequence [ofString "secret", optionalJoint, ofString "key"])
      (anyText ["password", "token", "auth"]))

theorem spells_secretName : secretName.Spells secretWords := by
  have hkey := spells_optionalJoint.seq (spells_text "key".toList)
  have hname := ((spells_text "api".toList).seq hkey).alt
    (((spells_text "secret".toList).seq hkey).alt ((spells_text "password".toList).alt
      ((spells_text "token".toList).alt (spells_text "auth".toList))))
  exact hname.congr (by decide +kernel)

theorem spells_constantWords :
    (anyText ["KEY", "SECRET", "TOKEN", "PASSWORD"]).Spells constantWords := by
  have hname := (spells_text "KEY".toList).alt ((spells_text "SECRET".toList).alt
    ((spells_text "TOKEN".toList).alt (spells_text "PASSWORD".toList)))
  exact hname.congr (by decide +kernel)

/-- The pattern of the rule about assignments. -/
def assignmentPattern : Pattern :=
  Pattern.sequence [secretName, many .blank, one (.oneOf "=:>"), many .blank, one quoteMark,
    one latinAlphanumeric]

/-- The pattern of the rule about constants. -/
def definitionPattern : Pattern :=
  Pattern.sequence [ofString "define", opening, many .blank, one quoteMark,
    many (.compl quoteMark), anyText ["KEY", "SECRET", "TOKEN", "PASSWORD"]]

theorem secretAssignment_linePattern : secretAssignment.linePattern = some assignmentPattern :=
  rfl

theorem secretDefine_linePattern : secretDefine.linePattern = some definitionPattern :=
  rfl

theorem matches_assignmentPattern_iff :
    assignmentPattern.Matches .ignore before mid after ↔ Assigns mid := by
  simp only [assignmentPattern, Pattern.sequence, Matches, spells_secretName _ _ _,
    contains_operator_iff, contains_ignore_quoteMark_iff]
  constructor
  · rintro ⟨name, _, rfl, hnamed, left, _, rfl, hleft, _, _, rfl, ⟨operator, rfl, hoperator⟩,
      right, _, rfl, hright, _, _, rfl, ⟨quote, rfl, hquote⟩, first, rfl, hfirst⟩
    exact .intro hnamed hleft hoperator hright hquote hfirst
  · rintro ⟨hnamed, hleft, hoperator, hright, hquote, hfirst⟩
    exact ⟨_, _, rfl, hnamed, _, _, rfl, hleft, _, _, rfl, ⟨_, rfl, hoperator⟩, _, _, rfl, hright,
      _, _, rfl, ⟨_, rfl, hquote⟩, _, rfl, hfirst⟩

theorem matches_parenthesis_iff :
    (ofString "(").Matches .ignore before mid after ↔ mid = ['('] := by
  have hword : "(".toList.map Text.foldKey = ['('] := by
    decide +kernel
  rw [ofString, spells_text, List.mem_singleton, hword, List.map_eq_singleton_iff]
  simp only [Text.foldKey_eq_iff (d := '(') (by decide), exists_eq_right]

theorem matches_definitionPattern_iff :
    definitionPattern.Matches .ignore before mid after ↔ Defines mid := by
  have hcall : (ofString "define").Spells ["define".toList] :=
    (spells_text "define".toList).congr (by decide +kernel)
  have hplain : ∀ c, (!quoteMark.contains .ignore c) = true ↔ ¬ IsMark c := by
    intro c
    rw [← contains_ignore_quoteMark_iff, Bool.not_eq_true', Bool.not_eq_true]
  simp only [definitionPattern, Pattern.sequence, Matches, opening, hcall _ _ _,
    matches_parenthesis_iff, spells_constantWords _ _ _, contains_ignore_quoteMark_iff,
    CharClass.contains, hplain]
  constructor
  · rintro ⟨call, _, rfl, hcalled, _, _, rfl, ⟨gap, _, rfl, hgap, rfl⟩, left, _, rfl, hleft, _, _,
      rfl, ⟨quote, rfl, hquote⟩, body, word, rfl, hbody, hnamed⟩
    simpa using Defines.intro hcalled hgap hleft hquote hbody hnamed
  · rintro @⟨call, gap, left, body, word, quote, hcalled, hgap, hleft, hquote, hbody, hnamed⟩
    refine ⟨call, _, rfl, hcalled, gap ++ ['('], _, ?_, ⟨gap, _, rfl, hgap, rfl⟩, left, _, rfl,
      hleft, [quote], _, rfl, ⟨quote, rfl, hquote⟩, body, word, rfl, hbody, hnamed⟩
    simp

/-! ### Lines that are reported -/

/-- What the rules look for is somewhere in the line. -/
def Reveals (line : List Char) : Prop :=
  ∃ mid, mid <:+: line ∧ (Assigns mid ∨ Defines mid)

/-- **A line is reported exactly if it holds what one of the rules looks for.** -/
theorem reports_credentials_iff {relpath text : String} {i : Nat}
    (hline : (Text.lines text.toList)[i]? = some line) :
    Reports "hardcoded-credentials" relpath text (i + 1) ↔ Reveals line := by
  have hassigns : assignmentPattern.found .ignore line = true ↔
      ∃ mid, mid <:+: line ∧ Assigns mid :=
    found_iff_exists_infix fun _ _ _ => matches_assignmentPattern_iff
  have hdefines : definitionPattern.found .ignore line = true ↔
      ∃ mid, mid <:+: line ∧ Defines mid :=
    found_iff_exists_infix fun _ _ _ => matches_definitionPattern_iff
  have hcheck : find? "hardcoded-credentials" = some table[17] := rfl
  have hrules : table[17].rules = [secretAssignment, secretDefine] := rfl
  have hexclude : ∀ r ∈ table[17].rules, r.exclude = none := by
    simp [hrules, secretAssignment, secretDefine, Rule.lines]
  rw [reports_iff_exists_found hcheck hexclude hline, hrules]
  constructor
  · rintro ⟨r, hr, p, hp, hfound⟩
    rcases List.mem_pair.mp hr with rfl | rfl
    · obtain rfl := Option.some.inj (secretAssignment_linePattern.symm.trans hp)
      obtain ⟨mid, hmid, h⟩ := hassigns.mp hfound
      exact ⟨mid, hmid, .inl h⟩
    · obtain rfl := Option.some.inj (secretDefine_linePattern.symm.trans hp)
      obtain ⟨mid, hmid, h⟩ := hdefines.mp hfound
      exact ⟨mid, hmid, .inr h⟩
  · rintro ⟨mid, hmid, h | h⟩
    · exact ⟨_, by simp, _, secretAssignment_linePattern, hassigns.mpr ⟨mid, hmid, h⟩⟩
    · exact ⟨_, by simp, _, secretDefine_linePattern, hdefines.mpr ⟨mid, hmid, h⟩⟩

/-- Nothing is looked for that has no sign in it. -/
theorem Reveals.exists_isSign (h : Reveals line) : ∃ c ∈ line, IsSign c := by
  obtain ⟨mid, hmid, h | h⟩ := h
  · obtain ⟨-, -, hoperator, -, -, -⟩ := h
    exact ⟨_, hmid.subset (by simp), .inl hoperator⟩
  · obtain ⟨-, -, -, -, -, -⟩ := h
    exact ⟨'(', hmid.subset (by simp), .inr rfl⟩

/-! ### Nothing reaches across an arrow -/

/-- Characters that spell words have a first one. -/
theorem exists_first_of_map_mem (hne : [] ∉ words)
    (hwords : signless words = true) (hmid : mid.map Text.foldKey ∈ words)
    (rest : List Char) : ∃ c others, mid ++ rest = c :: others ∧ ¬ IsSign c := by
  cases mid with
  | nil => exact absurd hmid hne
  | cons c others => exact ⟨c, _, rfl, not_isSign_of_map_mem hwords hmid c List.mem_cons_self⟩

theorem Assigns.exists_first (h : Assigns mid) : ∃ c rest, mid = c :: rest ∧ ¬ IsSign c := by
  obtain ⟨hnamed, -, -, -, -, -⟩ := h
  exact exists_first_of_map_mem (by decide +kernel) signless_secretWords hnamed _

theorem Defines.exists_first (h : Defines mid) : ∃ c rest, mid = c :: rest ∧ ¬ IsSign c := by
  obtain ⟨hcalled, -, -, -, -, -⟩ := h
  exact exists_first_of_map_mem (by decide +kernel) signless_define hcalled _

/-- What does not begin with a sign does not begin at one. -/
theorem infix_of_infix_cons (hfirst : ∃ c rest, mid = c :: rest ∧ ¬ IsSign c) (hd : IsSign d)
    (h : mid <:+: d :: back) : mid <:+: back := by
  obtain ⟨c, rest, rfl, hc⟩ := hfirst
  rcases List.infix_cons_iff.mp h with hprefix | hbehind
  · obtain ⟨rfl, -⟩ := List.cons_prefix_cons.mp hprefix
    exact absurd hd hc
  · exact hbehind

/-- Behind the one sign of an assignment come blanks and a quotation mark. -/
theorem Assigns.not_across (h : Assigns (u ++ '=' :: v)) : ¬ v <+: '>' :: back := by
  intro hbehind
  generalize hmid : u ++ '=' :: v = mid at h
  obtain @⟨name, left, right, operator, quote, first, hnamed, hleft, -, hright, hquote, hfirst⟩ := h
  have hequals : IsSign '=' := by decide
  -- So the sign is the operator itself, or comes behind it.
  have hfront : '=' ∉ name ++ left := by
    rw [List.mem_append, not_or]
    exact ⟨fun hmem => not_isSign_of_map_mem signless_secretWords hnamed _ hmem hequals,
      fun hmem => not_isSign_of_isBlank (hleft _ hmem) hequals⟩
  rw [← List.append_assoc] at hmid
  obtain ⟨between, -, hrest⟩ := Text.exists_of_append_cons_eq hfront hmid
  -- Nothing stands between them exactly if it is the operator.
  cases between with
  | nil =>
    obtain ⟨-, rfl⟩ := List.cons.inj hrest
    cases right with
    | nil =>
      obtain ⟨rfl, -⟩ := List.cons_prefix_cons.mp hbehind
      exact absurd hquote (by decide)
    | cons c right =>
      obtain ⟨rfl, -⟩ := List.cons_prefix_cons.mp hbehind
      exact absurd (hright _ List.mem_cons_self) (by decide)
  | cons c between =>
    obtain ⟨-, hliteral⟩ := List.cons.inj hrest
    have hmem : '=' ∈ right ++ [quote, first] := by
      rw [← hliteral]
      exact List.mem_append_right _ List.mem_cons_self
    simp only [List.mem_append, List.mem_cons, List.not_mem_nil, or_false] at hmem
    rcases hmem with hmem | rfl | rfl
    · exact not_isSign_of_isBlank (hright _ hmem) hequals
    · exact not_isSign_of_isMark hquote hequals
    · exact absurd hfirst (by decide)

/-- What a definition has before a sign in its argument: the parenthesis, blanks, the one quotation
mark, and a part of the argument. -/
theorem Defines.exists_front (h : Defines (u ++ '=' :: v)) :
    ∃ front left quote between, u = (front ++ '(' :: left) ++ quote :: between ∧
      (∀ c ∈ left, Text.isBlank c = true) ∧ IsMark quote ∧ ∀ c ∈ between, ¬ IsMark c := by
  generalize hmid : u ++ '=' :: v = mid at h
  obtain @⟨call, gap, left, body, word, quote, hcalled, hgap, hleft, hquote, hplain, hnamed⟩ := h
  have hequals : IsSign '=' := by decide
  have hfront : '=' ∉ call ++ (gap ++ '(' :: (left ++ [quote])) := by
    intro hmem
    simp only [List.mem_append, List.mem_cons, List.not_mem_nil, or_false] at hmem
    rcases hmem with hmem | hmem | hmem | hmem | rfl
    · exact not_isSign_of_map_mem signless_define hcalled _ hmem hequals
    · exact not_isSign_of_isBlank (hgap _ hmem) hequals
    · exact absurd hmem (by decide)
    · exact not_isSign_of_isBlank (hleft _ hmem) hequals
    · exact not_isSign_of_isMark hquote hequals
  have hsplit : u ++ '=' :: v = (call ++ (gap ++ '(' :: (left ++ [quote]))) ++ (body ++ word) := by
    simpa using hmid
  obtain ⟨between, rfl, hrest⟩ := Text.exists_of_append_cons_eq hfront hsplit
  refine ⟨call ++ gap, left, quote, between, by simp, hleft, hquote, ?_⟩
  -- What the definition has before the sign is in the body, since the sign is in no word.
  rcases List.append_eq_append_iff.mp hrest with ⟨others, rfl, -⟩ | ⟨others, -, rfl⟩
  · exact fun c hc => hplain c (List.mem_append_left _ hc)
  · have hmem : '=' ∈ others ++ '=' :: v := List.mem_append_right _ List.mem_cons_self
    exact absurd hequals (not_isSign_of_map_mem signless_constantWords hnamed _ hmem)

/-- The one quotation mark of a definition comes behind a parenthesis. -/
theorem Defines.not_across (h : Defines (u ++ '=' :: v)) (hk : Text.isBlank k = false)
    (hopening : k ≠ '(') (hmark : IsMark mark) (hbody : ∀ c ∈ body, ¬ IsMark c) :
    ¬ u <:+ before ++ k :: mark :: body := by
  rintro ⟨start, hstart⟩
  obtain ⟨front, left, quote, between, rfl, hleft, hquote, hbetween⟩ := h.exists_front
  have hlast : (start ++ (front ++ '(' :: left)) ++ quote :: between =
      (before ++ [k]) ++ mark :: body := by
    simpa using hstart
  obtain ⟨hargument, -, -⟩ := Text.eq_of_lasts hbetween hquote hbody hmark hlast
  rcases List.eq_nil_or_concat left with rfl | ⟨left, c, rfl⟩
  · have hends : (start ++ front) ++ ['('] = before ++ [k] := by
      simpa using hargument
    exact hopening (List.cons.inj (List.append_inj' hends rfl).2).1.symm
  · have hends : (start ++ (front ++ '(' :: left)) ++ [c] = before ++ [k] := by
      simpa using hargument
    obtain ⟨rfl, -⟩ := List.cons.inj (List.append_inj' hends rfl).2
    rw [hleft c (by simp)] at hk
    cases hk

/-- **Nothing that the rules look for reaches across an arrow** with a closing quotation mark
before it. -/
theorem reveals_arrow_iff (hk : Text.isBlank k = false) (hopening : k ≠ '(') (hmark : IsMark mark)
    (hbody : ∀ c ∈ body, ¬ IsMark c) :
    Reveals ((before ++ k :: mark :: body) ++ '=' :: '>' :: back) ↔
      Reveals (before ++ k :: mark :: body) ∨ Reveals back := by
  constructor
  · rintro ⟨mid, hmid, h⟩
    -- What is looked for begins with a letter or a mark, so that it cannot begin in the arrow.
    have hfirst : ∃ c rest, mid = c :: rest ∧ ¬ IsSign c :=
      h.elim Assigns.exists_first Defines.exists_first
    rcases List.infix_append_iff.mp hmid with hfront | hbehind | ⟨u, v, rfl, hu, hv⟩
    · exact .inl ⟨mid, hfront, h⟩
    · have harrow := infix_of_infix_cons hfirst (by decide) hbehind
      exact .inr ⟨mid, infix_of_infix_cons hfirst (by decide) harrow, h⟩
    · -- It may lie across the end of the front: then only what is before the arrow can be in it.
      cases v with
      | nil => exact .inl ⟨u ++ [], by simpa using hu.isInfix, h⟩
      | cons d v =>
        obtain ⟨rfl, hbehind⟩ := List.cons_prefix_cons.mp hv
        rcases h with h | h
        · exact absurd hbehind h.not_across
        · exact absurd hu (h.not_across hk hopening hmark hbody)
  · rintro (⟨mid, hmid, h⟩ | ⟨mid, hmid, h⟩)
    · exact ⟨mid, hmid.trans (List.prefix_append _ _).isInfix, h⟩
    · have hback : back <:+ (before ++ k :: mark :: body) ++ '=' :: '>' :: back :=
        ⟨(before ++ k :: mark :: body) ++ ['=', '>'], by simp⟩
      exact ⟨mid, hmid.trans hback.isInfix, h⟩

end PluginSweep.Check
