/-
PluginSweep/Proofs/Check/Credentials.lean

Which secrets are reported.  In an assignment the name of the secret, the operator and the literal
come in a row, which is what the rule looks for.  In the entry of an array the quotation mark of the
key comes between the word and the operator, and the operator has two characters; so the entry is
reported for what is before its arrow, or for what is behind it, and not for what it is
(`credential_reported`, `entry_unnoticed`).
-/
import PluginSweep.Proofs.Check.Secrets

namespace PluginSweep.Check

/-! ### Secrets as they are written -/

/-- A secret that is written down in a line, and what is around it.  Its value starts with a letter
or digit, and may go on with anything. -/
structure Credential where
  before : List Char
  /-- The quotation mark around the key of an entry. -/
  keyMark : Char
  key : List Char
  /-- What is before the operator. -/
  left : List Char
  /-- What is behind the operator. -/
  right : List Char
  /-- The quotation mark around the value. -/
  mark : Char
  value : List Char
  after : List Char
  keyQuoted : IsMark keyMark
  /-- The key is one of the words, in whatever case. -/
  known : key.map Char.toLower ∈ secretWords
  leftInline : ∀ c ∈ left, c = ' ' ∨ c = '\t'
  rightInline : ∀ c ∈ right, c = ' ' ∨ c = '\t'
  quoted : IsMark mark
  starts : ∃ c ∈ value.head?, c.isAlphanum = true

namespace Credential

variable {s : Credential} {relpath text : String} {i : Nat}

/-- What comes behind the operator. -/
def literal (s : Credential) : List Char :=
  s.right ++ s.mark :: (s.value ++ s.mark :: s.after)

/-- The line in which the secret is assigned to a variable. -/
def assignment (s : Credential) : List Char :=
  s.before ++ '$' :: (s.key ++ (s.left ++ '=' :: s.literal))

/-- What comes before the arrow of an entry. -/
def front (s : Credential) : List Char :=
  s.before ++ s.keyMark :: (s.key ++ s.keyMark :: s.left)

/-- The line in which the secret is in the entry of an array. -/
def entry (s : Credential) : List Char :=
  s.front ++ '=' :: '>' :: s.literal

/-- Nothing else in the line has one of the signs that the rules look for. -/
structure Alone (s : Credential) : Prop where
  before : ∀ c ∈ s.before, ¬ IsSign c
  value : ∀ c ∈ s.value, ¬ IsSign c
  after : ∀ c ∈ s.after, ¬ IsSign c

theorem alone_of_signless (h : signless [s.before, s.value, s.after] = true) : s.Alone where
  before := not_isSign_of_signless h (by simp)
  value := not_isSign_of_signless h (by simp)
  after := not_isSign_of_signless h (by simp)

theorem spelled (s : Credential) : s.key.map Text.foldKey ∈ secretWords := by
  have hkeys : secretWords.map (List.map Text.foldKey) = secretWords := by
    decide +kernel
  have hlower : (s.key.map Char.toLower).map Text.foldKey = s.key.map Text.foldKey := by
    rw [List.map_map]
    exact List.map_congr_left fun c _ => Text.foldKey_toLower c
  rw [← hlower, ← hkeys]
  exact List.mem_map_of_mem s.known

/-- The key ends with a letter. -/
theorem exists_last (s : Credential) :
    ∃ others k, s.key = others ++ [k] ∧ Text.isBlank k = false ∧ k ≠ '(' := by
  have hwords : (secretWords.all fun word => word.all fun c => !Text.isBlank c) = true := by
    decide +kernel
  have hblank : ∀ c ∈ s.key, Text.isBlank c = false := by
    intro c hc
    have hnone := List.all_eq_true.mp (List.all_eq_true.mp hwords _ s.known) c.toLower
      (List.mem_map_of_mem hc)
    rwa [Bool.not_eq_true', Text.isBlank_toLower] at hnone
  rcases List.eq_nil_or_concat s.key with hnil | ⟨others, k, hkey⟩
  · have hknown := s.known
    rw [hnil] at hknown
    exact absurd hknown (by decide +kernel)
  · have hmem : k ∈ s.key := by
      rw [hkey, List.concat_eq_append]
      exact List.mem_append_right _ List.mem_cons_self
    refine ⟨others, k, by rw [hkey, List.concat_eq_append], hblank k hmem, ?_⟩
    rintro rfl
    exact not_isSign_of_map_mem signless_secretWords s.spelled _ hmem (.inr rfl)

/-- An assignment is what the rules look for. -/
theorem reveals_assignment (s : Credential) : Reveals s.assignment := by
  obtain ⟨first, hfirst, halphanum⟩ := s.starts
  obtain ⟨others, hvalue⟩ := List.head?_eq_some_iff.mp hfirst
  have hassigns : Assigns (s.key ++ (s.left ++ '=' :: (s.right ++ [s.mark, first]))) :=
    .intro s.spelled (fun c hc => LiteralCall.isBlank_of_inline (s.leftInline c hc)) (.inl rfl)
      (fun c hc => LiteralCall.isBlank_of_inline (s.rightInline c hc)) s.quoted
      (contains_latinAlphanumeric halphanum)
  refine ⟨_, ⟨s.before ++ ['$'], others ++ s.mark :: s.after, ?_⟩, .inl hassigns⟩
  simp [assignment, literal, hvalue]

theorem reveals_entry_iff (s : Credential) :
    Reveals s.entry ↔ Reveals s.front ∨ Reveals s.literal := by
  obtain ⟨others, k, hkey, hk, hopening⟩ := s.exists_last
  have hleft : ∀ c ∈ s.left, ¬ IsMark c := fun c hc =>
    LiteralCall.not_isMark_of_isBlank (LiteralCall.isBlank_of_inline (s.leftInline c hc))
  have hfront : s.front = (s.before ++ s.keyMark :: others) ++ k :: s.keyMark :: s.left := by
    simp [front, hkey]
  rw [entry, hfront]
  exact reveals_arrow_iff hk hopening s.keyQuoted hleft

/-- An entry is not what the rules look for. -/
theorem not_reveals_entry (h : s.Alone) : ¬ Reveals s.entry := by
  have hinline : ∀ c, c = ' ' ∨ c = '\t' → ¬ IsSign c := fun c hc =>
    not_isSign_of_isBlank (LiteralCall.isBlank_of_inline hc)
  rw [reveals_entry_iff]
  rintro (hfront | hliteral)
  · obtain ⟨c, hc, hsign⟩ := hfront.exists_isSign
    simp only [front, List.mem_append, List.mem_cons] at hc
    rcases hc with hc | rfl | hc | rfl | hc
    · exact h.before c hc hsign
    · exact not_isSign_of_isMark s.keyQuoted hsign
    · exact not_isSign_of_map_mem signless_secretWords s.spelled c hc hsign
    · exact not_isSign_of_isMark s.keyQuoted hsign
    · exact hinline c (s.leftInline c hc) hsign
  · obtain ⟨c, hc, hsign⟩ := hliteral.exists_isSign
    simp only [literal, List.mem_append, List.mem_cons] at hc
    rcases hc with hc | rfl | hc | rfl | hc
    · exact hinline c (s.rightInline c hc) hsign
    · exact not_isSign_of_isMark s.quoted hsign
    · exact h.value c hc hsign
    · exact not_isSign_of_isMark s.quoted hsign
    · exact h.after c hc hsign

/-- A part of a line is reported in a text of its own if it holds what the rules look for. -/
theorem reports_part_iff {line part : List Char} (hline : (Text.lines text.toList)[i]? = some line)
    (hpart : part <:+: line) (hne : part ≠ []) :
    Reports "hardcoded-credentials" relpath (String.ofList part) 1 ↔ Reveals part := by
  obtain ⟨_, _, _, hstands, -⟩ := Text.exists_stands hline
  have hlines : Text.lines (String.ofList part).toList = [part] := by
    rw [String.toList_ofList]
    exact Text.lines_unbroken (fun c hc => hstands.plain c (hpart.subset hc)) hne
  have halone : (Text.lines (String.ofList part).toList)[0]? = some part := by
    rw [hlines]
    rfl
  exact reports_credentials_iff halone

end Credential

/-- **Assigned secrets are reported, and entries of arrays are not.**  A line in which a secret is
assigned as a literal is reported, wherever in the line that is, whatever the case of its name, the
quotation marks and the blanks around the operator.  A line with the entry of an array is reported
exactly if what comes before the arrow or what comes behind it is reported by itself; so it is not
reported if there is nothing else in it that looks like an assignment or a definition. -/
theorem credential_reported (s : Credential) (relpath text : String) (i : Nat) :
    ((Text.lines text.toList)[i]? = some s.assignment →
        Reports "hardcoded-credentials" relpath text (i + 1)) ∧
      ((Text.lines text.toList)[i]? = some s.entry →
        (Reports "hardcoded-credentials" relpath text (i + 1) ↔
          Reports "hardcoded-credentials" relpath (String.ofList s.front) 1 ∨
            Reports "hardcoded-credentials" relpath (String.ofList s.literal) 1) ∧
        (s.Alone → ¬ Reports "hardcoded-credentials" relpath text (i + 1))) := by
  refine ⟨fun hline => ?_, fun hline => ⟨?_, fun halone => ?_⟩⟩
  · rw [reports_credentials_iff hline]
    exact s.reveals_assignment
  · have hfront : s.front <:+: s.entry := (List.prefix_append _ _).isInfix
    have hliteral : s.literal <:+: s.entry :=
      ⟨s.front ++ ['=', '>'], [], by simp [Credential.entry]⟩
    have hfilled : s.front ≠ [] ∧ s.literal ≠ [] := by
      simp [Credential.front, Credential.literal]
    rw [reports_credentials_iff hline, Credential.reports_part_iff hline hfront hfilled.1,
      Credential.reports_part_iff hline hliteral hfilled.2]
    exact s.reveals_entry_iff
  · rw [reports_credentials_iff hline]
    exact Credential.not_reveals_entry halone

theorem isMark_single : IsMark '\'' :=
  .inl rfl

theorem isMark_double : IsMark '"' :=
  .inr rfl

/-- A secret between comments, with its name in mixed case and several blanks around the
operator. -/
def service : Credential where
  before := "/* a */ ".toList
  keyMark := '\''
  key := "Secret_KEY".toList
  left := ['\t', '\t']
  right := [' ', '\t']
  mark := '"'
  value := "9f8e 7d".toList
  after := " // b".toList
  keyQuoted := isMark_single
  known := by decide +kernel
  leftInline := by simp
  rightInline := by simp
  quoted := isMark_double
  starts := ⟨'9', by decide +kernel, by decide⟩

/-- A file that assigns it. -/
def serviceText : String :=
  "<?php\n/* a */ $Secret_KEY\t\t= \t\"9f8e 7d\" // b\n"

/-- A file with the entry of an array. -/
def serviceEntryText : String :=
  "<?php\nreturn [\n/* a */ 'Secret_KEY'\t\t=> \t\"9f8e 7d\" // b\n];\n"

theorem credential_reported_service :
    (Text.lines serviceText.toList)[1]? = some service.assignment ∧
      Reports "hardcoded-credentials" "p.php" serviceText 2 ∧
      (Text.lines serviceEntryText.toList)[2]? = some service.entry ∧ service.Alone ∧
      ¬ Reports "hardcoded-credentials" "p.php" serviceEntryText 3 ∧
      ¬ Reports "hardcoded-credentials" "p.php" (String.ofList service.front) 1 := by
  have hassigned : (Text.lines serviceText.toList)[1]? = some service.assignment := by
    decide +kernel
  have hentry : (Text.lines serviceEntryText.toList)[2]? = some service.entry := by
    decide +kernel
  have halone : service.Alone := Credential.alone_of_signless (by decide +kernel)
  obtain ⟨hiff, hnone⟩ := (credential_reported service "p.php" serviceEntryText 2).2 hentry
  refine ⟨hassigned, (credential_reported service "p.php" serviceText 1).1 hassigned, hentry,
    halone, hnone halone, fun hfront => ?_⟩
  exact hnone halone (hiff.mpr (.inl hfront))

/-! ### An entry that is not noticed -/

theorem inline_space : ∀ c ∈ [' '], c = ' ' ∨ c = '\t' := by
  simp

/-- The entry of an array whose key is a word that secrets go by. -/
def apiKey : Credential where
  before := ['\t']
  keyMark := '\''
  key := "api_key".toList
  left := [' ']
  right := [' ']
  mark := '\''
  value := "abc123".toList
  after := [',']
  keyQuoted := isMark_single
  known := by decide +kernel
  leftInline := inline_space
  rightInline := inline_space
  quoted := isMark_single
  starts := ⟨'a', by decide +kernel, by decide⟩

/-- A file with it. -/
def apiKeyText : String :=
  "<?php\nreturn array(\n\t'api_key' => 'abc123',\n);\n"

theorem entry_unnoticed :
    (Text.lines apiKeyText.toList)[2]? = some apiKey.entry ∧
      ¬ Reports "hardcoded-credentials" "config.php" apiKeyText 3 := by
  have hline : (Text.lines apiKeyText.toList)[2]? = some apiKey.entry := by
    decide +kernel
  have halone : apiKey.Alone := Credential.alone_of_signless (by decide +kernel)
  refine ⟨hline, ?_⟩
  rw [reports_credentials_iff hline]
  exact Credential.not_reveals_entry halone

end PluginSweep.Check
