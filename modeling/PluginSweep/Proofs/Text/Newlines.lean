/-
PluginSweep/Proofs/Text/Newlines.lean

Newlines among the breaks of a text.  A newline is a line feed, with or without a carriage
return before it; how it is spelled makes no difference to the lines (`lines_withReturns`).

There are more breaks than newlines.  A text has as many lines as parts that end with a line
feed or with the text, and one more for each other break that has something behind it:

  (lines text).length = partCount '\n' text + drift text

(`length_lines_eq_partCount_add_drift`).  In the same way the number of a line exceeds the
number of the part in which it stands by the other breaks before it (`breaks_eq`).
-/
import PluginSweep.Proofs.Text.Lines
import PluginSweep.Proofs.Text.Utf8

namespace PluginSweep.Text

variable {a b before line after text : List Char} {c : Char}

theorem untorn_of_ne (hc : c ≠ '\r') : Untorn [c] text := by
  intro hlast
  exact absurd (Option.some.inj hlast) hc

/-! ### Carriage returns before line feeds -/

/-- The text with a carriage return before each line feed. -/
def withReturns (text : List Char) : List Char :=
  text.flatMap fun c => if c = '\n' then ['\r', '\n'] else [c]

/-- **The lines are the same with and without carriage returns before the line feeds.** -/
theorem lines_withReturns (h : '\r' ∉ text) : lines (withReturns text) = lines text := by
  induction text with
  | nil => rfl
  | cons c rest ih =>
    obtain ⟨hc, hrest⟩ := List.ne_and_not_mem_of_not_mem_cons h
    by_cases hnewline : c = '\n'
    · subst hnewline
      show lines ('\r' :: '\n' :: withReturns rest) = _
      rw [lines_pair, ih hrest, lines_break (untorn_of_ne hc.symm) (by rfl)]
    · have hcons : withReturns (c :: rest) = c :: withReturns rest := by
        simp [withReturns, hnewline]
      rw [hcons]
      cases hbreak : isLineBreak c with
      | true =>
        rw [lines_break (untorn_of_ne hc.symm) hbreak, lines_break (untorn_of_ne hc.symm) hbreak,
          ih hrest]
      | false => rw [lines_plain hbreak, lines_plain hbreak, ih hrest]

/-! ### Parts up to a mark -/

section Parts

variable {α : Type} [BEq α] [LawfulBEq α] {stop x : α} {l part rest : List α}

/-- How many parts there are that end with `stop`, counting what comes after the last of them
unless there is nothing. -/
def partCount (stop : α) (l : List α) : Nat :=
  l.count stop + if l.getLast?.all (· == stop) then 0 else 1

theorem partCount_stop : partCount stop (stop :: l) = partCount stop l + 1 := by
  rw [partCount, List.count_cons_self, partCount, Nat.add_right_comm]
  cases l with
  | nil => simp
  | cons x l => rw [List.getLast?_cons_cons]

theorem partCount_cons (hx : x ≠ stop) :
    partCount stop (x :: l) = if l.isEmpty then 1 else partCount stop l := by
  rw [partCount, List.count_cons_of_ne hx]
  cases l with
  | nil => simp [hx]
  | cons y l =>
    rw [List.getLast?_cons_cons]
    rfl

/-- What has no mark in it is one part, unless it is nothing. -/
theorem partCount_of_not_mem (hpart : stop ∉ part) :
    partCount stop part = if part.isEmpty then 0 else 1 := by
  induction part with
  | nil => rfl
  | cons x part ih =>
    obtain ⟨hx, hpart⟩ := List.ne_and_not_mem_of_not_mem_cons hpart
    rw [partCount_cons hx.symm, ih hpart]
    cases part <;> rfl

/-- The first part is counted whatever comes after it. -/
theorem partCount_append_stop (hpart : stop ∉ part) :
    partCount stop (part ++ stop :: rest) = partCount stop rest + 1 := by
  induction part with
  | nil => exact partCount_stop
  | cons x part ih =>
    obtain ⟨hx, hpart⟩ := List.ne_and_not_mem_of_not_mem_cons hpart
    rw [List.cons_append, partCount_cons hx.symm, ih hpart, if_neg (by simp)]

theorem splitOn_cons (hx : x ≠ stop) :
    (x :: l).splitOn stop = (l.splitOn stop).modifyHead (x :: ·) := by
  rw [List.splitOn_cons_eq_if_modifyHead, if_neg (by simpa using hx)]

/-- What comes first and has no mark in it is in the first part. -/
theorem exists_splitOn_eq_cons {mid : List α} (hmid : stop ∉ mid) (after : List α) :
    ∃ part others, (mid ++ after).splitOn stop = part :: others ∧ mid <+: part := by
  induction mid with
  | nil =>
    obtain ⟨part, others, hparts⟩ := List.exists_cons_of_ne_nil (List.splitOn_ne_nil stop after)
    exact ⟨part, others, hparts, List.nil_prefix⟩
  | cons x mid ih =>
    obtain ⟨hx, hmid⟩ := List.ne_and_not_mem_of_not_mem_cons hmid
    obtain ⟨part, others, hparts, hprefix⟩ := ih hmid
    refine ⟨x :: part, others, ?_, List.cons_prefix_cons.mpr ⟨rfl, hprefix⟩⟩
    rw [List.cons_append, splitOn_cons hx.symm, hparts]
    rfl

/-- What has no mark in it is in one part, and as many parts come before that as there are marks
before it. -/
theorem exists_part {mid : List α} (hmid : stop ∉ mid) (before after : List α) :
    ∃ part, ((before ++ (mid ++ after)).splitOn stop)[before.count stop]? = some part ∧
      mid <:+: part := by
  induction before with
  | nil =>
    obtain ⟨part, others, hparts, hprefix⟩ := exists_splitOn_eq_cons hmid after
    exact ⟨part, by simp [hparts], hprefix.isInfix⟩
  | cons x before ih =>
    obtain ⟨part, hpart, hinfix⟩ := ih
    by_cases hx : x = stop
    · subst hx
      refine ⟨part, ?_, hinfix⟩
      rw [List.cons_append, List.splitOn_cons_eq_if_modifyHead, if_pos BEq.rfl,
        List.count_cons_self, List.getElem?_cons_succ, hpart]
    · rw [List.cons_append, splitOn_cons hx, List.count_cons_of_ne hx]
      -- The first part begins one character earlier, and the others stay as they are.
      cases hparts : (before ++ (mid ++ after)).splitOn stop with
      | nil => exact absurd hparts (List.splitOn_ne_nil _ _)
      | cons first others =>
        rw [hparts] at hpart
        cases hcount : before.count stop with
        | zero =>
          rw [hcount] at hpart
          obtain rfl := Option.some.inj hpart
          exact ⟨x :: first, rfl, hinfix.trans (List.suffix_cons x first).isInfix⟩
        | succ n =>
          rw [hcount] at hpart
          exact ⟨part, hpart, hinfix⟩

end Parts

/-! ### Breaks that are no newlines -/

/-- How many breaks there are that are no newlines: they are no line feed, nor a carriage return
before one. -/
def strays : List Char → Nat
  | [] => 0
  | '\r' :: '\n' :: rest => strays rest
  | c :: rest => if isLineBreak c && c != '\n' then strays rest + 1 else strays rest

/-- How many of them have something behind them. -/
def drift : List Char → Nat
  | [] => 0
  | '\r' :: '\n' :: rest => drift rest
  | c :: rest =>
    if isLineBreak c && c != '\n' && !rest.isEmpty then drift rest + 1 else drift rest

theorem strays_cons (h : Untorn [c] text) :
    strays (c :: text) =
      if isLineBreak c && c != '\n' then strays text + 1 else strays text :=
  strays.eq_3 c text fun _ hc htext => h (hc ▸ rfl) (htext ▸ rfl)

theorem drift_cons (h : Untorn [c] text) :
    drift (c :: text) =
      if isLineBreak c && c != '\n' && !text.isEmpty then drift text + 1 else drift text :=
  drift.eq_3 c text fun _ hc htext => h (hc ▸ rfl) (htext ▸ rfl)

/-- A break is a newline or another break. -/
theorem breaks_eq (text : List Char) : breaks text = text.count '\n' + strays text := by
  induction text using induction_on_breaks with
  | nil => rfl
  | pair rest ih =>
    simp [breaks, strays, ih]
    omega
  | stop c rest huntorn hbreak ih =>
    rw [breaks_cons huntorn, strays_cons huntorn, if_pos hbreak, ih, hbreak, List.count_cons]
    by_cases hc : c = '\n' <;> simp [hc] <;> omega
  | plain c rest huntorn hplain ih =>
    have hc : c ≠ '\n' := by
      rintro rfl
      cases hplain
    rw [breaks_cons huntorn, strays_cons huntorn, hplain, List.count_cons_of_ne hc]
    exact ih

/-- **A text has a line for each part up to a line feed, and one more for each other break that has
something behind it.** -/
theorem length_lines_eq_partCount_add_drift (text : List Char) :
    (lines text).length = partCount '\n' text + drift text := by
  induction text using induction_on_breaks with
  | nil => rfl
  | pair rest ih =>
    rw [lines_pair, List.length_cons, ih, partCount_cons (by decide), if_neg (by simp),
      partCount_stop, drift, Nat.add_right_comm]
  | stop c rest huntorn hbreak ih =>
    -- A break ends a part if it is a line feed, and is counted as a stray if something follows it
    -- otherwise.
    rw [lines_break huntorn hbreak, List.length_cons, ih, drift_cons huntorn, hbreak]
    by_cases hc : c = '\n'
    · subst hc
      rw [partCount_stop, Nat.add_right_comm]
      rfl
    · rw [partCount_cons hc]
      cases rest with
      | nil => simp [drift, partCount]
      | cons d rest => simp [hc, Nat.add_assoc]
  | plain c rest huntorn hplain ih =>
    have hc : c ≠ '\n' := by
      rintro rfl
      cases hplain
    rw [lines_plain hplain, drift_cons huntorn, hplain, partCount_cons hc]
    cases rest with
    | nil => rfl
    | cons d rest =>
      rw [Bool.false_and, Bool.false_and, if_neg Bool.false_ne_true, if_neg (by simp), ← ih]
      cases hlines : lines (d :: rest) with
      | nil => cases lines_eq_nil_iff.mp hlines
      | cons first others => rfl

/-- Breaks that have something behind them are counted on either side of a cut. -/
theorem drift_append (h : Untorn a b) (hb : b ≠ []) : drift (a ++ b) = strays a + drift b := by
  induction a using induction_on_breaks with
  | nil => simp [strays]
  | pair rest ih =>
    simp only [List.cons_append, drift, strays, ih h.of_cons.of_cons]
  | stop c rest huntorn hbreak ih | plain c rest huntorn hbreak ih =>
    rw [List.cons_append, drift_cons (untorn_append h huntorn), strays_cons huntorn, ih h.of_cons]
    by_cases hc : c = '\n' <;> simp [hbreak, hc, hb, Nat.add_right_comm]

/-! ### Bytes -/

variable {P : List UInt8 → Prop}

/-- Bytes are taken apart at the first line feed. -/
theorem induction_on_newlines (bytes : List UInt8) (unbroken : ∀ part, 0x0A ∉ part → P part)
    (newline : ∀ part rest, 0x0A ∉ part → P rest → P (part ++ 0x0A :: rest)) : P bytes := by
  by_cases hmem : 0x0A ∈ bytes
  · obtain ⟨part, rest, hbytes, hpart⟩ := List.eq_append_cons_of_mem hmem
    rw [hbytes]
    exact newline part rest hpart (induction_on_newlines rest unbroken newline)
  · exact unbroken bytes hmem
termination_by bytes.length
decreasing_by
  rw [hbytes, List.length_append, List.length_cons]
  omega

theorem decodeLossy_append_newline (part rest : List UInt8) :
    decodeLossy (part ++ 0x0A :: rest) = decodeLossy part ++ '\n' :: decodeLossy rest :=
  decodeLossy_append_cons part rest (by decide)

/-- **The parts of a text are what the parts of its bytes are read as.** -/
theorem splitOn_decodeLossy (bytes : List UInt8) :
    (decodeLossy bytes).splitOn '\n' = (bytes.splitOn 0x0A).map decodeLossy := by
  induction bytes using induction_on_newlines with
  | unbroken part hpart =>
    rw [List.splitOn_eq_singleton hpart,
      List.splitOn_eq_singleton (mt newline_mem_decodeLossy_iff.mp hpart)]
    rfl
  | newline part rest hpart ih =>
    rw [decodeLossy_append_newline, List.splitOn_append_cons_self_of_not_mem hpart,
      List.splitOn_append_cons_self_of_not_mem (mt newline_mem_decodeLossy_iff.mp hpart), ih]
    rfl

/-- A text has as many parts up to a line feed as its bytes have. -/
theorem partCount_decodeLossy (bytes : List UInt8) :
    partCount '\n' (decodeLossy bytes) = partCount 0x0A bytes := by
  induction bytes using induction_on_newlines with
  | unbroken part hpart =>
    rw [partCount_of_not_mem hpart,
      partCount_of_not_mem (mt newline_mem_decodeLossy_iff.mp hpart)]
    simp only [List.isEmpty_iff, decodeLossy_eq_nil_iff]
  | newline part rest hpart ih =>
    rw [decodeLossy_append_newline, partCount_append_stop hpart,
      partCount_append_stop (mt newline_mem_decodeLossy_iff.mp hpart), ih]

end PluginSweep.Text
