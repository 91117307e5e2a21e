/-
PluginSweep/Proofs/Text/Lines.lean

Lines as they stand in their text.  The reader of lines carries along the line that
it is reading and those that it has read; here its result is described without them.

* `lines_append`: where one text ends with the end of a line, the lines of two texts
  together are those of the first and then those of the second;
* `getElem?_lines_iff`: a line has the number `i` exactly if it stands between what
  comes before and what comes after it (`Stands`) and `i` breaks come before it;
* `exists_line_of_unbroken`: characters that follow each other without a break are
  together in one line.

A carriage return and the line feed after it are one break.  So a text may be cut after
any break, but no pair of these may be torn apart (`Untorn`).
-/
import Mathlib.Data.List.DropRight
import PluginSweep.Text.Lines

namespace PluginSweep.Text

variable {a b before line after text : List Char} {c : Char} {i : Nat}

/-! ### One character at a time -/

/-- How many breaks there are in a text. -/
def breaks : List Char → Nat
  | [] => 0
  | '\r' :: '\n' :: rest => breaks rest + 1
  | c :: rest => if isLineBreak c then breaks rest + 1 else breaks rest

/-- No carriage return at the end of one text is followed by a line feed in the other. -/
def Untorn (a b : List Char) : Prop :=
  a.getLast? = some '\r' → b.head? ≠ some '\n'

theorem untorn_nil (a : List Char) : Untorn a [] :=
  fun _ => nofun

theorem linesFrom_cons {current : List Char} {done : List (List Char)} (h : Untorn [c] text) :
    linesFrom (c :: text) current done =
      if isLineBreak c then linesFrom text [] (current.reverse :: done)
      else linesFrom text (c :: current) done :=
  linesFrom.eq_4 current done c text fun _ hc htext => h (hc ▸ rfl) (htext ▸ rfl)

theorem breaks_cons (h : Untorn [c] text) :
    breaks (c :: text) = if isLineBreak c then breaks text + 1 else breaks text :=
  breaks.eq_3 c text fun _ hc htext => h (hc ▸ rfl) (htext ▸ rfl)

/-- A text is taken apart at its first character, or at the pair with which it starts. -/
theorem induction_on_breaks {P : List Char → Prop} (text : List Char) (nil : P [])
    (pair : ∀ rest, P rest → P ('\r' :: '\n' :: rest))
    (stop : ∀ c rest, Untorn [c] rest → isLineBreak c = true → P rest → P (c :: rest))
    (plain : ∀ c rest, Untorn [c] rest → isLineBreak c = false → P rest → P (c :: rest)) :
    P text := by
  have huntorn : ∀ (c : Char) (rest : List Char),
      (∀ rest', c = '\r' → rest = '\n' :: rest' → False) → Untorn [c] rest := by
    intro c rest hpair hlast hhead
    obtain ⟨rest', rfl⟩ := List.head?_eq_some_iff.mp hhead
    exact hpair rest' (Option.some.inj hlast) rfl
  induction text using breaks.induct with
  | case1 => exact nil
  | case2 rest ih => exact pair rest ih
  | case3 c rest hpair hbreak ih => exact stop c rest (huntorn c rest hpair) hbreak ih
  | case4 c rest hpair hplain ih =>
    exact plain c rest (huntorn c rest hpair) (Bool.eq_false_iff.mpr hplain) ih

/-- The lines with one more character in front of them. -/
def extend : List (List Char) → Char → List (List Char)
  | [], c => [[c]]
  | line :: rest, c => (c :: line) :: rest

theorem foldl_extend_cons (current line : List Char) (rest : List (List Char)) :
    current.foldl extend (line :: rest) = (current.reverse ++ line) :: rest := by
  induction current generalizing line with
  | nil => rfl
  | cons c current ih => simp [extend, ih]

/-- What the reader carries along comes before the lines that are still to be read. -/
theorem linesFrom_eq (text current : List Char) (done : List (List Char)) :
    linesFrom text current done = done.reverse ++ current.foldl extend (lines text) := by
  induction text using induction_on_breaks generalizing current done with
  | nil => cases current <;> simp [linesFrom, lines, extend, foldl_extend_cons]
  | pair rest ih =>
    rw [lines, linesFrom, linesFrom, ih, ih]
    simp [foldl_extend_cons]
  | stop c rest huntorn hbreak ih =>
    rw [lines, linesFrom_cons huntorn, linesFrom_cons huntorn, if_pos hbreak, if_pos hbreak, ih, ih]
    simp [foldl_extend_cons]
  | plain c rest huntorn hplain ih =>
    rw [lines, linesFrom_cons huntorn, linesFrom_cons huntorn, if_neg (Bool.eq_false_iff.mp hplain),
      if_neg (Bool.eq_false_iff.mp hplain), ih, ih]
    simp

@[simp] theorem lines_nil : lines [] = [] := rfl

@[simp] theorem lines_pair (rest : List Char) :
    lines ('\r' :: '\n' :: rest) = [] :: lines rest := by
  rw [lines, linesFrom, linesFrom_eq]
  rfl

/-- A break at the start of a text ends an empty line. -/
theorem lines_break (h : Untorn [c] text) (hbreak : isLineBreak c = true) :
    lines (c :: text) = [] :: lines text := by
  rw [lines, linesFrom_cons h, if_pos hbreak, linesFrom_eq]
  rfl

theorem untorn_of_plain (hplain : isLineBreak c = false) : Untorn [c] text := by
  intro hlast
  obtain rfl := Option.some.inj hlast
  cases hplain

/-- Any other character is the first of the first line. -/
theorem lines_plain (hplain : isLineBreak c = false) :
    lines (c :: text) = extend (lines text) c := by
  rw [lines, linesFrom_cons (untorn_of_plain hplain), if_neg (Bool.eq_false_iff.mp hplain),
    linesFrom_eq]
  rfl

@[simp] theorem lines_eq_nil_iff : lines text = [] ↔ text = [] := by
  induction text using induction_on_breaks with
  | nil => simp
  | pair rest ih => simp
  | stop c rest huntorn hbreak ih => simp [lines_break huntorn hbreak]
  | plain c rest huntorn hplain ih =>
    rw [lines_plain hplain]
    cases lines rest <;> simp [extend]

/-- Characters without a break are one line, if there are any. -/
theorem lines_unbroken (hplain : ∀ c ∈ line, isLineBreak c = false) (hne : line ≠ []) :
    lines line = [line] := by
  induction line with
  | nil => exact absurd rfl hne
  | cons c line ih =>
    obtain ⟨hc, hline⟩ := List.forall_mem_cons.mp hplain
    rw [lines_plain hc]
    cases line with
    | nil => rfl
    | cons d line =>
      rw [ih hline (List.cons_ne_nil d line)]
      rfl

/-- With a break behind them they are one line, even if there are none. -/
theorem lines_unbroken_concat (hplain : ∀ c ∈ line, isLineBreak c = false)
    (hbreak : isLineBreak c = true) : lines (line ++ [c]) = [line] := by
  induction line with
  | nil => exact lines_break (untorn_nil [c]) hbreak
  | cons d line ih =>
    obtain ⟨hd, hline⟩ := List.forall_mem_cons.mp hplain
    rw [List.cons_append, lines_plain hd, ih hline]
    rfl

/-! ### Cutting a text after a break -/

/-- The text is empty or ends with the end of a line. -/
def Closed (a : List Char) : Prop :=
  ∀ c ∈ a.getLast?, isLineBreak c = true

theorem closed_nil : Closed [] := by
  simp [Closed]

theorem closed_concat (a : List Char) : Closed (a ++ [c]) ↔ isLineBreak c = true := by
  simp [Closed]

/-- A text that goes on after its first character ends as its rest does. -/
theorem Closed.of_cons (h : Closed (c :: a)) : Closed a := by
  cases a with
  | nil => exact closed_nil
  | cons d a => rwa [Closed, List.getLast?_cons_cons] at h

theorem Untorn.of_cons (h : Untorn (c :: a) b) : Untorn a b := by
  cases a with
  | nil => rintro ⟨⟩
  | cons d a => rwa [Untorn, List.getLast?_cons_cons] at h

theorem Untorn.of_append {d : List Char} (h : Untorn a (b ++ d)) : Untorn a b := by
  cases b with
  | nil => exact untorn_nil a
  | cons _ _ => exact h

theorem untorn_append (h : Untorn (c :: a) b) (hc : Untorn [c] a) :
    Untorn [c] (a ++ b) := by
  cases a with
  | nil => exact h
  | cons _ _ => exact hc

/-- **The lines of a text that ends with the end of a line come first**, whatever comes after
it. -/
theorem lines_append (ha : Closed a) (h : Untorn a b) : lines (a ++ b) = lines a ++ lines b := by
  induction a using induction_on_breaks with
  | nil => rfl
  | pair rest ih => simp [ih ha.of_cons.of_cons h.of_cons.of_cons]
  | stop c rest huntorn hbreak ih =>
    rw [List.cons_append, lines_break huntorn hbreak,
      lines_break (untorn_append h huntorn) hbreak, ih ha.of_cons h.of_cons, List.cons_append]
  | plain c rest huntorn hplain ih =>
    -- The character is not the last one, so there is a line that it belongs to.
    have hsome : lines rest ≠ [] := by
      rw [Ne, lines_eq_nil_iff]
      rintro rfl
      simp [Closed, hplain] at ha
    rw [List.cons_append, lines_plain hplain, lines_plain hplain, ih ha.of_cons h.of_cons]
    cases hlines : lines rest with
    | nil => exact absurd hlines hsome
    | cons line others => rfl

/-- Breaks are counted on either side of a cut. -/
theorem breaks_append (h : Untorn a b) : breaks (a ++ b) = breaks a + breaks b := by
  induction a using induction_on_breaks with
  | nil => simp [breaks]
  | pair rest ih =>
    have hrest := ih h.of_cons.of_cons
    simp only [List.cons_append, breaks, hrest]
    omega
  | stop c rest huntorn hbreak ih =>
    rw [List.cons_append, breaks_cons huntorn, breaks_cons (untorn_append h huntorn),
      ih h.of_cons, if_pos hbreak, if_pos hbreak, Nat.add_right_comm]
  | plain c rest huntorn hplain ih =>
    rw [List.cons_append, breaks_cons huntorn, breaks_cons (untorn_append h huntorn),
      ih h.of_cons, hplain]
    rfl

/-- A text that ends with the end of a line has as many lines as breaks. -/
theorem length_lines (ha : Closed a) : (lines a).length = breaks a := by
  induction a using induction_on_breaks with
  | nil => rfl
  | pair rest ih => simp [breaks, ih ha.of_cons.of_cons]
  | stop c rest huntorn hbreak ih =>
    simp [lines_break huntorn hbreak, breaks_cons huntorn, hbreak, ih ha.of_cons]
  | plain c rest huntorn hplain ih =>
    rw [lines_plain hplain, breaks_cons huntorn, hplain, ← ih ha.of_cons]
    cases hlines : lines rest with
    | nil =>
      obtain rfl := lines_eq_nil_iff.mp hlines
      simp [Closed, hplain] at ha
    | cons line others => rfl

/-! ### Lines and what is around them -/

/-- A line between what comes before it and what comes after it in its text. -/
structure Stands (before line after : List Char) : Prop where
  /-- It starts where the text starts, or after the end of the line before. -/
  closed : Closed before
  untorn : Untorn before (line ++ after)
  /-- There is no break in it. -/
  plain : ∀ c ∈ line, isLineBreak c = false
  /-- It ends where the text ends, or at a break. -/
  stop : ∀ c ∈ after.head?, isLineBreak c = true
  /-- After the last break of a text there is no line unless it has characters. -/
  ne_nil : line ++ after ≠ []

/-- A line without a break in it is the first one up to the next break. -/
theorem exists_lines_eq_cons (hplain : ∀ c ∈ line, isLineBreak c = false)
    (hstop : ∀ c ∈ after.head?, isLineBreak c = true) (hne : line ++ after ≠ []) :
    ∃ rest, lines (line ++ after) = line :: rest := by
  induction line with
  | nil =>
    obtain ⟨c, after, rfl⟩ := List.exists_cons_of_ne_nil hne
    have hbreak : isLineBreak c = true := hstop c rfl
    by_cases huntorn : Untorn [c] after
    · exact ⟨_, lines_break huntorn hbreak⟩
    · -- The break is a pair.
      simp only [Untorn, List.getLast?_singleton, Option.some.injEq, ne_eq, Classical.not_imp,
        Decidable.not_not] at huntorn
      obtain ⟨rfl, hhead⟩ := huntorn
      obtain ⟨after, rfl⟩ := List.head?_eq_some_iff.mp hhead
      exact ⟨_, lines_pair after⟩
  | cons c line ih =>
    rw [List.cons_append, lines_plain (hplain c (List.mem_cons_self ..))]
    by_cases hrest : line ++ after = []
    · obtain ⟨rfl, rfl⟩ := List.append_eq_nil_iff.mp hrest
      exact ⟨_, rfl⟩
    · obtain ⟨rest, hlines⟩ := ih (fun d hd => hplain d (List.mem_cons_of_mem _ hd)) hrest
      rw [hlines]
      exact ⟨rest, rfl⟩

/-- Of all that comes after its first line, a text needs at most the break to have this line. -/
theorem toList_head?_lines (hplain : ∀ c ∈ line, isLineBreak c = false)
    (hstop : ∀ c ∈ after.head?, isLineBreak c = true) :
    (lines (line ++ after)).head?.toList = lines (line ++ after.take 1) := by
  cases after with
  | nil =>
    rw [List.take_nil, List.append_nil]
    by_cases hne : line = []
    · subst hne
      rfl
    · rw [lines_unbroken hplain hne]
      rfl
  | cons c after =>
    obtain ⟨rest, hlines⟩ := exists_lines_eq_cons hplain hstop (by simp)
    rw [hlines, List.take_succ_cons, List.take_zero, lines_unbroken_concat hplain (hstop c rfl)]
    rfl

theorem Stands.exists_lines_eq (h : Stands before line after) :
    ∃ rest, lines (before ++ (line ++ after)) = lines before ++ line :: rest := by
  obtain ⟨rest, hlines⟩ := exists_lines_eq_cons h.plain h.stop h.ne_nil
  exact ⟨rest, by rw [lines_append h.closed h.untorn, hlines]⟩

theorem Stands.getElem?_lines (h : Stands before line after) :
    (lines (before ++ (line ++ after)))[breaks before]? = some line := by
  obtain ⟨rest, hlines⟩ := h.exists_lines_eq
  simp [hlines, ← length_lines h.closed]

/-- A line still stands when more is put in front of it, unless it becomes part of what is put
there. -/
theorem Stands.behind {front : List Char} (h : Stands before line after)
    (hfront : Closed front ∨ before ≠ []) (huntorn : Untorn front (before ++ (line ++ after))) :
    Stands (front ++ before) line after := by
  by_cases hbefore : before = []
  · subst hbefore
    have hclosed : Closed front := hfront.resolve_right fun hne => hne rfl
    rw [List.append_nil]
    exact ⟨hclosed, huntorn, h.plain, h.stop, h.ne_nil⟩
  · have hlast := List.getLast?_append_of_ne_nil front hbefore
    refine ⟨?_, ?_, h.plain, h.stop, h.ne_nil⟩
    · rw [Closed, hlast]
      exact h.closed
    · rw [Untorn, hlast]
      exact h.untorn

theorem Closed.eq_nil_of_breaks (ha : Closed a) (h : breaks a = 0) : a = [] := by
  rw [← length_lines ha] at h
  exact lines_eq_nil_iff.mp (List.length_eq_zero_iff.mp h)

/-- Every line stands somewhere, behind as many breaks as there are lines before it. -/
theorem exists_stands (h : (lines text)[i]? = some line) :
    ∃ before after, text = before ++ (line ++ after) ∧ Stands before line after ∧
      breaks before = i := by
  induction text using induction_on_breaks generalizing i line with
  | nil => simp at h
  | pair rest ih =>
    rw [lines_pair] at h
    cases i with
    | zero =>
      obtain rfl := Option.some.inj h
      exact ⟨[], '\r' :: '\n' :: rest, rfl, ⟨closed_nil, nofun, nofun, by simp; rfl, nofun⟩, rfl⟩
    | succ i =>
      obtain ⟨before, after, rfl, hstands, rfl⟩ := ih h
      refine ⟨['\r', '\n'] ++ before, after, rfl, hstands.behind (.inl ?_) ?_, rfl⟩
      · simp [Closed]
        rfl
      · simp [Untorn]
  | stop c rest huntorn hbreak ih =>
    rw [lines_break huntorn hbreak] at h
    cases i with
    | zero =>
      obtain rfl := Option.some.inj h
      exact ⟨[], c :: rest, rfl, ⟨closed_nil, nofun, nofun, by simpa using hbreak, nofun⟩, rfl⟩
    | succ i =>
      obtain ⟨before, after, rfl, hstands, rfl⟩ := ih h
      have hclosed : Closed [c] := (closed_concat []).mpr hbreak
      refine ⟨[c] ++ before, after, rfl, hstands.behind (.inl hclosed) huntorn, ?_⟩
      rw [breaks_append huntorn.of_append, breaks_cons (untorn_nil [c]), if_pos hbreak]
      exact Nat.add_comm ..
  | plain c rest huntorn hplain ih =>
    rw [lines_plain hplain] at h
    cases hlines : lines rest with
    | nil =>
      -- The character is the whole text.
      obtain rfl := lines_eq_nil_iff.mp hlines
      cases i with
      | zero =>
        obtain rfl := Option.some.inj h
        exact ⟨[], [], rfl, ⟨closed_nil, nofun, by simpa using hplain, nofun, nofun⟩, rfl⟩
      | succ i => cases h
    | cons first others =>
      rw [hlines] at h ih
      cases i with
      | zero =>
        obtain rfl := Option.some.inj h
        obtain ⟨before, after, rfl, hstands, hnone⟩ := ih (i := 0) rfl
        obtain rfl := hstands.closed.eq_nil_of_breaks hnone
        refine ⟨[], after, rfl, ⟨closed_nil, nofun, ?_, hstands.stop, nofun⟩, rfl⟩
        exact List.forall_mem_cons.mpr ⟨hplain, hstands.plain⟩
      | succ i =>
        obtain ⟨before, after, rfl, hstands, hcount⟩ := ih (i := i + 1) h
        have hbefore : before ≠ [] := by
          rintro rfl
          cases hcount
        refine ⟨[c] ++ before, after, rfl, hstands.behind (.inr hbefore) huntorn, ?_⟩
        rw [breaks_append huntorn.of_append, breaks_cons (untorn_nil [c]), hplain, hcount]
        exact Nat.zero_add _

/-- **The lines of a text are what stands in it between breaks**, and their numbers are those of
the breaks before them. -/
theorem getElem?_lines_iff :
    (lines text)[i]? = some line ↔
      ∃ before after, text = before ++ (line ++ after) ∧ Stands before line after ∧
        breaks before = i := by
  constructor
  · exact exists_stands
  · rintro ⟨before, after, rfl, hstands, rfl⟩
    exact hstands.getElem?_lines

/-- The first character behind those that are no breaks is a break. -/
theorem isLineBreak_of_mem_head?_dropWhile
    (h : c ∈ (text.dropWhile fun d => !isLineBreak d).head?) : isLineBreak c = true := by
  rw [← List.find?_eq_head?_dropWhile_not] at h
  exact List.find?_some h

/-- Characters that follow each other without a break stand together in one line. -/
theorem exists_line_of_unbroken {mid : List Char} (hmid : mid ≠ [])
    (hplain : ∀ c ∈ mid, isLineBreak c = false) (before after : List Char) :
    ∃ start stop, start <:+ before ∧ stop <+: after ∧
      start ++ mid ++ stop ∈ lines (before ++ mid ++ after) := by
  -- The line reaches back to the last break before the characters, and on to the next one.
  let front := before.rdropWhile fun d => !isLineBreak d
  let start := before.rtakeWhile fun d => !isLineBreak d
  let stop := after.takeWhile fun d => !isLineBreak d
  let rest := after.dropWhile fun d => !isLineBreak d
  have hbefore : front ++ start = before := List.rdropWhile_append_rtakeWhile
  have hafter : stop ++ rest = after := List.takeWhile_append_dropWhile
  have hline : ∀ c ∈ start ++ mid ++ stop, isLineBreak c = false := by
    intro c hc
    simp only [List.mem_append] at hc
    rcases hc with (hc | hc) | hc
    · simpa using List.mem_rtakeWhile_imp hc
    · exact hplain c hc
    · simpa using List.mem_takeWhile_imp hc
  have hsome : start ++ mid ++ stop ≠ [] := by
    simp [hmid]
  have hstands : Stands front (start ++ mid ++ stop) rest := by
    refine ⟨fun c hc => ?_, fun _ hhead => ?_, hline,
      fun c hc => isLineBreak_of_mem_head?_dropWhile hc, by simp [hmid]⟩
    · rw [show front = _ from List.rdropWhile.eq_1 .., List.getLast?_reverse] at hc
      exact isLineBreak_of_mem_head?_dropWhile hc
    · rw [List.head?_append_of_ne_nil _ hsome] at hhead
      exact absurd (hline _ (List.mem_of_head? hhead)) (by decide)
  refine ⟨start, stop, List.rtakeWhile_suffix _ _, List.takeWhile_prefix _, ?_⟩
  have hmem := List.mem_of_getElem? hstands.getElem?_lines
  rwa [show front ++ (start ++ mid ++ stop ++ rest) = before ++ mid ++ after by
    rw [← hbefore, ← hafter]
    simp] at hmem

/-- A text without a break in it occurs in another one exactly if it occurs in one of its
lines. -/
theorem infix_iff_exists_line {mid : List Char} (hmid : mid ≠ [])
    (hplain : ∀ c ∈ mid, isLineBreak c = false) :
    mid <:+: text ↔ ∃ line ∈ lines text, mid <:+: line := by
  constructor
  · rintro ⟨before, after, rfl⟩
    obtain ⟨start, stop, -, -, hline⟩ := exists_line_of_unbroken hmid hplain before after
    exact ⟨_, hline, start, stop, rfl⟩
  · rintro ⟨line, hline, hinfix⟩
    obtain ⟨i, hi⟩ := List.mem_iff_getElem?.mp hline
    obtain ⟨before, after, rfl, -, -⟩ := exists_stands hi
    exact hinfix.trans ⟨before, after, by simp⟩

end PluginSweep.Text
