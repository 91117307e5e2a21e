/-
PluginSweep/Proofs/Pattern/Match.lean

What a pattern matches, said without the search for it.  `Pattern.Matches` relates a
pattern to characters together with what comes before and after them in the line.  Every
pattern is explained by its parts, and a repetition may end anywhere.

The search decides this relation.  At a place it says yes exactly if the pattern matches
some of the characters that come next and the caller is content with the place behind them
(`run_eq_true_iff`); a line is matched exactly if the pattern matches characters somewhere
in it (`found_eq_true_iff`).
-/
import Mathlib.Data.List.Forall2
import PluginSweep.Pattern.Basic

namespace PluginSweep.Pattern

variable {rule : CaseRule} {p q : Pattern} {k : Place → Bool} {before rest line : List Char}

/-! ### What a pattern matches -/

/-- The pattern matches the characters `mid` where `before` and `after` are around them. -/
def Matches (rule : CaseRule) : Pattern → (before mid after : List Char) → Prop
  | text s, _, mid, _ => List.Forall₂ (fun d c => rule.alike d c = true) s mid
  | one cls, _, mid, _ => ∃ c, mid = [c] ∧ cls.contains rule c = true
  | many cls, _, mid, _ => ∀ c ∈ mid, cls.contains rule c = true
  | seq p q, before, mid, after => ∃ first second, mid = first ++ second ∧
      Matches rule p before first (second ++ after) ∧
      Matches rule q (before ++ first) second after
  | alt p q, before, mid, after => Matches rule p before mid after ∨ Matches rule q before mid after
  | wordEdge, before, mid, after => mid = [] ∧ Place.atWordEdge ⟨before.reverse, after⟩ = true
  | notAfter cls, before, mid, _ => mid = [] ∧ ∀ c ∈ before.getLast?, cls.contains rule c = false
  | notAfterText s, before, mid, _ => mid = [] ∧
      ¬ ∃ last, last <:+ before ∧ List.Forall₂ (fun d c => rule.alike d c = true) s last

/-! ### The search decides it -/

/-- What the search is asked at a place: whether the characters that come next begin with some
that `P` holds of, with a place behind them that is wanted. -/
def Goes (P : (before mid after : List Char) → Prop) (before rest : List Char)
    (k : Place → Bool) : Prop :=
  ∃ mid after, rest = mid ++ after ∧ P before mid after ∧
    k ⟨(before ++ mid).reverse, after⟩ = true

/-- A character that has been read is the last one before the place. -/
theorem cons_reverse (c : Char) (before : List Char) :
    c :: before.reverse = (before ++ [c]).reverse := by
  simp

theorem runText_eq_true_iff {s : List Char} :
    runText rule s ⟨before.reverse, rest⟩ k = true ↔
      Goes (Matches rule (text s)) before rest k := by
  induction s generalizing before rest with
  | nil => simp [runText, Goes, Matches]
  | cons d s ih =>
    cases rest with
    | nil => simp [runText, Goes, Matches, List.forall₂_cons_left_iff]
    | cons c rest =>
      rw [runText, Bool.and_eq_true, cons_reverse, ih]
      constructor
      · rintro ⟨halike, mid, after, rfl, hmid, hk⟩
        exact ⟨c :: mid, after, rfl, .cons halike hmid, by simpa using hk⟩
      · rintro ⟨_, after, hrest, hboth, hk⟩
        obtain ⟨_, mid, halike, hmid, rfl⟩ := List.forall₂_cons_left_iff.mp hboth
        obtain ⟨rfl, rfl⟩ := List.cons.inj hrest
        exact ⟨halike, mid, after, rfl, hmid, by simpa using hk⟩

theorem runMany_eq_true_iff {cls : CharClass} :
    runMany rule cls k before.reverse rest = true ↔
      Goes (Matches rule (many cls)) before rest k := by
  induction rest generalizing before with
  | nil => simp [runMany, Goes, Matches]
  | cons c rest ih =>
    rw [runMany, Bool.or_eq_true, Bool.and_eq_true, cons_reverse, ih]
    constructor
    · -- The repetition ends here, or it takes one more character.
      rintro (hk | ⟨hc, mid, after, rfl, hmid, hk⟩)
      · exact ⟨[], c :: rest, rfl, nofun, by simpa using hk⟩
      · exact ⟨c :: mid, after, rfl, List.forall_mem_cons.mpr ⟨hc, hmid⟩, by simpa using hk⟩
    · rintro ⟨mid, after, hrest, hmid, hk⟩
      cases mid with
      | nil =>
        obtain rfl : c :: rest = after := hrest
        exact .inl (by simpa using hk)
      | cons d mid =>
        obtain ⟨rfl, rfl⟩ := List.cons.inj hrest
        obtain ⟨hc, hmid⟩ := List.forall_mem_cons.mp hmid
        exact .inr ⟨hc, mid, after, rfl, hmid, by simpa using hk⟩

/-- What comes before a place ends with a text exactly if the two agree when read backwards. -/
theorem runText_reverse_iff {s : List Char} :
    runText rule s.reverse ⟨[], before.reverse⟩ (fun _ => true) = true ↔
      ∃ last, last <:+ before ∧ List.Forall₂ (fun d c => rule.alike d c = true) s last := by
  rw [← List.reverse_nil, runText_eq_true_iff]
  constructor
  · rintro ⟨mid, after, hbefore, hmid, -⟩
    refine ⟨mid.reverse, ⟨after.reverse, ?_⟩, ?_⟩
    · rw [← List.reverse_append, ← hbefore, List.reverse_reverse]
    · rw [← List.reverse_reverse s]
      exact List.rel_reverse hmid
  · rintro ⟨last, ⟨front, rfl⟩, hlast⟩
    exact ⟨last.reverse, front.reverse, List.reverse_append, List.rel_reverse hlast, rfl⟩

/-- **The search says yes at a place exactly if the pattern matches up to a place that is
wanted.** -/
theorem run_eq_true_iff :
    p.run rule ⟨before.reverse, rest⟩ k = true ↔ Goes (p.Matches rule) before rest k := by
  induction p generalizing before rest k with
  | text s => exact runText_eq_true_iff
  | one cls =>
    cases rest with
    | nil => simp [run, Goes, Matches]
    | cons c rest =>
      rw [run, Bool.and_eq_true]
      constructor
      · rintro ⟨hc, hk⟩
        exact ⟨[c], rest, rfl, ⟨c, rfl, hc⟩, by simpa using hk⟩
      · rintro ⟨_, after, hrest, ⟨d, rfl, hd⟩, hk⟩
        obtain ⟨rfl, rfl⟩ := List.cons.inj hrest
        exact ⟨hd, by simpa using hk⟩
  | many cls => exact runMany_eq_true_iff
  | seq p q ihp ihq =>
    -- The first pattern goes wherever the second can go on.
    rw [run, ihp]
    constructor
    · rintro ⟨first, _, rfl, hp, hrun⟩
      obtain ⟨second, after, rfl, hq, hk⟩ := ihq.mp hrun
      exact ⟨first ++ second, after, by simp, ⟨first, second, rfl, hp, hq⟩, by simpa using hk⟩
    · rintro ⟨_, after, rfl, ⟨first, second, rfl, hp, hq⟩, hk⟩
      refine ⟨first, second ++ after, by simp, hp, ihq.mpr ?_⟩
      exact ⟨second, after, rfl, hq, by simpa using hk⟩
  | alt p q ihp ihq =>
    rw [run, Bool.or_eq_true, ihp, ihq]
    simp [Goes, Matches, or_and_right, and_or_left, exists_or]
  | wordEdge => simp [run, Goes, Matches]
  | notAfter cls => simp [run, Goes, Matches, Option.any_eq_false]
  | notAfterText s => simp [run, Goes, Matches, ← Bool.not_eq_true, runText_reverse_iff]

/-! ### Somewhere in a line -/

theorem foundFrom_eq_true_iff :
    p.foundFrom rule before.reverse rest = true ↔
      ∃ skipped mid after, rest = skipped ++ (mid ++ after) ∧
        p.Matches rule (before ++ skipped) mid after := by
  induction rest generalizing before with
  | nil => simp [foundFrom, run_eq_true_iff, Goes]
  | cons c rest ih =>
    rw [foundFrom, Bool.or_eq_true, run_eq_true_iff, cons_reverse, ih]
    constructor
    · rintro (⟨mid, after, hrest, hmatches, -⟩ | ⟨skipped, mid, after, rfl, hmatches⟩)
      · exact ⟨[], mid, after, hrest, by simpa using hmatches⟩
      · exact ⟨c :: skipped, mid, after, rfl, by simpa using hmatches⟩
    · rintro ⟨skipped, mid, after, hrest, hmatches⟩
      cases skipped with
      | nil => exact .inl ⟨mid, after, hrest, by simpa using hmatches, rfl⟩
      | cons d skipped =>
        obtain ⟨rfl, rfl⟩ := List.cons.inj hrest
        exact .inr ⟨skipped, mid, after, rfl, by simpa using hmatches⟩

/-- **A line is matched exactly if the pattern matches characters somewhere in it.** -/
theorem found_eq_true_iff :
    p.found rule line = true ↔
      ∃ before mid after, line = before ++ (mid ++ after) ∧ p.Matches rule before mid after := by
  rw [found, ← List.reverse_nil, foundFrom_eq_true_iff]
  rfl

/-- A pattern that does not look around itself is found in the lines that hold what it matches. -/
theorem found_iff_exists_infix {P : List Char → Prop}
    (h : ∀ before mid after, p.Matches rule before mid after ↔ P mid) :
    p.found rule line = true ↔ ∃ mid, mid <:+: line ∧ P mid := by
  rw [found_eq_true_iff]
  constructor
  · rintro ⟨before, mid, after, rfl, hmatches⟩
    exact ⟨mid, ⟨before, after, by simp⟩, (h before mid after).mp hmatches⟩
  · rintro ⟨mid, ⟨before, after, rfl⟩, hmid⟩
    exact ⟨before, mid, after, by simp, (h before mid after).mpr hmid⟩

end PluginSweep.Pattern
