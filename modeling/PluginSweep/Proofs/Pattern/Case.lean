/-
PluginSweep/Proofs/Pattern/Case.lean

Patterns that ignore case.  Read in this way, a pattern is found in a line exactly if it is found
in the line in lower case (`found_map_toLower`).

The law that carries the induction over patterns is about places.  A search in lower case is the
search at the place itself, if only what the caller asks of the place behind it is asked in lower
case as well:

    p.run .ignore place.toLower k = p.run .ignore place fun next => k next.toLower

(`run_toLower`).  There is one case for each kind of pattern; those that look at the characters
before the place find these in lower case, too.

A pattern that is made of texts matches some words, in whatever case they are written (`Spells`).
-/
import PluginSweep.Proofs.Pattern.Match
import PluginSweep.Proofs.Text.Case

namespace PluginSweep

/-- A class does not tell a letter from its lower case. -/
theorem CharClass.contains_toLower (cls : CharClass) (c : Char) :
    cls.contains .ignore c.toLower = cls.contains .ignore c := by
  induction cls with
  | char d => simp only [contains, CaseRule.alike, Text.foldKey_toLower]
  | range first last => simp only [contains, CaseRule.alike, Text.foldKey_toLower]
  | word => exact Text.isWord_toLower c
  | blank => exact Text.isBlank_toLower c
  | union a b iha ihb => rw [contains, contains, iha, ihb]
  | compl a ih => rw [contains, contains, ih]

namespace Place

/-- The place where the line is in lower case. -/
def toLower (s : Place) : Place :=
  ⟨s.before.map Char.toLower, s.after.map Char.toLower⟩

theorem any_head?_map_toLower {p : Char → Bool} (h : ∀ c : Char, p c.toLower = p c)
    (text : List Char) : (text.map Char.toLower).head?.any p = text.head?.any p := by
  cases text with
  | nil => rfl
  | cons c text => exact h c

theorem atWordEdge_toLower (s : Place) : s.toLower.atWordEdge = s.atWordEdge := by
  simp only [atWordEdge, toLower, any_head?_map_toLower Text.isWord_toLower]

end Place

namespace Pattern

variable {k : Place → Bool}

theorem runText_toLower (s : List Char) (place : Place) :
    runText .ignore s place.toLower k = runText .ignore s place fun next => k next.toLower := by
  induction s generalizing place with
  | nil => rfl
  | cons d s ih =>
    obtain ⟨before, after⟩ := place
    cases after with
    | nil => rfl
    | cons c after =>
      have halike : CaseRule.ignore.alike d c.toLower = CaseRule.ignore.alike d c := by
        rw [CaseRule.alike, CaseRule.alike, Text.foldKey_toLower]
      show (CaseRule.ignore.alike d c.toLower &&
        runText .ignore s (Place.toLower ⟨c :: before, after⟩) k) = _
      rw [halike, ih]
      rfl

theorem runMany_toLower (cls : CharClass) (before after : List Char) :
    runMany .ignore cls k (before.map Char.toLower) (after.map Char.toLower) =
      runMany .ignore cls (fun next => k next.toLower) before after := by
  induction after generalizing before with
  | nil => rfl
  | cons c after ih =>
    have hstep := ih (c :: before)
    rw [List.map_cons] at hstep
    rw [List.map_cons, runMany, runMany, cls.contains_toLower, hstep]
    rfl

/-- **A pattern matches in lower case what it matches.** -/
theorem run_toLower (p : Pattern) (place : Place) :
    p.run .ignore place.toLower k = p.run .ignore place fun next => k next.toLower := by
  induction p generalizing place k with
  | text s => exact runText_toLower s place
  | one cls =>
    obtain ⟨before, after⟩ := place
    cases after with
    | nil => rfl
    | cons c after =>
      show (cls.contains .ignore c.toLower && k (Place.toLower ⟨c :: before, after⟩)) = _
      rw [cls.contains_toLower]
      rfl
  | many cls => exact runMany_toLower cls place.before place.after
  | seq p q ihp ihq => simp only [run, ihp, ihq]
  | alt p q ihp ihq => rw [run, run, ihp, ihq]
  | wordEdge => rw [run, run, Place.atWordEdge_toLower]
  | notAfter cls =>
    rw [run, run, Place.toLower, Place.any_head?_map_toLower cls.contains_toLower]
  | notAfterText s =>
    have hbehind := runText_toLower (k := fun _ => true) s.reverse ⟨[], place.before⟩
    rw [run, run, ← hbehind]
    rfl

theorem foundFrom_toLower (p : Pattern) (before after : List Char) :
    p.foundFrom .ignore (before.map Char.toLower) (after.map Char.toLower) =
      p.foundFrom .ignore before after := by
  have hplace : ∀ before after : List Char,
      (p.run .ignore ⟨before.map Char.toLower, after.map Char.toLower⟩ fun _ => true) =
        p.run .ignore ⟨before, after⟩ fun _ => true :=
    fun before after => p.run_toLower ⟨before, after⟩
  induction after generalizing before with
  | nil => exact hplace before []
  | cons c after ih =>
    have hhere := hplace before (c :: after)
    have hfurther := ih (c :: before)
    rw [List.map_cons] at hhere hfurther
    rw [List.map_cons, foundFrom, foundFrom, hhere, hfurther]

/-- **A pattern that ignores case is found in a line exactly if it is found in the line in lower
case.** -/
theorem found_map_toLower (p : Pattern) (line : List Char) :
    p.found .ignore (line.map Char.toLower) = p.found .ignore line :=
  p.foundFrom_toLower [] line

/-! ### Words -/

variable {p q : Pattern} {s mid : List Char} {words others : List (List Char)} {c d : Char}

theorem alike_ignore_iff : CaseRule.ignore.alike d c = true ↔ Text.foldKey c = Text.foldKey d := by
  rw [CaseRule.alike, beq_iff_eq, eq_comm]

/-- A character that comes before the letters is taken for itself only. -/
theorem alike_iff_eq (hd : d.toNat < 65) : CaseRule.ignore.alike d c = true ↔ c = d := by
  rw [alike_ignore_iff, (Text.foldKey_eq_iff hd).mpr rfl, Text.foldKey_eq_iff hd]

theorem forall₂_ignore_alike_iff :
    List.Forall₂ (fun d c => CaseRule.ignore.alike d c = true) s mid ↔
      mid.map Text.foldKey = s.map Text.foldKey := by
  simp only [CaseRule.alike, beq_iff_eq]
  rw [eq_comm, ← List.forall₂_eq_eq_eq, List.forall₂_map_left_iff, List.forall₂_map_right_iff]

/-- Ignoring case, the pattern matches the words, wherever they stand, and nothing else.  The words
are given by their keys. -/
def Spells (p : Pattern) (words : List (List Char)) : Prop :=
  ∀ before mid after, p.Matches .ignore before mid after ↔ mid.map Text.foldKey ∈ words

theorem spells_text (s : List Char) : (text s).Spells [s.map Text.foldKey] := by
  intro before mid after
  rw [Matches, forall₂_ignore_alike_iff, List.mem_singleton]

theorem Spells.congr (hp : p.Spells words) (h : words = others) : p.Spells others :=
  h ▸ hp

theorem Spells.alt (hp : p.Spells words) (hq : q.Spells others) :
    (Pattern.alt p q).Spells (words ++ others) := by
  intro before mid after
  rw [Matches, hp, hq, List.mem_append]

theorem Spells.seq (hp : p.Spells words) (hq : q.Spells others) :
    (Pattern.seq p q).Spells (words.flatMap fun word => others.map (word ++ ·)) := by
  intro before mid after
  simp only [Matches, hp _ _ _, hq _ _ _, List.mem_flatMap, List.mem_map]
  constructor
  · rintro ⟨first, second, rfl, hfirst, hsecond⟩
    exact ⟨_, hfirst, _, hsecond, List.map_append.symm⟩
  · rintro ⟨word, hword, other, hother, hmid⟩
    obtain ⟨first, second, rfl, rfl, rfl⟩ := List.map_eq_append_iff.mp hmid.symm
    exact ⟨first, second, rfl, hword, hother⟩

end Pattern

end PluginSweep
