/-
PluginSweep/Proofs/Text/Occurrence.lean

Where one text occurs in another.  A text does not reach across a character that it does not
hold (`infix_append_cons_iff`), and so it may occur in one place only (`eq_of_sole`); two ways to
take a text apart at the first character of a kind are one, and so are two ways at the last
(`eq_of_firsts`, `eq_of_lasts`).
-/
import Mathlib.Data.List.Basic

namespace PluginSweep.Text

variable {α : Type} {a b c stop : α} {front front' rest rest' needle tail : List α}

/-- A text begins with no more than what comes before a character that it does not hold. -/
theorem prefix_append_cons_iff (hstop : stop ∉ needle) :
    needle <+: front ++ stop :: rest ↔ needle <+: front := by
  induction front generalizing needle with
  | nil =>
    cases needle with
    | nil => simp
    | cons d needle => simp [List.cons_prefix_cons, (List.ne_of_not_mem_cons hstop).symm]
  | cons c front ih =>
    cases needle with
    | nil => simp
    | cons d needle =>
      rw [List.cons_append, List.cons_prefix_cons, List.cons_prefix_cons,
        ih (List.not_mem_of_not_mem_cons hstop)]

/-- A text that occurs around a character that it does not hold occurs before or behind it. -/
theorem infix_append_cons_iff (hstop : stop ∉ needle) :
    needle <:+: front ++ stop :: rest ↔ needle <:+: front ∨ needle <:+: rest := by
  induction front with
  | nil =>
    rw [List.nil_append, List.infix_cons_iff, ← List.nil_append (stop :: rest),
      prefix_append_cons_iff hstop, List.prefix_nil, List.infix_nil]
  | cons c front ih =>
    rw [List.cons_append, List.infix_cons_iff, List.infix_cons_iff, ih, ← List.cons_append,
      prefix_append_cons_iff hstop, or_assoc]

/-- A text whose first character is nowhere before it and not repeated in it, and which does not
occur behind itself, occurs once. -/
theorem eq_of_sole (hfront : c ∉ front) (htail : c ∉ tail) (hrest : ¬ c :: tail <:+: rest)
    (h : front ++ (c :: tail ++ rest) = front' ++ (c :: tail ++ rest')) :
    front' = front ∧ rest' = rest := by
  rcases List.append_eq_append_iff.mp h with ⟨mid, rfl, hmid⟩ | ⟨mid, rfl, hmid⟩
  · cases mid with
    | nil =>
      rw [List.append_nil]
      exact ⟨rfl, (List.append_cancel_left hmid).symm⟩
    | cons d mid =>
      obtain ⟨rfl, hbehind⟩ := List.cons.inj hmid
      refine absurd ?_ hrest
      -- The second place is behind the first one, and does not begin in it.
      rcases List.append_eq_append_iff.mp hbehind with ⟨left, -, rfl⟩ | ⟨left, rfl, hleft⟩
      · exact ⟨left, rest', by simp⟩
      · cases left with
        | nil => exact ⟨[], rest', by simpa using hleft⟩
        | cons d left =>
          obtain ⟨rfl, -⟩ := List.cons.inj hleft
          exact absurd (List.mem_append_right _ List.mem_cons_self) htail
  · cases mid with
    | nil =>
      rw [List.append_nil]
      exact ⟨rfl, List.append_cancel_left hmid⟩
    | cons d mid =>
      obtain ⟨rfl, -⟩ := List.cons.inj hmid
      exact absurd (List.mem_append_right _ List.mem_cons_self) hfront

/-- Where `p` holds first is one place. -/
theorem eq_of_firsts {p : α → Prop} (hfront : ∀ x ∈ front, ¬ p x) (ha : p a)
    (hfront' : ∀ x ∈ front', ¬ p x) (hb : p b)
    (h : front ++ a :: rest = front' ++ b :: rest') :
    front = front' ∧ a = b ∧ rest = rest' := by
  induction front generalizing front' with
  | nil =>
    cases front' with
    | nil =>
      obtain ⟨rfl, rfl⟩ := List.cons.inj h
      exact ⟨rfl, rfl, rfl⟩
    | cons d front' =>
      obtain ⟨rfl, -⟩ := List.cons.inj h
      exact absurd ha (hfront' _ List.mem_cons_self)
  | cons c front ih =>
    cases front' with
    | nil =>
      obtain ⟨rfl, -⟩ := List.cons.inj h
      exact absurd hb (hfront _ List.mem_cons_self)
    | cons d front' =>
      obtain ⟨rfl, hrest⟩ := List.cons.inj h
      obtain ⟨rfl, hsame⟩ := ih (fun x hx => hfront x (List.mem_cons_of_mem _ hx))
        (fun x hx => hfront' x (List.mem_cons_of_mem _ hx)) hrest
      exact ⟨rfl, hsame⟩

/-- Where `p` holds last is one place. -/
theorem eq_of_lasts {p : α → Prop} (hrest : ∀ x ∈ rest, ¬ p x) (ha : p a)
    (hrest' : ∀ x ∈ rest', ¬ p x) (hb : p b)
    (h : front ++ a :: rest = front' ++ b :: rest') :
    front = front' ∧ a = b ∧ rest = rest' := by
  have hreverse : rest.reverse ++ a :: front.reverse = rest'.reverse ++ b :: front'.reverse := by
    simpa using congrArg List.reverse h
  obtain ⟨hbehind, hsame, hbefore⟩ := eq_of_firsts (by simpa using hrest) ha (by simpa using hrest')
    hb hreverse
  exact ⟨List.reverse_inj.mp hbefore, hsame, List.reverse_inj.mp hbehind⟩

/-- A character comes behind the text that a whole begins with if it is not in that text. -/
theorem exists_of_append_cons_eq (hfront : a ∉ front) (h : front' ++ a :: rest' = front ++ rest) :
    ∃ mid, front' = front ++ mid ∧ mid ++ a :: rest' = rest := by
  rcases List.append_eq_append_iff.mp h with ⟨mid, rfl, hmid⟩ | ⟨mid, rfl, hmid⟩
  · cases mid with
    | nil => exact ⟨[], by simp, by simpa using hmid⟩
    | cons d mid =>
      obtain ⟨rfl, -⟩ := List.cons.inj hmid
      exact absurd (List.mem_append_right _ List.mem_cons_self) hfront
  · exact ⟨mid, rfl, hmid.symm⟩

end PluginSweep.Text
