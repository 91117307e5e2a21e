/-
PluginSweep/Proofs/Dialogue/Value.lean

Dialogues in surroundings that never change their mind.  A *table* has one reply
for each question, whenever and however often it is asked; `value table d` is what
the dialogue `d` comes to where every reply is that of the table.

A dialogue sees of its surroundings only the replies to the questions that it may
ask.  So a run comes to the value as soon as these replies are those of the table,
whatever else may happen (`Runs.eq_value`), and two tables that agree on these
questions give the same value (`value_congr`).
-/
import PluginSweep.Proofs.Dialogue.Run

namespace PluginSweep.Dialogue

variable {Q : Type} {R : Q → Type} {α β σ : Type} {table table' : (question : Q) → R question}

/-- What the dialogue comes to where every reply is that of the table. -/
def value (table : (question : Q) → R question) : Dialogue Q R α → α
  | done a => a
  | ask q next => (next (table q)).value table

@[simp] theorem value_pure (a : α) : (pure a : Dialogue Q R α).value table = a := rfl

@[simp] theorem value_inquire (q : Q) :
    (inquire q : Dialogue Q R (R q)).value table = table q := rfl

@[simp] theorem value_bind (d : Dialogue Q R α) (f : α → Dialogue Q R β) :
    (d >>= f).value table = (f (d.value table)).value table := by
  show (d.bind f).value table = _
  induction d with
  | done a => rfl
  | ask q next ih => exact ih (table q)

@[simp] theorem value_map (d : Dialogue Q R α) (f : α → β) :
    (f <$> d).value table = f (d.value table) := by
  rw [map_eq_pure_bind, value_bind, value_pure]

variable {p : Q → Prop} {c : Conduct R σ}

/-- A run in which the questions of the dialogue get the replies of the table comes to the
value. -/
theorem Runs.eq_value (hreply : ∀ {s q r t}, p q → c s q r t → r = table q)
    {d : Dialogue Q R α} {s t : σ} {a : α} (h : Runs c d s a t) (hd : d.Only p) :
    a = d.value table := by
  induction h with
  | done => rfl
  | ask reply _ ih =>
    obtain ⟨hq, hnext⟩ := hd
    have hr := hreply hq reply
    subst hr
    exact ih (hnext _)

/-- Surroundings that reply out of the table and keep no state. -/
def fixed (table : (question : Q) → R question) : Conduct R Unit :=
  fun _ question reply _ => reply = table question

/-- In such surroundings a dialogue comes to its value, and to nothing else. -/
theorem runs_fixed_iff {d : Dialogue Q R α} {s t : Unit} {a : α} :
    Runs (fixed table) d s a t ↔ a = d.value table := by
  induction d generalizing s with
  | done b => exact runs_done_iff.trans (and_iff_left rfl)
  | ask q next ih =>
    rw [runs_ask_iff]
    constructor
    · rintro ⟨_, _, rfl, hrest⟩
      exact ih _ |>.mp hrest
    · rintro rfl
      exact ⟨table q, (), rfl, (ih _).mpr rfl⟩

/-- Tables that agree on what a dialogue may ask give it the same value. -/
theorem value_congr {d : Dialogue Q R α} (hd : d.Only p) (hagree : ∀ q, p q → table q = table' q) :
    d.value table = d.value table' := by
  induction d with
  | done a => rfl
  | ask q next ih =>
    obtain ⟨hq, hnext⟩ := hd
    show (next (table q)).value table = (next (table' q)).value table'
    rw [← hagree q hq]
    exact ih (table q) (hnext _)

end PluginSweep.Dialogue
