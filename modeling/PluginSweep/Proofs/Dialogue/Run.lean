/-
PluginSweep/Proofs/Dialogue/Run.lean

Runs of dialogues.  `Dialogue.answer` runs a dialogue against surroundings
that reply in one way only.  Here surroundings may be free in what they reply
and in what they do: a *conduct* says which replies a question may get in a
state, and which states may follow.  `Runs c d s a t` says that the dialogue
`d`, started while the surroundings are in the state `s`, may end with the
value `a` and leave them in the state `t`.

A run of one dialogue after the other is a run of the first and then a run of
the second (`runs_bind_iff`); an order of states in which every reply goes on
is one in which every run goes on (`Runs.related`); and the run of `answer` is
one of the runs of every conduct that allows its replies (`runs_answer`).

`Only p d` says that `d` asks no question outside `p`, whatever the replies.  What
the replies to such questions keep, a run of `d` keeps (`Runs.keeps_of_only`).
-/
import PluginSweep.Dialogue

namespace PluginSweep.Dialogue

variable {Q : Type} {R : Q → Type} {α β σ : Type}

/-! ### Conducts and runs -/

/-- What surroundings may do: in a state, a question may get a reply, and a state follows. -/
abbrev Conduct (R : Q → Type) (σ : Type) : Type :=
  σ → (question : Q) → R question → σ → Prop

/-- A run of a dialogue from one state of the surroundings to another. -/
inductive Runs (c : Conduct R σ) : Dialogue Q R α → σ → α → σ → Prop
  | done (a : α) (s : σ) : Runs c (done a) s a s
  | ask {q : Q} {next : R q → Dialogue Q R α} {r : R q} {s t u : σ} {a : α}
      (reply : c s q r t) (rest : Runs c (next r) t a u) : Runs c (ask q next) s a u

variable {c : Conduct R σ}

@[simp] theorem runs_done_iff {a a' : α} {s s' : σ} :
    Runs c (done a : Dialogue Q R α) s a' s' ↔ a' = a ∧ s' = s := by
  constructor
  · rintro ⟨⟩
    exact ⟨rfl, rfl⟩
  · rintro ⟨rfl, rfl⟩
    exact .done _ _

@[simp] theorem runs_ask_iff {q : Q} {next : R q → Dialogue Q R α} {s u : σ} {a : α} :
    Runs c (ask q next) s a u ↔ ∃ r t, c s q r t ∧ Runs c (next r) t a u := by
  constructor
  · rintro ⟨⟩
    exact ⟨_, _, ‹_›, ‹_›⟩
  · rintro ⟨r, t, hreply, hrest⟩
    exact .ask hreply hrest

@[simp] theorem runs_inquire_iff {q : Q} {s t : σ} {r : R q} :
    Runs c (inquire q : Dialogue Q R (R q)) s r t ↔ c s q r t := by
  simp [inquire]

@[simp] theorem runs_pure_iff {a a' : α} {s s' : σ} :
    Runs c (pure a : Dialogue Q R α) s a' s' ↔ a' = a ∧ s' = s :=
  runs_done_iff

/-- A run of one dialogue after the other passes through the end of the first. -/
@[simp] theorem runs_bind_iff {d : Dialogue Q R α} {f : α → Dialogue Q R β} {s u : σ} {b : β} :
    Runs c (d >>= f) s b u ↔ ∃ a t, Runs c d s a t ∧ Runs c (f a) t b u := by
  show Runs c (d.bind f) s b u ↔ _
  induction d generalizing s with
  | done a =>
    constructor
    · intro h
      exact ⟨a, s, .done a s, h⟩
    · rintro ⟨a', t, hd, hf⟩
      obtain ⟨rfl, rfl⟩ := runs_done_iff.mp hd
      exact hf
  | ask q next ih =>
    simp only [ask_bind, runs_ask_iff, ih]
    constructor
    · rintro ⟨r, t, hreply, a, v, hd, hf⟩
      exact ⟨a, v, ⟨r, t, hreply, hd⟩, hf⟩
    · rintro ⟨a, v, ⟨r, t, hreply, hd⟩, hf⟩
      exact ⟨r, t, hreply, a, v, hd, hf⟩

@[simp] theorem runs_map_iff {d : Dialogue Q R α} {f : α → β} {s t : σ} {b : β} :
    Runs c (f <$> d) s b t ↔ ∃ a, Runs c d s a t ∧ b = f a := by
  rw [map_eq_pure_bind, runs_bind_iff]
  constructor
  · rintro ⟨a, u, hd, hpure⟩
    obtain ⟨rfl, rfl⟩ := runs_pure_iff.mp hpure
    exact ⟨a, hd, rfl⟩
  · rintro ⟨a, hd, rfl⟩
    exact ⟨a, t, hd, runs_pure_iff.mpr ⟨rfl, rfl⟩⟩

/-! ### What runs keep -/

/-- A relation between states that is reflexive and transitive, and that holds across every
reply, holds across every run. -/
theorem Runs.related {rel : σ → σ → Prop} (hrefl : ∀ s, rel s s)
    (htrans : ∀ {s t u}, rel s t → rel t u → rel s u)
    (hstep : ∀ {s q r t}, c s q r t → rel s t)
    {d : Dialogue Q R α} {s t : σ} {a : α} (h : Runs c d s a t) : rel s t := by
  induction h with
  | done => exact hrefl _
  | ask reply _ ih => exact htrans (hstep reply) ih

/-- What every reply keeps, every run keeps. -/
theorem Runs.keeps (P : σ → Prop) (hstep : ∀ {s q r t}, c s q r t → P s → P t)
    {d : Dialogue Q R α} {s t : σ} {a : α} (h : Runs c d s a t) (hs : P s) : P t := by
  induction h with
  | done => exact hs
  | ask reply _ ih => exact ih (hstep reply hs)

/-- If what a run ends with was so before every reply that has it so, it was so throughout. -/
theorem Runs.throughout {P : σ → Prop} (hback : ∀ {s q r t}, c s q r t → P t → P s)
    {d : Dialogue Q R α} {s t : σ} {a : α} (h : Runs c d s a t) (ht : P t) :
    Runs (fun s q r t => c s q r t ∧ P t) d s a t ∧ P s := by
  induction h with
  | done a s => exact ⟨.done a s, ht⟩
  | ask reply _ ih =>
    obtain ⟨hrest, hnext⟩ := ih ht
    exact ⟨.ask ⟨reply, hnext⟩ hrest, hback reply hnext⟩

/-- What surroundings may do, freer surroundings may do as well. -/
theorem Runs.mono {c' : Conduct R σ} (hc : ∀ {s q r t}, c s q r t → c' s q r t)
    {d : Dialogue Q R α} {s t : σ} {a : α} (h : Runs c d s a t) : Runs c' d s a t := by
  induction h with
  | done a s => exact .done a s
  | ask reply _ ih => exact .ask (hc reply) ih

/-- What surroundings do and others can do, reply by reply and from related states, the others can
do throughout a run. -/
theorem Runs.simulated {τ : Type} {c' : Conduct R τ} (rel : σ → τ → Prop)
    (hstep : ∀ {s q r t s'}, c s q r t → rel s s' → ∃ t', c' s' q r t' ∧ rel t t')
    {d : Dialogue Q R α} {s t : σ} {a : α} (h : Runs c d s a t) {s' : τ} (hs : rel s s') :
    ∃ t', Runs c' d s' a t' ∧ rel t t' := by
  induction h generalizing s' with
  | done a s => exact ⟨s', .done a s', hs⟩
  | ask reply _ ih =>
    obtain ⟨t', hreply, ht⟩ := hstep reply hs
    obtain ⟨u', hrest, hu⟩ := ih ht
    exact ⟨u', .ask hreply hrest, hu⟩

/-- Surroundings whose replies a conduct allows run every dialogue as the conduct does. -/
theorem runs_answer {surroundings : (q : Q) → σ → R q × σ}
    (hallowed : ∀ q s, c s q (surroundings q s).1 (surroundings q s).2)
    (d : Dialogue Q R α) (s : σ) :
    Runs c d s (d.answer surroundings s).1 (d.answer surroundings s).2 := by
  induction d generalizing s with
  | done a => exact .done a s
  | ask q next ih => exact .ask (hallowed q s) (ih _ _)

/-- A dialogue that asks a question goes on with the reply to it. -/
theorem answer_eq_of_reply {surroundings : (q : Q) → σ → R q × σ} {d : Dialogue Q R α} {q : Q}
    {next : R q → Dialogue Q R α} {s t : σ} {r : R q} (hd : d = ask q next)
    (hreply : surroundings q s = (r, t)) :
    d.answer surroundings s = (next r).answer surroundings t := by
  rw [hd]
  show (next (surroundings q s).1).answer surroundings (surroundings q s).2 = _
  rw [hreply]

/-! ### What is asked -/

/-- The dialogue asks no question outside `p`. -/
def Only (p : Q → Prop) : Dialogue Q R α → Prop
  | done _ => True
  | ask q next => p q ∧ ∀ r, (next r).Only p

variable {p : Q → Prop}

@[simp] theorem only_pure (a : α) : (pure a : Dialogue Q R α).Only p :=
  trivial

@[simp] theorem only_inquire_iff {q : Q} : (inquire q : Dialogue Q R (R q)).Only p ↔ p q := by
  simp [inquire, Only]

theorem Only.bind {d : Dialogue Q R α} {f : α → Dialogue Q R β} (hd : d.Only p)
    (hf : ∀ a, (f a).Only p) : (d >>= f).Only p := by
  show (d.bind f).Only p
  induction d with
  | done a => exact hf a
  | ask q next ih => exact ⟨hd.1, fun r => ih r (hd.2 r)⟩

theorem Only.mono {p' : Q → Prop} (hp : ∀ q, p q → p' q) {d : Dialogue Q R α} (h : d.Only p) :
    d.Only p' := by
  induction d with
  | done a => trivial
  | ask q next ih => exact ⟨hp q h.1, fun r => ih r (h.2 r)⟩

/-- What every reply to a question of `p` keeps is kept by a dialogue that asks no other. -/
theorem Runs.keeps_of_only {I : σ → Prop} (hstep : ∀ {s q r t}, p q → c s q r t → I s → I t)
    {d : Dialogue Q R α} {s t : σ} {a : α} (h : Runs c d s a t) (hd : d.Only p) (hs : I s) :
    I t := by
  induction h with
  | done => exact hs
  | ask reply _ ih => exact ih (hd.2 _) (hstep hd.1 reply hs)

end PluginSweep.Dialogue
