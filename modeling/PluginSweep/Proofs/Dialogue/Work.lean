/-
PluginSweep/Proofs/Dialogue/Work.lean

Runs of work.  Probes, sweeps and sessions are dialogues that may fail and
that keep a state of their own.  `Work.Runs c w x o y` says that the work `w`
may go from `x` to `y`, each of them the state of the work beside the state of
the surroundings, and end with the outcome `o`.

Work that follows other work runs only if that did not fail; a failure is
handed on as it is (`runs_bind_iff`).  `Work.Only p w` says that the work asks
no question outside `p`, in whatever state it starts.
-/
import PluginSweep.Proofs.Dialogue.Run

namespace PluginSweep

open Dialogue

/-- Work that may fail with an `ε` and keeps an `S` while it asks. -/
abbrev Work (ε S Q : Type) (R : Q → Type) : Type → Type :=
  ExceptT ε (StateT S (Dialogue Q R))

namespace Work

variable {ε S Q : Type} {R : Q → Type} {α β σ : Type} {c : Conduct R σ}

/-! ### Runs of work -/

/-- A run of work, between states of the work beside states of the surroundings. -/
def Runs (c : Conduct R σ) (w : Work ε S Q R α) (x : S × σ) (o : Except ε α) (y : S × σ) : Prop :=
  Dialogue.Runs c (w.run.run x.1) x.2 (o, y.1) y.2

@[simp] theorem runs_pure_iff {a : α} {x y : S × σ} {o : Except ε α} :
    Runs c (pure a : Work ε S Q R α) x o y ↔ o = .ok a ∧ y = x := by
  obtain ⟨st, s⟩ := x
  obtain ⟨st', s'⟩ := y
  show Dialogue.Runs c (pure (Except.ok a, st)) s (o, st') s' ↔ _
  rw [Dialogue.runs_pure_iff, Prod.mk.injEq, Prod.mk.injEq, and_assoc]

@[simp] theorem runs_throw_iff {e : ε} {x y : S × σ} {o : Except ε α} :
    Runs c (throw e : Work ε S Q R α) x o y ↔ o = .error e ∧ y = x := by
  obtain ⟨st, s⟩ := x
  obtain ⟨st', s'⟩ := y
  show Dialogue.Runs c (pure (Except.error e, st)) s (o, st') s' ↔ _
  rw [Dialogue.runs_pure_iff, Prod.mk.injEq, Prod.mk.injEq, and_assoc]

/-- Work that follows other work is run where that ended, unless that failed. -/
theorem runs_bind_iff {w : Work ε S Q R α} {f : α → Work ε S Q R β} {x y : S × σ}
    {o : Except ε β} :
    Runs c (w >>= f) x o y ↔
      (∃ a z, Runs c w x (.ok a) z ∧ Runs c (f a) z o y) ∨
      ∃ e, Runs c w x (.error e) y ∧ o = .error e := by
  simp only [Runs, ExceptT.run_bind, StateT.run_bind, Dialogue.runs_bind_iff, Prod.exists]
  constructor
  · rintro ⟨out, st, s, hw, hf⟩
    cases out with
    | ok a => exact .inl ⟨a, st, s, hw, hf⟩
    | error e =>
      obtain ⟨hout, hs⟩ := Dialogue.runs_pure_iff.mp hf
      obtain ⟨rfl, hst⟩ := Prod.mk.inj hout
      rw [hs, hst]
      exact .inr ⟨e, hw, rfl⟩
  · rintro (⟨a, st, s, hw, hf⟩ | ⟨e, hw, rfl⟩)
    · exact ⟨.ok a, st, s, hw, hf⟩
    · exact ⟨.error e, y.1, y.2, hw, Dialogue.runs_pure_iff.mpr ⟨rfl, rfl⟩⟩

/-- Work that succeeds after other work has that succeed before it. -/
@[simp] theorem runs_bind_ok_iff {w : Work ε S Q R α} {f : α → Work ε S Q R β} {x y : S × σ}
    {b : β} :
    Runs c (w >>= f) x (.ok b) y ↔ ∃ a z, Runs c w x (.ok a) z ∧ Runs c (f a) z (.ok b) y := by
  simp [runs_bind_iff]

/-- Nothing is done after a failure. -/
theorem runs_throw_bind_iff {e : ε} {f : α → Work ε S Q R β} {x y : S × σ} {o : Except ε β} :
    Runs c (throw e >>= f) x o y ↔ o = .error e ∧ y = x :=
  runs_throw_iff

/-- Work after other work fails if the one fails or the other. -/
theorem runs_bind_error_iff {w : Work ε S Q R α} {f : α → Work ε S Q R β} {x y : S × σ} {e : ε} :
    Runs c (w >>= f) x (.error e) y ↔
      (∃ a z, Runs c w x (.ok a) z ∧ Runs c (f a) z (.error e) y) ∨ Runs c w x (.error e) y := by
  simp [runs_bind_iff]

@[simp] theorem runs_get_iff {x y : S × σ} {o : Except ε S} :
    Runs c (get : Work ε S Q R S) x o y ↔ o = .ok x.1 ∧ y = x := by
  obtain ⟨st, s⟩ := x
  obtain ⟨st', s'⟩ := y
  show Dialogue.Runs c (pure (Except.ok st, st)) s (o, st') s' ↔ _
  rw [Dialogue.runs_pure_iff, Prod.mk.injEq, Prod.mk.injEq, and_assoc]

/-- Work that looks at its state goes on with that. -/
theorem runs_get_bind_iff {f : S → Work ε S Q R β} {x y : S × σ} {o : Except ε β} :
    Runs c (get >>= f) x o y ↔ Runs c (f x.1) x o y := by
  rw [runs_bind_iff]
  constructor
  · rintro (⟨st, z, hget, hrest⟩ | ⟨_, hget, -⟩)
    · obtain ⟨heq, rfl⟩ := runs_get_iff.mp hget
      obtain rfl := Except.ok.inj heq
      exact hrest
    · cases (runs_get_iff.mp hget).1
  · exact fun h => .inl ⟨x.1, x, runs_get_iff.mpr ⟨rfl, rfl⟩, h⟩

@[simp] theorem runs_set_iff {st : S} {x y : S × σ} {o : Except ε PUnit} :
    Runs c (set st : Work ε S Q R PUnit) x o y ↔ o = .ok ⟨⟩ ∧ y = (st, x.2) := by
  obtain ⟨st₀, s⟩ := x
  obtain ⟨st', s'⟩ := y
  show Dialogue.Runs c (pure (Except.ok PUnit.unit, st)) s (o, st') s' ↔ _
  rw [Dialogue.runs_pure_iff, Prod.mk.injEq, Prod.mk.injEq, and_assoc]

@[simp] theorem runs_modify_iff {f : S → S} {x y : S × σ} {o : Except ε PUnit} :
    Runs c (modify f : Work ε S Q R PUnit) x o y ↔ o = .ok ⟨⟩ ∧ y = (f x.1, x.2) := by
  obtain ⟨st, s⟩ := x
  obtain ⟨st', s'⟩ := y
  show Dialogue.Runs c (pure (Except.ok PUnit.unit, f st)) s (o, st') s' ↔ _
  rw [Dialogue.runs_pure_iff, Prod.mk.injEq, Prod.mk.injEq, and_assoc]

/-- Work that cannot fail runs as it does by itself. -/
@[simp] theorem runs_lift_iff {d : StateT S (Dialogue Q R) α} {x y : S × σ} {o : Except ε α} :
    Runs c (ExceptT.lift d : Work ε S Q R α) x o y ↔
      ∃ a, Dialogue.Runs c (d.run x.1) x.2 (a, y.1) y.2 ∧ o = .ok a := by
  simp only [Runs, ExceptT.run_lift, StateT.run_map, Dialogue.runs_map_iff, Prod.exists]
  constructor
  · rintro ⟨a, st, hd, heq⟩
    obtain ⟨rfl, rfl⟩ := Prod.mk.inj heq
    exact ⟨a, hd, rfl⟩
  · rintro ⟨a, hd, rfl⟩
    exact ⟨a, y.1, hd, rfl⟩

/-- Asking does not touch the state of the work. -/
@[simp] theorem runs_stateT_lift_iff {d : Dialogue Q R α} {st st' : S} {s s' : σ} {a : α} :
    Dialogue.Runs c ((StateT.lift d : StateT S (Dialogue Q R) α).run st) s (a, st') s' ↔
      Dialogue.Runs c d s a s' ∧ st' = st := by
  simp only [StateT.run_lift, Dialogue.runs_bind_iff, Dialogue.runs_pure_iff, Prod.mk.injEq]
  constructor
  · rintro ⟨a', t, hd, ⟨rfl, rfl⟩, rfl⟩
    exact ⟨hd, rfl⟩
  · rintro ⟨hd, rfl⟩
    exact ⟨a, s', hd, ⟨rfl, rfl⟩, rfl⟩

/-- Surroundings whose replies a conduct allows run all work as the conduct does. -/
theorem runs_answer {surroundings : (q : Q) → σ → R q × σ}
    (hallowed : ∀ q s, c s q (surroundings q s).1 (surroundings q s).2)
    (w : Work ε S Q R α) (st : S) (s : σ) :
    Runs c w (st, s) ((w.run.run st).answer surroundings s).1.1
      (((w.run.run st).answer surroundings s).1.2, ((w.run.run st).answer surroundings s).2) :=
  Dialogue.runs_answer hallowed (w.run.run st) s

/-! ### What work keeps -/

/-- The work keeps `I`, which may be about its state and about that of the surroundings, and it
fails in no way outside `E`. -/
def Within (c : Conduct R σ) (I : S × σ → Prop) (E : ε → Prop) (w : Work ε S Q R α) : Prop :=
  ∀ x o y, I x → Runs c w x o y → I y ∧ ∀ e, o = .error e → E e

variable {I : S × σ → Prop} {E : ε → Prop}

theorem within_pure (a : α) : Within c I E (pure a : Work ε S Q R α) := by
  intro x o y hx h
  obtain ⟨rfl, rfl⟩ := runs_pure_iff.mp h
  exact ⟨hx, fun e he => by cases he⟩

theorem within_throw {e : ε} (he : E e) : Within c I E (throw e : Work ε S Q R α) := by
  intro x o y hx h
  obtain ⟨rfl, rfl⟩ := runs_throw_iff.mp h
  refine ⟨hx, fun e' heq => ?_⟩
  obtain rfl := Except.error.inj heq
  exact he

theorem Within.bind {w : Work ε S Q R α} {f : α → Work ε S Q R β} (hw : Within c I E w)
    (hf : ∀ a, Within c I E (f a)) : Within c I E (w >>= f) := by
  intro x o y hx h
  rcases runs_bind_iff.mp h with ⟨a, z, hrun, hrest⟩ | ⟨e, hrun, rfl⟩
  · exact hf a z o y (hw x _ z hx hrun).1 hrest
  · obtain ⟨hy, hE⟩ := hw x _ y hx hrun
    refine ⟨hy, fun e' heq => ?_⟩
    obtain rfl := Except.error.inj heq
    exact hE e rfl

theorem within_modify {f : S → S} (hf : ∀ st s, I (st, s) → I (f st, s)) :
    Within c I E (modify f : Work ε S Q R PUnit) := by
  intro x o y hx h
  obtain ⟨rfl, rfl⟩ := runs_modify_iff.mp h
  exact ⟨hf x.1 x.2 hx, fun e he => by cases he⟩

/-! ### What work brings -/

/-- Where the work succeeds, it keeps `I`, and what it brings satisfies `P`. -/
def Yields (c : Conduct R σ) (I : S × σ → Prop) (P : α → Prop) (w : Work ε S Q R α) : Prop :=
  ∀ x a y, I x → Runs c w x (.ok a) y → I y ∧ P a

variable {P : α → Prop} {P' : β → Prop}

theorem yields_pure {a : α} (ha : P a) : Yields c I P (pure a : Work ε S Q R α) := by
  intro x a' y hx h
  obtain ⟨heq, rfl⟩ := runs_pure_iff.mp h
  obtain rfl := Except.ok.inj heq
  exact ⟨hx, ha⟩

theorem yields_throw (e : ε) : Yields c I P (throw e : Work ε S Q R α) := by
  intro x a y _ h
  cases (runs_throw_iff.mp h).1

theorem Yields.bind {w : Work ε S Q R α} {f : α → Work ε S Q R β} (hw : Yields c I P w)
    (hf : ∀ a, P a → Yields c I P' (f a)) : Yields c I P' (w >>= f) := by
  intro x b y hx h
  obtain ⟨a, z, hrun, hrest⟩ := runs_bind_ok_iff.mp h
  obtain ⟨hz, ha⟩ := hw x a z hx hrun
  exact hf a ha z b y hz hrest

theorem yields_get : Yields c I (fun _ => True) (get : Work ε S Q R S) := by
  intro x a y hx h
  obtain ⟨-, rfl⟩ := runs_get_iff.mp h
  exact ⟨hx, trivial⟩

/-- Work that cannot fail goes on as other work does. -/
theorem lift_bind (d : StateT S (Dialogue Q R) α) (f : α → StateT S (Dialogue Q R) β) :
    (ExceptT.lift (d >>= f) : Work ε S Q R β) =
      ExceptT.lift d >>= fun a => ExceptT.lift (f a) := by
  apply ExceptT.ext
  rw [ExceptT.run_bind, ExceptT.run_lift, ExceptT.run_lift, map_bind, bind_map_left]
  rfl

theorem Yields.lift_bind {d : StateT S (Dialogue Q R) α} {f : α → StateT S (Dialogue Q R) β}
    (hd : Yields c I P (ExceptT.lift d : Work ε S Q R α))
    (hf : ∀ a, P a → Yields c I P' (ExceptT.lift (f a) : Work ε S Q R β)) :
    Yields c I P' (ExceptT.lift (d >>= f) : Work ε S Q R β) := by
  rw [Work.lift_bind]
  exact hd.bind hf

theorem yields_lift_pure {a : α} (ha : P a) :
    Yields c I P (ExceptT.lift (pure a) : Work ε S Q R α) :=
  yields_pure ha

/-! ### Work beside other work -/

/-- What the first work comes to from a state of its own, the second comes to from every state that
is related to that, in the same surroundings, and the states afterwards are related again. -/
def Matches (c : Conduct R σ) (rel : S → S → Prop) (w w' : Work ε S Q R α) : Prop :=
  ∀ x x' o y, rel x.1 x'.1 → x'.2 = x.2 → Runs c w x o y →
    ∃ y', Runs c w' x' o y' ∧ rel y.1 y'.1 ∧ y'.2 = y.2

variable {rel : S → S → Prop} {w w' : Work ε S Q R α} {f f' : α → Work ε S Q R β}

theorem matches_pure (a : α) : Matches c rel (pure a : Work ε S Q R α) (pure a) := by
  intro x x' o y hrel hsame h
  obtain ⟨rfl, rfl⟩ := runs_pure_iff.mp h
  exact ⟨x', runs_pure_iff.mpr ⟨rfl, rfl⟩, hrel, hsame⟩

theorem matches_throw (e : ε) : Matches c rel (throw e : Work ε S Q R α) (throw e) := by
  intro x x' o y hrel hsame h
  obtain ⟨rfl, rfl⟩ := runs_throw_iff.mp h
  exact ⟨x', runs_throw_iff.mpr ⟨rfl, rfl⟩, hrel, hsame⟩

theorem Matches.bind (hw : Matches c rel w w') (hf : ∀ a, Matches c rel (f a) (f' a)) :
    Matches c rel (w >>= f) (w' >>= f') := by
  intro x x' o y hrel hsame h
  rcases runs_bind_iff.mp h with ⟨a, z, hrun, hrest⟩ | ⟨e, hrun, rfl⟩
  · obtain ⟨z', hrun', hz, hsurroundings⟩ := hw x x' _ z hrel hsame hrun
    obtain ⟨y', hrest', hy⟩ := hf a z z' o y hz hsurroundings hrest
    exact ⟨y', runs_bind_iff.mpr (.inl ⟨a, z', hrun', hrest'⟩), hy⟩
  · obtain ⟨y', hrun', hy⟩ := hw x x' _ y hrel hsame hrun
    exact ⟨y', runs_bind_iff.mpr (.inr ⟨e, hrun', rfl⟩), hy⟩

theorem matches_set {st st' : S} (hrel : rel st st') :
    Matches c rel (set st : Work ε S Q R PUnit) (set st') := by
  intro x x' o y _ hsame h
  obtain ⟨rfl, rfl⟩ := runs_set_iff.mp h
  exact ⟨(st', x'.2), runs_set_iff.mpr ⟨rfl, rfl⟩, hrel, hsame⟩

/-- Work that looks at its state goes on in related ways from related states. -/
theorem Matches.get_bind {g g' : S → Work ε S Q R α}
    (hg : ∀ st st', rel st st' → Matches c rel (g st) (g' st')) :
    Matches c rel (get >>= g) (get >>= g') := by
  intro x x' o y hrel hsame h
  rcases runs_bind_iff.mp h with ⟨st, z, hget, hrest⟩ | ⟨e, hget, -⟩
  · obtain ⟨heq, rfl⟩ := runs_get_iff.mp hget
    obtain rfl := Except.ok.inj heq
    obtain ⟨y', hrest', hy⟩ := hg z.1 x'.1 hrel z x' o y hrel hsame hrest
    exact ⟨y', runs_bind_iff.mpr (.inl ⟨x'.1, x', runs_get_iff.mpr ⟨rfl, rfl⟩, hrest'⟩), hy⟩
  · cases (runs_get_iff.mp hget).1

/-- To ask is to ask, whatever the state of the work is. -/
theorem matches_lift_lift (d : Dialogue Q R α) :
    Matches c rel (ExceptT.lift (StateT.lift d) : Work ε S Q R α)
      (ExceptT.lift (StateT.lift d)) := by
  intro x x' o y hrel hsame h
  obtain ⟨a, hrun, rfl⟩ := runs_lift_iff.mp h
  obtain ⟨hrun, hst⟩ := runs_stateT_lift_iff.mp hrun
  refine ⟨(x'.1, y.2), runs_lift_iff.mpr ⟨a, runs_stateT_lift_iff.mpr ⟨?_, rfl⟩, rfl⟩, ?_, rfl⟩
  · rwa [hsame]
  · rwa [hst]

theorem Matches.lift_bind {d d' : StateT S (Dialogue Q R) α}
    {f f' : α → StateT S (Dialogue Q R) β}
    (hd : Matches c rel (ExceptT.lift d : Work ε S Q R α) (ExceptT.lift d'))
    (hf : ∀ a, Matches c rel (ExceptT.lift (f a) : Work ε S Q R β) (ExceptT.lift (f' a))) :
    Matches c rel (ExceptT.lift (d >>= f) : Work ε S Q R β) (ExceptT.lift (d' >>= f')) := by
  rw [Work.lift_bind, Work.lift_bind]
  exact hd.bind hf

theorem Matches.lift_get_bind {g g' : S → StateT S (Dialogue Q R) α}
    (hg : ∀ st st', rel st st' →
      Matches c rel (ExceptT.lift (g st) : Work ε S Q R α) (ExceptT.lift (g' st'))) :
    Matches c rel (ExceptT.lift (get >>= g) : Work ε S Q R α) (ExceptT.lift (get >>= g')) := by
  rw [Work.lift_bind, Work.lift_bind]
  exact Matches.get_bind hg

/-! ### What work asks -/

/-- The work asks no question outside `p`. -/
def Only (p : Q → Prop) (w : Work ε S Q R α) : Prop :=
  ∀ st, (w.run.run st).Only p

variable {p : Q → Prop}

theorem only_pure (a : α) : Only p (pure a : Work ε S Q R α) :=
  fun st => Dialogue.only_pure (Except.ok a, st)

theorem only_throw (e : ε) : Only p (throw e : Work ε S Q R α) :=
  fun st => Dialogue.only_pure (Except.error e, st)

theorem Only.bind {w : Work ε S Q R α} {f : α → Work ε S Q R β} (hw : Only p w)
    (hf : ∀ a, Only p (f a)) : Only p (w >>= f) := by
  intro st
  rw [ExceptT.run_bind, StateT.run_bind]
  refine (hw st).bind fun out => ?_
  obtain ⟨outcome, st'⟩ := out
  cases outcome with
  | ok a => exact hf a st'
  | error e => exact Dialogue.only_pure _

theorem only_get : Only p (get : Work ε S Q R S) :=
  fun st => Dialogue.only_pure (Except.ok st, st)

theorem only_modify (f : S → S) : Only p (modify f : Work ε S Q R PUnit) :=
  fun st => Dialogue.only_pure (Except.ok PUnit.unit, f st)

theorem only_lift {d : StateT S (Dialogue Q R) α} (h : ∀ st, (d.run st).Only p) :
    Only p (ExceptT.lift d : Work ε S Q R α) := by
  intro st
  rw [ExceptT.run_lift, StateT.run_map, map_eq_pure_bind]
  exact (h st).bind fun out => Dialogue.only_pure _

theorem only_stateT_lift {d : Dialogue Q R α} (h : d.Only p) (st : S) :
    ((StateT.lift d : StateT S (Dialogue Q R) α).run st).Only p := by
  rw [StateT.run_lift]
  exact h.bind fun a => Dialogue.only_pure _

theorem only_stateT_bind {d : StateT S (Dialogue Q R) α} {f : α → StateT S (Dialogue Q R) β}
    (hd : ∀ st, (d.run st).Only p) (hf : ∀ a st, ((f a).run st).Only p) (st : S) :
    ((d >>= f).run st).Only p := by
  rw [StateT.run_bind]
  exact (hd st).bind fun out => hf out.1 out.2

end Work

end PluginSweep
