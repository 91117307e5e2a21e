/-
PluginSweep/Proofs/Dialogue/Partial.lean

Runs that are still under way.  `Reaches c d s rest t` says that the dialogue `d`,
started in the state `s`, may have come to the state `t` with the dialogue `rest`
left; a run that has ended is one with nothing left (`runs_iff_reaches`).

Surroundings that do nothing but listen keep all that was asked and replied
(`listening`).  What a dialogue has come to is determined by that: if one run has
ended within what another has heard, they are the same run (`Reaches.unique`).
-/
import PluginSweep.Proofs.Dialogue.Run

namespace PluginSweep.Dialogue

variable {Q : Type} {R : Q → Type} {α β σ τ : Type} {c : Conduct R σ} {c' : Conduct R τ}

/-! ### Partial runs -/

/-- A run of a dialogue that has come to a state, with a dialogue left. -/
inductive Reaches (c : Conduct R σ) : Dialogue Q R α → σ → Dialogue Q R α → σ → Prop
  | start (d : Dialogue Q R α) (s : σ) : Reaches c d s d s
  | ask {q : Q} {next : R q → Dialogue Q R α} {r : R q} {rest : Dialogue Q R α} {s t u : σ}
      (reply : c s q r t) (h : Reaches c (next r) t rest u) : Reaches c (ask q next) s rest u

variable {d rest : Dialogue Q R α} {s t u : σ} {a : α}

/-- A run that has ended has nothing left. -/
theorem runs_iff_reaches : Runs c d s a t ↔ Reaches c d s (done a) t := by
  constructor
  · intro h
    induction h with
    | done a s => exact .start _ s
    | ask reply _ ih => exact .ask reply ih
  · intro h
    generalize hrest : done a = rest at h
    induction h with
    | start d s =>
      subst hrest
      exact .done a s
    | ask reply _ ih => exact .ask reply (ih hrest)

/-- A run goes on with a reply to what it asks. -/
theorem Reaches.next {q : Q} {next : R q → Dialogue Q R α} {r : R q}
    (h : Reaches c d s (Dialogue.ask q next) t) (reply : c t q r u) :
    Reaches c d s (next r) u := by
  generalize hrest : Dialogue.ask q next = rest at h
  induction h with
  | start d s =>
    subst hrest
    exact .ask reply (.start _ _)
  | ask first _ ih => exact .ask first (ih reply hrest)

/-- A run of one dialogue after the other is in the first still, or has come through it. -/
theorem reaches_bind {f : α → Dialogue Q R β} {rest : Dialogue Q R β}
    (h : Reaches c (d >>= f) s rest u) :
    (∃ d', Reaches c d s d' u ∧ rest = d' >>= f) ∨
      ∃ a t, Runs c d s a t ∧ Reaches c (f a) t rest u := by
  induction d generalizing s with
  | done a => exact .inr ⟨a, s, .done a s, h⟩
  | ask q next ih =>
    cases h with
    | start => exact .inl ⟨_, .start _ _, rfl⟩
    | ask reply h =>
      rcases ih _ h with ⟨d', hd, rfl⟩ | ⟨a, t, hd, hrest⟩
      · exact .inl ⟨d', .ask reply hd, rfl⟩
      · exact .inr ⟨a, t, .ask reply hd, hrest⟩

/-- What is left of a dialogue asks no more than the dialogue. -/
theorem Reaches.only {p : Q → Prop} (h : Reaches c d s rest t) (hd : d.Only p) : rest.Only p := by
  induction h with
  | start => exact hd
  | ask _ _ ih => exact ih (hd.2 _)

/-! ### Surroundings side by side -/

/-- Two parts of the surroundings, each of which allows the reply. -/
def Conduct.both (c : Conduct R σ) (c' : Conduct R τ) : Conduct R (σ × τ) := fun s q r t =>
  c s.1 q r t.1 ∧ c' s.2 q r t.2

theorem Reaches.left {s t : σ × τ} (h : Reaches (c.both c') d s rest t) :
    Reaches c d s.1 rest t.1 := by
  induction h with
  | start d s => exact .start d s.1
  | ask reply _ ih => exact .ask reply.1 ih

theorem Runs.left {s t : σ × τ} (h : Runs (c.both c') d s a t) : Runs c d s.1 a t.1 :=
  runs_iff_reaches.mpr (runs_iff_reaches.mp h).left

/-! ### Listening -/

/-- A question and the reply to it. -/
abbrev Exchange (R : Q → Type) : Type :=
  (q : Q) × R q

/-- Surroundings that reply as they like, and keep what was said. -/
def listening : Conduct R (List (Exchange R)) := fun past q r now =>
  now = past ++ [⟨q, r⟩]

variable {past now heard : List (Exchange R)}

theorem prefix_of_listening (h : Reaches listening d past rest now) : past <+: now := by
  induction h with
  | start => exact List.prefix_refl _
  | ask reply _ ih =>
    subst reply
    exact (List.prefix_append _ _).trans ih

/-- All that is heard of a dialogue are questions of its own. -/
theorem mem_of_listening {p : Q → Prop} (h : Reaches listening d past rest now) (hd : d.Only p)
    {x : Exchange R} (hx : x ∈ now) : x ∈ past ∨ p x.1 := by
  induction h with
  | start => exact .inl hx
  | ask reply _ ih =>
    subst reply
    rcases ih (hd.2 _) hx with hx | hx
    · rcases List.mem_append.mp hx with hx | hx
      · exact .inl hx
      · rw [List.mem_singleton.mp hx]
        exact .inr hd.1
    · exact .inr hx

/-- Two beginnings of a list, each of which ends with its first entry outside `P`, are the same. -/
theorem eq_of_first {P : Exchange R → Prop} {l l' : List (Exchange R)} {x y : Exchange R}
    (hl : ∀ z ∈ l, P z) (hx : ¬ P x) (h : l ++ [x] <+: heard) (hl' : ∀ z ∈ l', P z) (hy : ¬ P y)
    (h' : l' ++ [y] <+: heard) : l = l' ∧ x = y := by
  -- The shorter one would lie within the entries of `P` of the other.
  have hnotShorter : ∀ {l l' : List (Exchange R)} {x y : Exchange R}, ¬ P x →
      l ++ [x] <+: heard → (∀ z ∈ l', P z) → l' ++ [y] <+: heard → l'.length ≤ l.length := by
    intro l l' x y hx h hl' h'
    refine Nat.le_of_not_lt fun hlt => ?_
    have hlength : (l ++ [x]).length ≤ l'.length := by
      rw [List.length_append, List.length_singleton]
      exact hlt
    have hwithin := List.prefix_of_prefix_length_le h ((List.prefix_append _ _).trans h') hlength
    exact hx (hl' x (hwithin.subset (List.mem_append_right _ List.mem_cons_self)))
  have hlength : (l ++ [x]).length = (l' ++ [y]).length := by
    have hle := hnotShorter hx h hl' h'
    have hge := hnotShorter hy h' hl h
    simp only [List.length_append, List.length_singleton]
    omega
  have hsame := (List.prefix_of_prefix_length_le h h' (Nat.le_of_eq hlength)).eq_of_length hlength
  obtain ⟨hinit, hlast⟩ := List.append_inj' hsame rfl
  exact ⟨hinit, List.singleton_inj.mp hlast⟩

theorem eq_of_concat_prefix {x y : Exchange R} (h : past ++ [x] <+: heard)
    (h' : past ++ [y] <+: heard) : x = y := by
  have hsame := List.prefix_of_prefix_length_le h h' (by simp)
  exact List.singleton_inj.mp (List.append_cancel_left (hsame.eq_of_length (by simp)))

/-- **A run is determined by what is heard of it**: one that has ended within what has been heard of
another is the other. -/
theorem Reaches.unique (h : Reaches listening d past rest heard)
    (h' : Runs listening d past a now) (hnow : now <+: heard) : rest = done a ∧ heard = now := by
  induction h' generalizing rest with
  | done a past =>
    cases h with
    | start => exact ⟨rfl, rfl⟩
  | @ask q next r past mid now a reply hrest ih =>
    have hmid := prefix_of_listening (runs_iff_reaches.mp hrest)
    subst reply
    cases h with
    | start =>
      have hlong := (hmid.trans hnow).length_le
      simp only [List.length_append, List.length_singleton] at hlong
      omega
    | ask reply h =>
      have hother := prefix_of_listening h
      subst reply
      cases eq_of_concat_prefix (hmid.trans hnow) hother
      exact ih h hnow

/-- Two runs that have ended within what has been heard are the same. -/
theorem Runs.unique {b : α} {end' : List (Exchange R)} (h : Runs listening d past a now)
    (hnow : now <+: heard) (h' : Runs listening d past b end') (hend : end' <+: heard) :
    a = b ∧ now = end' := by
  rcases List.prefix_or_prefix_of_prefix hnow hend with hle | hle
  · obtain ⟨heq, rfl⟩ := (runs_iff_reaches.mp h').unique h hle
    exact ⟨(done.inj heq).symm, rfl⟩
  · obtain ⟨heq, rfl⟩ := (runs_iff_reaches.mp h).unique h' hle
    exact ⟨done.inj heq, rfl⟩

/-- What a run has been through is what has been heard of it, whatever else was going on. -/
theorem Reaches.passes {f : α → Dialogue Q R β} {rest : Dialogue Q R β} {b b' : τ}
    {end' : List (Exchange R)}
    (h : Reaches (listening.both c') (d >>= f) (past, b) rest (now, b')) (hnow : now <+: heard)
    (hrest : now = heard ∨ ∃ o, rest = done o) (hd : Runs listening d past a end')
    (hend : end' <+: heard) : ∃ b'', Runs (listening.both c') d (past, b) a (end', b'') := by
  rcases reaches_bind h with ⟨d', hd', rfl⟩ | ⟨a', ⟨t, b''⟩, hd', hleft⟩
  · rcases hrest with rfl | ⟨o, hdone⟩
    · obtain ⟨rfl, rfl⟩ := hd'.left.unique hd hend
      exact ⟨b', runs_iff_reaches.mpr hd'⟩
    · cases d' with
      | ask q next => cases hdone
      | done x =>
        have hruns := runs_iff_reaches.mpr hd'
        obtain ⟨rfl, rfl⟩ := hruns.left.unique hnow hd hend
        exact ⟨b', hruns⟩
  · have ht : t <+: heard := (prefix_of_listening hleft.left).trans hnow
    obtain ⟨rfl, rfl⟩ := hd'.left.unique ht hd hend
    exact ⟨b'', hd'⟩

end PluginSweep.Dialogue
