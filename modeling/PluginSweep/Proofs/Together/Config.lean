/-
PluginSweep/Proofs/Together/Config.lean

Sweeps side by side.  Any number of sweeps, each in a process of its own or with others
in one, try the same plugin out in the same site.  Every question of a sweep is taken as
a whole, and the questions of different sweeps follow each other in any order (`Step`).
The locks reply as the system does, the site tells the truth about the plugin whenever
its tool brings a result, and all other replies are free.

A configuration keeps all that has been said, each time with the sweep that asked, so
that it is known what has been heard of each of them.  What one reply does to that is
said here once (`Config.after`).
-/
import PluginSweep.Proofs.Sweep.Stage
import Mathlib.Logic.Function.Basic

namespace PluginSweep.Together

/-! ### Sweeps and what they share -/

/-- A sweep under way. -/
structure Running where
  process : Nat
  settings : Settings
  /-- What is left of it. -/
  rest : Asking (Except SweepError Summary × SweepState)

/-- The sweeps, what they share, and all that has been said, each time with the sweep that
asked. -/
structure Config where
  table : LockTable
  /-- Whether the plugin is active. -/
  active : Bool
  sweeps : Nat → Option Running
  trace : List (Nat × Said)

namespace Config

/-- What has been heard of one sweep. -/
def heard (c : Config) (i : Nat) : List Said :=
  (c.trace.filter (·.1 == i)).map Prod.snd

/-- One of the sweeps has said that the plugin could not be put back. -/
def Raised (c : Config) : Prop :=
  ∃ i run, c.sweeps i = some run ∧ Sweep.Raised run.settings (c.heard i)

/-- A command for trying the plugin out has written what is no text. -/
def Garbled (c : Config) : Prop :=
  ∃ x ∈ c.trace, x.2.garbles

/-- Every command for trying the plugin out has brought a result or has failed, and no sweep has
said that the plugin could not be put back. -/
def Calm (c : Config) : Prop :=
  ¬ c.Garbled ∧ ¬ c.Raised

/-- Whichever site a sweep has gone for, it is the one of that name. -/
def GoesFor (c : Config) (root : String) : Prop :=
  ∀ x ∈ c.trace, x.2.goesFor root

/-- What is asked at that place in the trace is asked by the sweep, and starts a command for trying
the plugin out. -/
def TriesAt (c : Config) (i n : Nat) : Prop :=
  ∃ x : Said, c.trace[n]? = some (i, x) ∧ x.1.tries = true

/-- One of the sweeps has asked and got a reply, which leaves it with `rest`. -/
def after (c : Config) (i : Nat) (run : Running) (x : Said)
    (rest : Asking (Except SweepError Summary × SweepState)) (table : LockTable) (active : Bool) :
    Config :=
  ⟨table, active, Function.update c.sweeps i (some { run with rest }), c.trace ++ [(i, x)]⟩

/-- The process of a sweep. -/
def process (c : Config) (i : Nat) : Nat :=
  ((c.sweeps i).map Running.process).getD 0

end Config

/-- One question of any of the sweeps, and the reply to it. -/
inductive Step (slug : String) (c : Config) : Config → Prop
  | replies {i : Nat} {run : Running} {q : Request}
      {next : q.Reply → Asking (Except SweepError Summary × SweepState)} {r : q.Reply}
      {table : LockTable} {active : Bool} (hsweep : c.sweeps i = some run)
      (hasks : run.rest = .ask q next) (hlocks : Request.Locks run.process c.table q r table)
      (hsite : Site.responds slug c.active q r active) :
      Step slug c (c.after i run ⟨q, r⟩ (next r) table active)

/-- What any number of questions and replies can lead to. -/
inductive Reachable (slug : String) (start : Config) : Config → Prop
  | start : Reachable slug start start
  | step {c c' : Config} (h : Reachable slug start c) (hstep : Step slug c c') :
      Reachable slug start c'

/-- Nothing has been said yet, and every sweep is about to begin: all of them with the same plugin
and the same directory of lock files, each with a tree of files. -/
structure Config.Starts (c : Config) (dir : Path) (slug : String) (files : FileSystem) : Prop where
  table : c.table = { files }
  trace : c.trace = []
  directory : ∀ i run, c.sweeps i = some run → run.settings.lockDirectory = dir
  plugin : ∀ i run, c.sweeps i = some run → run.settings.target.name = slug
  begun : ∀ i run, c.sweeps i = some run →
    ∃ tree, run.rest = (Sweep.run run.settings).run.run { tree }

/-! ### One reply -/

section After

variable {c : Config} {i j n : Nat} {run run' : Running} {x y : Said}
  {rest : Asking (Except SweepError Summary × SweepState)} {table : LockTable} {active : Bool}

theorem mem_heard_iff : x ∈ c.heard i ↔ (i, x) ∈ c.trace := by
  simp only [Config.heard, List.mem_map, List.mem_filter, beq_iff_eq]
  constructor
  · rintro ⟨⟨j, y⟩, ⟨hmem, rfl⟩, rfl⟩
    exact hmem
  · intro hmem
    exact ⟨(i, x), ⟨hmem, rfl⟩, rfl⟩

theorem heard_after_self : (c.after i run x rest table active).heard i = c.heard i ++ [x] := by
  simp [Config.heard, Config.after]

theorem heard_after_other (h : j ≠ i) :
    (c.after i run x rest table active).heard j = c.heard j := by
  simp [Config.heard, Config.after, Ne.symm h]

theorem prefix_heard_after (c : Config) (i j : Nat) (run : Running) (x : Said)
    (rest : Asking (Except SweepError Summary × SweepState)) (table : LockTable) (active : Bool) :
    c.heard j <+: (c.after i run x rest table active).heard j := by
  by_cases h : j = i
  · subst h
    rw [heard_after_self]
    exact List.prefix_append _ _
  · exact ⟨[], by rw [List.append_nil, heard_after_other h]⟩

theorem sweeps_after_self :
    (c.after i run x rest table active).sweeps i = some { run with rest } :=
  Function.update_self ..

theorem sweeps_after_other (h : j ≠ i) :
    (c.after i run x rest table active).sweeps j = c.sweeps j :=
  Function.update_of_ne h ..

/-- A sweep keeps its process and its settings. -/
theorem sweeps_after (hsweep : c.sweeps i = some run)
    (h : (c.after i run x rest table active).sweeps j = some run') :
    ∃ run₀, c.sweeps j = some run₀ ∧ run'.process = run₀.process ∧
      run'.settings = run₀.settings := by
  by_cases hj : j = i
  · subst hj
    rw [sweeps_after_self] at h
    obtain rfl := Option.some.inj h
    exact ⟨run, hsweep, rfl, rfl⟩
  · rw [sweeps_after_other hj] at h
    exact ⟨run', h, rfl, rfl⟩

theorem process_after (hsweep : c.sweeps i = some run) :
    (c.after i run x rest table active).process j = c.process j := by
  by_cases hj : j = i
  · subst hj
    rw [Config.process, Config.process, sweeps_after_self, hsweep]
    rfl
  · rw [Config.process, Config.process, sweeps_after_other hj]

/-- What was not calm before is not calm after. -/
theorem calm_of_after (hsweep : c.sweeps i = some run)
    (h : (c.after i run x rest table active).Calm) : c.Calm := by
  constructor
  · rintro ⟨y, hy, hgarbles⟩
    exact h.1 ⟨y, List.mem_append_left _ hy, hgarbles⟩
  · rintro ⟨j, run₀, hrun₀, hraised⟩
    have hmono := hraised.mono (prefix_heard_after c i j run x rest table active)
    refine h.2 ?_
    by_cases hj : j = i
    · subst hj
      obtain rfl := Option.some.inj (hsweep.symm.trans hrun₀)
      exact ⟨j, _, sweeps_after_self, hmono⟩
    · exact ⟨j, run₀, (sweeps_after_other hj).trans hrun₀, hmono⟩

/-- Whichever site sweeps have gone for so far is among those they have gone for then. -/
theorem goesFor_of_after {root : String}
    (h : (c.after i run x rest table active).GoesFor root) : c.GoesFor root :=
  fun y hy => h y (List.mem_append_left _ hy)

/-- At every place but the last there is asked what was asked before. -/
theorem triesAt_after_iff : (c.after i run x rest table active).TriesAt j n ↔
    c.TriesAt j n ∨ n = c.trace.length ∧ j = i ∧ x.1.tries = true := by
  simp only [Config.TriesAt, Config.after]
  rcases Nat.lt_trichotomy n c.trace.length with hlt | rfl | hgt
  · rw [List.getElem?_append_left hlt]
    simp [Nat.ne_of_lt hlt]
  · rw [List.getElem?_concat_length]
    constructor
    · rintro ⟨y, hy, htries⟩
      cases hy
      exact .inr ⟨rfl, rfl, htries⟩
    · rintro (⟨y, hy, -⟩ | ⟨-, rfl, htries⟩)
      · exact absurd (List.getElem?_eq_some_iff.mp hy).1 (Nat.lt_irrefl _)
      · exact ⟨x, rfl, htries⟩
  · have hnone : (c.trace ++ [(i, x)])[n]? = none := by
      rw [List.getElem?_eq_none_iff, List.length_append, List.length_singleton]
      exact hgt
    rw [hnone, List.getElem?_eq_none_iff.mpr (Nat.le_of_lt hgt)]
    simp [Nat.ne_of_gt hgt]

/-- What was asked before something else was asked before the last reply. -/
theorem Config.TriesAt.before {k m : Nat}
    (h : (c.after i run x rest table active).TriesAt j m) (hmn : m < n)
    (hn : (c.after i run x rest table active).TriesAt k n) : c.TriesAt j m := by
  rcases triesAt_after_iff.mp h with h | ⟨rfl, -, -⟩
  · exact h
  · rcases triesAt_after_iff.mp hn with ⟨y, hy, -⟩ | ⟨rfl, -, -⟩
    · exact absurd (List.getElem?_eq_some_iff.mp hy).1 (Nat.lt_asymm hmn)
    · exact absurd hmn (Nat.lt_irrefl _)

/-- What is heard of a sweep is a run of it, as far as it has come. -/
theorem Reachable.reaches {dir : Path} {slug : String} {files : FileSystem} {start : Config}
    (h : Reachable slug start c) (hstart : start.Starts dir slug files)
    (hsweep : c.sweeps i = some run) :
    ∃ tree, Dialogue.Reaches Dialogue.listening ((Sweep.run run.settings).run.run { tree }) []
      run.rest (c.heard i) := by
  induction h generalizing i run with
  | start =>
    obtain ⟨tree, hrest⟩ := hstart.begun i run hsweep
    rw [hrest, Config.heard, hstart.trace]
    exact ⟨tree, .start _ _⟩
  | step _ hstep ih =>
    obtain @⟨k, asked, q, next, r, table, active, hasked, hasks, -, -⟩ := hstep
    by_cases hi : i = k
    · subst hi
      rw [sweeps_after_self] at hsweep
      obtain rfl := Option.some.inj hsweep
      obtain ⟨tree, hreaches⟩ := ih hasked
      rw [hasks] at hreaches
      rw [heard_after_self]
      exact ⟨tree, hreaches.next rfl⟩
    · rw [sweeps_after_other hi] at hsweep
      rw [heard_after_other hi]
      exact ih hsweep

end After

end PluginSweep.Together
