/-
PluginSweep/Proofs/Together/Undisturbed.lean

Sweeps that run side by side do not disturb each other (`sweeps_undisturbed`).  One that finds
the lock of the site held leaves the site alone; the commands by which one of them tries
the plugin out have none of another one's between them; every note that one takes of the
plugin is what the plugin was before all of them; and so it is again when all have ended.

The last two hold while no sweep has said that the plugin could not be put back, and
where every command for trying it out brings a result or fails.
-/
import PluginSweep.Proofs.Sweep.Account
import PluginSweep.Proofs.Sweep.Gate
import PluginSweep.Proofs.Together.Order

namespace PluginSweep.Together

variable {dir : Path} {slug root : String} {files : FileSystem} {start c : Config} {i : Nat}
  {run : Running}

/-- What the summary of a sweep says of trying the plugin out is what was heard. -/
theorem accounts_of_done {summary : Summary} {st : SweepState}
    (hstart : start.Starts dir slug files) (h : Reachable slug start c)
    (hsweep : c.sweeps i = some run) (hdone : run.rest = .done (.ok summary, st)) :
    Sweep.Accounts run.settings summary (c.heard i) := by
  obtain ⟨tree, hreaches⟩ := h.reaches hstart hsweep
  rw [hdone] at hreaches
  have hruns : Work.Runs Dialogue.listening (Sweep.run run.settings) ({ tree }, []) (.ok summary)
      (st, c.heard i) := Dialogue.runs_iff_reaches.mpr hreaches
  exact Sweep.runs_run_accounts hruns

/-- **Sweeps side by side do not disturb each other.**  Whatever questions and replies lead to: a
sweep that finds the lock held starts no command for trying the plugin out, and no such command
falls between two of another sweep.  As long as no sweep has said that the plugin could not be put
back, every note of what the plugin was says what it was before the sweeps, and when they have all
ended it is that again. -/
theorem sweeps_undisturbed (hstands : files.StandsInDirectory)
    (hstart : start.Starts dir slug files) (h : Reachable slug start c) (hroot : c.GoesFor root) :
    (∀ i run, c.sweeps i = some run →
      (∃ x ∈ c.heard i, x.findsBusy) → ∀ x ∈ c.heard i, x.1.tries = false) ∧
    (∀ i j m n k, m < n → n < k → c.TriesAt i m → c.TriesAt j n → c.TriesAt i k → j = i) ∧
    (¬ c.Garbled → ¬ c.Raised →
      (∀ i run, c.sweeps i = some run →
        (∀ wasActive, Sweep.Noted run.settings (c.heard i) wasActive →
          wasActive = start.active) ∧
        ∀ summary st result, run.rest = .done (.ok summary, st) → summary.probe = some result →
          result.wasActive = start.active) ∧
      ((∀ i run, c.sweeps i = some run → ∃ outcome, run.rest = .done outcome) →
        c.active = start.active)) := by
  obtain ⟨phases, horderly⟩ := h.orderly hstands hstart hroot
  refine ⟨fun i run hsweep => (horderly.stage hsweep).quiet_of_findsBusy,
    fun i j m n k => horderly.apart, fun htext hraised => ?_⟩
  have hcalm : c.Calm := ⟨htext, hraised⟩
  refine ⟨fun i run hsweep => ⟨fun wasActive hnoted => ?_, ?_⟩, fun hended => ?_⟩
  · exact (horderly.stage hsweep).noted hnoted hcalm
  · intro summary st result hdone hprobe
    have htried := (accounts_of_done hstart h hsweep hdone).tried result hprobe
    refine (horderly.stage hsweep).tried htried hcalm fun x hx hgarbles => ?_
    exact htext ⟨(i, x), mem_heard_iff.mp hx, hgarbles⟩
  · -- When all have ended, none is inside any more.
    refine horderly.kept hcalm fun i hinside => ?_
    rcases hsweep : c.sweeps i with - | run
    · rw [horderly.idle hsweep] at hinside
      exact Sweep.not_isInside_none hinside
    · obtain ⟨outcome, hdone⟩ := hended i run hsweep
      have hstage := horderly.stage hsweep
      rw [hdone] at hstage
      exact hstage.not_isInside_of_done hinside

/-! ### Two sweeps that meet -/

section Meeting

variable {sweeps : Nat → Option Running} {process : Nat} {settings : Settings}

/-- What becomes of a question of a process where every command ends well. -/
def serve (slug : String) (process : Nat) :
    (q : Request) → LockTable × Bool → q.Reply × LockTable × Bool
  | .launch (.site _ _ (.isActive _)), (t, active) =>
    (.exited (if active then 0 else 1) none none, t, active)
  | .launch (.site _ _ (.activate name _)), (t, active) =>
    (.exited 0 none none, t, if name = slug then true else active)
  | .launch (.site _ _ (.deactivate name _)), (t, active) =>
    (.exited 0 none none, t, if name = slug then false else active)
  | .launch _, w => (.exited 0 none none, w)
  | .read _ stored, w => (stored, w)
  | .preview _ stored, w => (stored, w)
  | .begin _, w => (none, w)
  | .cancelled, w => (false, w)
  | .announce _, w => ((), w)
  | .print _, w => ((), w)
  | .warn _, w => ((), w)
  | .lock step, (t, active) => ((t.perform process step).1, (t.perform process step).2, active)

theorem locks_serve (q : Request) (w : LockTable × Bool) :
    Request.Locks process w.1 q (serve slug process q w).1 (serve slug process q w).2.1 := by
  cases q with
  | lock step => exact .performs w.1 step
  | launch command =>
    cases command with
    | site _ _ action => cases action <;> rfl
    | _ => rfl
  | _ => rfl

theorem responds_serve (q : Request) (w : LockTable × Bool) :
    Site.responds slug w.2 q (serve slug process q w).1 (serve slug process q w).2.2 := by
  obtain ⟨t, active⟩ := w
  have hswitched : ∀ (name : String) (on : Bool),
      name = slug ∨ (if name = slug then on else active) = active := by
    intro name on
    by_cases hname : name = slug
    · exact .inl hname
    · exact .inr (if_neg hname)
  cases q with
  | launch command =>
    cases command with
    | site _ _ action =>
      cases action with
      | isActive name =>
        refine ⟨rfl, fun _ code out err heq => ?_⟩
        obtain ⟨rfl, -, -⟩ := Launch.exited.inj heq
        cases active <;> simp
      | activate name quiet => exact hswitched name true
      | deactivate name quiet => exact hswitched name false
      | _ => rfl
    | _ => rfl
  | _ => rfl

/-- The locks and the plugin, and what has been said. -/
abbrev World : Type :=
  (LockTable × Bool) × List (Nat × Said)

/-- One sweep goes on for some steps while the others wait. -/
def goOn (slug : String) (i process : Nat) :
    (steps : Nat) → Asking (Except SweepError Summary × SweepState) → World →
      Asking (Except SweepError Summary × SweepState) × World
  | 0, d, w => (d, w)
  | _ + 1, .done a, w => (.done a, w)
  | steps + 1, .ask q next, w =>
    let reply := serve slug process q w.1
    goOn slug i process steps (next reply.1) (reply.2, w.2 ++ [(i, ⟨q, reply.1⟩)])

/-- The configuration in which a sweep has `rest` left. -/
def World.config (w : World) (sweeps : Nat → Option Running) (i process : Nat)
    (settings : Settings) (rest : Asking (Except SweepError Summary × SweepState)) : Config :=
  ⟨w.1.1, w.1.2, Function.update sweeps i (some ⟨process, settings, rest⟩), w.2⟩

theorem config_comm {w : World} {i j process' : Nat} {settings' : Settings}
    {d d' : Asking (Except SweepError Summary × SweepState)} (h : j ≠ i) :
    w.config (Function.update sweeps j (some ⟨process', settings', d'⟩)) i process settings d =
      w.config (Function.update sweeps i (some ⟨process, settings, d⟩)) j process' settings'
        d' := by
  rw [World.config, World.config, Function.update_comm h]

theorem reachable_goOn {d : Asking (Except SweepError Summary × SweepState)} {w : World}
    (h : Reachable slug start (w.config sweeps i process settings d)) (steps : Nat) :
    Reachable slug start ((goOn slug i process steps d w).2.config sweeps i process settings
      (goOn slug i process steps d w).1) := by
  induction steps generalizing d w with
  | zero => exact h
  | succ steps ih =>
    cases d with
    | done a => exact h
    | ask q next =>
      have hsweep : (w.config sweeps i process settings (.ask q next)).sweeps i =
          some ⟨process, settings, .ask q next⟩ := Function.update_self ..
      have hstep := h.step (.replies hsweep rfl (locks_serve q w.1) (responds_serve q w.1))
      simp only [Config.after, World.config, Function.update_idem] at hstep
      exact ih hstep

end Meeting

/-- The summary of a sweep that has ended with one. -/
def summary? : Asking (Except SweepError Summary × SweepState) → Option Summary
  | .done (.ok summary, _) => some summary
  | _ => none

theorem summary?_eq_some {d : Asking (Except SweepError Summary × SweepState)} {summary : Summary}
    (h : summary? d = some summary) : ∃ st, d = .done (.ok summary, st) := by
  match d with
  | .done (.ok _, st) =>
    obtain rfl := Option.some.inj h
    exact ⟨st, rfl⟩
  | .done (.error _, _) => cases h
  | .ask _ _ => cases h

/-- The settings of both sweeps: one check, and the plugin is tried out. -/
def pairSettings : Settings :=
  { Sweep.bareSettings with
    profile := { name := "probe", checks := [Check.highRiskName], activation := true } }

/-- What both sweeps begin with. -/
def pairWhole : Asking (Except SweepError Summary × SweepState) :=
  (Sweep.run pairSettings).run.run { tree := Sweep.bareTree }

/-- Two sweeps of one plugin, which is active, in two processes. -/
def pair : Config where
  table := { files := Sweep.bareTree }
  active := true
  sweeps := Function.update (Function.update (fun _ => none)
    1 (some ⟨8, pairSettings, pairWhole⟩)) 0 (some ⟨7, pairSettings, pairWhole⟩)
  trace := []

/-- The first has just switched the plugin off. -/
def pairFirst : Asking (Except SweepError Summary × SweepState) × World :=
  goOn "p" 0 7 15 pairWhole ((pair.table, pair.active), [])

/-- Then the second runs to its end. -/
def pairSecond : Asking (Except SweepError Summary × SweepState) × World :=
  goOn "p" 1 8 100 pairWhole pairFirst.2

/-- And then the first. -/
def pairThird : Asking (Except SweepError Summary × SweepState) × World :=
  goOn "p" 0 7 100 pairFirst.1 pairSecond.2

/-- Both have ended. -/
def pairEnd : Config :=
  pairThird.2.config (Function.update (fun _ => none) 1 (some ⟨8, pairSettings, pairSecond.1⟩)) 0 7
    pairSettings pairThird.1

theorem starts_pair : pair.Starts ⟨"/", []⟩ "p" Sweep.bareTree := by
  have hsweeps : ∀ {i run}, pair.sweeps i = some run →
      run.settings = pairSettings ∧ run.rest = pairWhole := by
    intro i run hsweep
    simp only [pair, Function.update_apply] at hsweep
    split at hsweep
    · cases hsweep
      exact ⟨rfl, rfl⟩
    · split at hsweep
      · cases hsweep
        exact ⟨rfl, rfl⟩
      · cases hsweep
  refine ⟨rfl, rfl, fun i run hsweep => ?_, fun i run hsweep => ?_, fun i run hsweep => ?_⟩
  · rw [(hsweeps hsweep).1]
    rfl
  · rw [(hsweeps hsweep).1]
    rfl
  · refine ⟨Sweep.bareTree, ?_⟩
    rw [(hsweeps hsweep).1]
    exact (hsweeps hsweep).2

theorem reachable_pairEnd : Reachable "p" pair pairEnd := by
  have hstart : Reachable "p" pair (World.config ((pair.table, pair.active), [])
      (Function.update (fun _ => none) 1 (some ⟨8, pairSettings, pairWhole⟩)) 0 7 pairSettings
      pairWhole) := .start
  have hfirst := reachable_goOn hstart 15
  rw [config_comm (by decide)] at hfirst
  have hsecond := reachable_goOn hfirst 100
  rw [config_comm (by decide)] at hsecond
  exact reachable_goOn hsecond 100

/-- The second finds the lock held while the plugin is switched off; it leaves the plugin alone, the
first notes that the plugin was active, and so it is in the end. -/
theorem sweeps_undisturbed_pair :
    (∃ x ∈ pairEnd.heard 1, x.findsBusy) ∧ (∀ x ∈ pairEnd.heard 1, x.1.tries = false) ∧
      (∃ summary st result, pairThird.1 = .done (.ok summary, st) ∧ summary.probe = some result ∧
        result.wasActive = true) ∧ pairEnd.active = true := by
  have hstands : Sweep.bareTree.StandsInDirectory := by
    intro loc hloc
    rw [List.prefix_nil.mp hloc]
    rfl
  -- What happens in the two runs is computed.
  have hcomputed : (∀ x ∈ pairThird.2.2, x.2.goesFor "/") ∧
      (∃ x ∈ pairThird.2.2, x.1 = 1 ∧ x.2.findsBusy) ∧ (∀ x ∈ pairThird.2.2, ¬ x.2.garbles) ∧
      (summary? pairSecond.1).isSome ∧
      ((summary? pairThird.1).bind Summary.probe).isSome := by
    decide +kernel
  obtain ⟨hroot, ⟨⟨j, x⟩, hx, rfl, hbusy⟩, htext, hsecond, hthird⟩ := hcomputed
  obtain ⟨result, hresult⟩ := Option.isSome_iff_exists.mp hthird
  obtain ⟨summary, hsummary, hprobe⟩ := Option.bind_eq_some_iff.mp hresult
  obtain ⟨st, hdone⟩ := summary?_eq_some hsummary
  obtain ⟨summary', hsummary'⟩ := Option.isSome_iff_exists.mp hsecond
  obtain ⟨st', hdone'⟩ := summary?_eq_some hsummary'
  have hbusy : ∃ x ∈ pairEnd.heard 1, x.findsBusy := ⟨x, mem_heard_iff.mpr hx, hbusy⟩
  have hzero : pairEnd.sweeps 0 = some ⟨7, pairSettings, pairThird.1⟩ := rfl
  have hone : pairEnd.sweeps 1 = some ⟨8, pairSettings, pairSecond.1⟩ := rfl
  have hended : ∀ i run, pairEnd.sweeps i = some run →
      ∃ summary st, run.rest = .done (.ok summary, st) := by
    intro i run hsweep
    simp only [pairEnd, World.config, Function.update_apply] at hsweep
    split at hsweep
    · cases hsweep
      exact ⟨summary, st, hdone⟩
    · split at hsweep
      · cases hsweep
        exact ⟨summary', st', hdone'⟩
      · cases hsweep
  have hraised : ¬ pairEnd.Raised := by
    rintro ⟨i, run, hsweep, hraised⟩
    obtain ⟨summary, st, hrest⟩ := hended i run hsweep
    exact (accounts_of_done starts_pair reachable_pairEnd hsweep hrest).settled hraised
  obtain ⟨hquiet, -, hcalm⟩ := sweeps_undisturbed hstands starts_pair reachable_pairEnd hroot
  obtain ⟨hnotes, hback⟩ := hcalm (fun ⟨x, hx, hgarbles⟩ => htext x hx hgarbles) hraised
  refine ⟨hbusy, hquiet 1 _ hone hbusy, ⟨summary, st, result, hdone, hprobe, ?_⟩, ?_⟩
  · exact (hnotes 0 _ hzero).2 summary st result hdone hprobe
  · refine hback fun i run hsweep => ?_
    obtain ⟨summary, st, hrest⟩ := hended i run hsweep
    exact ⟨_, hrest⟩

end PluginSweep.Together
