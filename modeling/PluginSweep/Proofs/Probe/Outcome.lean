/-
PluginSweep/Proofs/Probe/Outcome.lean

When a probe comes to a result.  A tool that does not run cuts a probe short, unless
it was only to set a flag; and a plugin that cannot be put back leaves the probe
without a result, whatever was found out before.  There is no other way to lose it
(`exists_result_iff`), so that the commands which a probe has started, and what came
of them, tell whether it has a result (`Settled`).

Work is `Persistent` if it comes to its end exactly if it goes on after each of its
commands.  There is one lemma for each step of a probe and one for each way of joining
steps; the putting back is looked at by itself, since it may fail with all its commands
having run.
-/
import PluginSweep.Proofs.Probe.Verdict

namespace PluginSweep

/-- A probe goes on after the command: the tool has run, or it was only to set a flag. -/
def Started.goesOn (e : Started) : Bool :=
  e.command.setsFlag || e.ran

namespace Probe

open Started

variable {α β : Type} {s : Setup} {x y : ProbeResult × List Started}

/-! ### Work that is cut short by its commands only -/

/-- The work comes to its end exactly if it goes on after all that it starts. -/
def Persistent (w : Probing α) : Prop :=
  ∀ x o y, Work.Runs recorded w x o y →
    ∃ started, y.2 = x.2 ++ started ∧ o.toBool = started.all goesOn

theorem persistent_pure (a : α) : Persistent (pure a : Probing α) := by
  intro x o y h
  obtain ⟨rfl, rfl⟩ := Work.runs_pure_iff.mp h
  exact ⟨[], (List.append_nil _).symm, rfl⟩

theorem persistent_modify (f : ProbeResult → ProbeResult) :
    Persistent (modify f : Probing Unit) := by
  intro x o y h
  obtain ⟨rfl, rfl⟩ := Work.runs_modify_iff.mp h
  exact ⟨[], (List.append_nil _).symm, rfl⟩

theorem persistent_warn (w : Warning) : Persistent (asking (Asking.warn w)) := by
  intro x o y h
  obtain ⟨_, hwarn, rfl, -⟩ := runs_asking_iff.mp h
  exact ⟨[], by rw [Asking.runs_warn_recorded hwarn, List.append_nil], rfl⟩

theorem Persistent.bind {w : Probing α} {f : α → Probing β} (hw : Persistent w)
    (hf : ∀ a, Persistent (f a)) : Persistent (w >>= f) := by
  intro x o y h
  rcases Work.runs_bind_iff.mp h with ⟨a, z, hfirst, hrest⟩ | ⟨e, hfirst, rfl⟩
  · obtain ⟨started, hz, hall⟩ := hw _ _ _ hfirst
    obtain ⟨started', hy, hall'⟩ := hf a _ _ _ hrest
    refine ⟨started ++ started', by rw [hy, hz, List.append_assoc], ?_⟩
    rw [List.all_append, ← hall, hall']
    rfl
  · exact hw _ _ _ hfirst

/-- The work that has to follow is run in any case, and both must come to their end. -/
theorem Persistent.ensuring {work : Probing α} {after : Probing Unit} (hwork : Persistent work)
    (hafter : Persistent after) : Persistent (ensuring work after) := by
  intro x o y h
  obtain ⟨o₁, z, hrun, hrest⟩ := runs_ensuring_iff.mp h
  obtain ⟨started, hz, hall⟩ := hwork _ _ _ hrun
  rcases hrest with ⟨hlast, rfl⟩ | ⟨e, hlast, rfl⟩
  · obtain ⟨started', hy, hall'⟩ := hafter _ _ _ hlast
    refine ⟨started ++ started', by rw [hy, hz, List.append_assoc], ?_⟩
    rw [List.all_append, ← hall', ← hall]
    exact (Bool.and_true _).symm
  · obtain ⟨started', hy, hall'⟩ := hafter _ _ _ hlast
    refine ⟨started ++ started', by rw [hy, hz, List.append_assoc], ?_⟩
    rw [List.all_append, ← hall']
    exact (Bool.and_false _).symm

/-! ### Steps -/

/-- Where no flag is to be set, the tool must run. -/
theorem goesOn_eq_ran {e : Started} (h : e.command.setsFlag = false) : e.goesOn = e.ran := by
  rw [goesOn, h, Bool.false_or]

/-- A tool that must run cuts the work short where it does not. -/
theorem persistent_running {action : SiteAction}
    (hflag : (s.site.command action).setsFlag = false) :
    Persistent (running (s.site.act action)) := by
  intro x o y h
  rcases Work.runs_bind_iff.mp h with ⟨launched, z, hask, hrest⟩ | ⟨e, hask, -⟩
  · obtain ⟨_, hact, heq, -⟩ := runs_asking_iff.mp hask
    obtain rfl := Except.ok.inj heq
    obtain ⟨e, hcommand, hz, hresult⟩ := Site.runs_act_ran hact
    refine ⟨[e], ?_⟩
    rw [List.all_cons, List.all_nil, Bool.and_true, goesOn_eq_ran (hcommand ▸ hflag)]
    rcases hresult with ⟨hran, r, rfl, -⟩ | ⟨hnot, f, rfl⟩
    · obtain ⟨rfl, rfl⟩ := Work.runs_pure_iff.mp hrest
      exact ⟨hz, hran.symm⟩
    · obtain ⟨rfl, rfl⟩ := Work.runs_throw_iff.mp hrest
      exact ⟨hz, hnot.symm⟩
  · obtain ⟨_, -, heq, -⟩ := runs_asking_iff.mp hask
    cases heq

theorem persistent_setActive (on quiet : Bool) :
    Persistent (running (s.site.setActive s.slug on quiet)) :=
  persistent_running (setsFlag_toggle on quiet)

theorem persistent_toggle (on : Bool) (label : String) (quiet : Bool) :
    Persistent (toggle s on label quiet) := by
  refine (persistent_setActive on quiet).bind fun r => ?_
  refine (persistent_modify _).bind fun _ => ?_
  split
  · dsimp only
    split
    · refine (persistent_modify _).bind fun _ => ?_
      exact (persistent_warn _).bind fun _ => persistent_pure _
    · exact (persistent_warn _).bind fun _ => persistent_pure _
  · exact persistent_pure _

/-- Setting a flag is never cut short. -/
theorem persistent_setFlag (label name value : String) :
    Persistent (setFlag s label name value) := by
  intro x o y h
  obtain ⟨e, hcommand, hy, rfl, -⟩ := runs_setFlag h
  have hgoes : e.goesOn = true := by
    rw [goesOn, hcommand]
    rfl
  exact ⟨[e], hy, by rw [List.all_cons, hgoes]; rfl⟩

theorem persistent_setFlags (label : String) (flags : List (String × String)) :
    Persistent (setFlags s label flags) := by
  induction flags with
  | nil => exact persistent_pure _
  | cons flag rest ih =>
    exact (persistent_setFlag _ _ _).bind fun _ => ih.bind fun _ => persistent_pure _

theorem persistent_activateDebugging : Persistent (activateDebugging s) := by
  refine (persistent_setFlags _ _).bind fun ok => ?_
  split
  · refine (persistent_setActive _ _).bind fun r => ?_
    refine (persistent_modify _).bind fun _ => (persistent_modify _).bind fun _ => ?_
    have hoff : Persistent (discard (running (s.site.setActive s.slug false true))) :=
      (persistent_setActive _ _).bind fun _ => persistent_pure _
    dsimp only
    split
    · exact (persistent_modify _).bind fun _ => hoff
    · exact hoff
  · exact persistent_modify _

theorem persistent_resetFlags : Persistent (resetFlags s) := by
  refine (persistent_setFlags _ _).bind fun ok => ?_
  split
  · exact persistent_modify _
  · exact persistent_pure _

theorem persistent_toggles : Persistent (toggles s) := by
  refine (persistent_toggle _ _ _).bind fun _ => ?_
  split
  · refine (persistent_toggle _ _ _).bind fun _ => ?_
    split
    · exact persistent_toggle _ _ _
    · exact persistent_pure _
  · exact persistent_pure _

/-- **A trial comes to its end exactly if it goes on after all its commands.** -/
theorem persistent_trial : Persistent (trial s) := by
  refine persistent_toggles.bind fun passed => ?_
  refine (persistent_modify _).bind fun _ => ?_
  split
  · exact persistent_activateDebugging.ensuring persistent_resetFlags
  · exact persistent_pure _

/-! ### Putting the plugin back -/

/-- The plugin is said to be back exactly if the tool ran each time that it was started, and the
last answer was the state to which the plugin is put back. -/
theorem runs_putBack_true_iff {wasActive : Bool} {past now : List Started}
    {o : Except LaunchError Bool} (h : Dialogue.Runs recorded (putBack s wasActive) past o now) :
    ∃ before last, now = past ++ (before ++ [last]) ∧
      (o = .ok true ↔ (before ++ [last]).all goesOn = true ∧ last.endedWell = wasActive) := by
  have hlooks : (s.site.command (.isActive s.slug)).setsFlag = false := rfl
  cases putsBack_of_runs h with
  | unanswered hfirst ho =>
    obtain ⟨e₁, hcommand₁, rfl, hanswer⟩ := Site.runs_isActive_ran hfirst
    rw [← goesOn_eq_ran (hcommand₁ ▸ hlooks)] at hanswer
    rcases hanswer with ⟨-, heq⟩ | ⟨hnot, -⟩
    · cases heq
    · exact ⟨[], e₁, rfl, by simp [ho, hnot]⟩
  | asBefore hfirst ho =>
    obtain ⟨e₁, hcommand₁, rfl, hanswer⟩ := Site.runs_isActive_ran hfirst
    rw [← goesOn_eq_ran (hcommand₁ ▸ hlooks)] at hanswer
    rcases hanswer with ⟨hran, heq⟩ | ⟨-, f, heq⟩
    · exact ⟨[], e₁, rfl, by simp [ho, hran, Except.ok.inj heq]⟩
    · cases heq
  | stuck hfirst _ hswitch ho =>
    obtain ⟨e₁, -, rfl, -⟩ := Site.runs_isActive_ran hfirst
    obtain ⟨e₂, hcommand₂, rfl, hresult⟩ := Site.runs_act_ran hswitch
    rw [← goesOn_eq_ran (hcommand₂ ▸ setsFlag_toggle wasActive true)] at hresult
    rcases hresult with ⟨-, r, heq, -⟩ | ⟨hnot, -⟩
    · cases heq
    · exact ⟨[e₁], e₂, by simp, by simp [ho, hnot]⟩
  | switched hfirst _ hswitch hlast ho =>
    obtain ⟨e₁, hcommand₁, rfl, hanswer₁⟩ := Site.runs_isActive_ran hfirst
    obtain ⟨e₂, hcommand₂, rfl, hresult⟩ := Site.runs_act_ran hswitch
    obtain ⟨e₃, hcommand₃, rfl, hanswer₃⟩ := Site.runs_isActive_ran hlast
    rw [← goesOn_eq_ran (hcommand₁ ▸ hlooks)] at hanswer₁
    rw [← goesOn_eq_ran (hcommand₂ ▸ setsFlag_toggle wasActive true)] at hresult
    rw [← goesOn_eq_ran (hcommand₃ ▸ hlooks)] at hanswer₃
    refine ⟨[e₁, e₂], e₃, by simp, ?_⟩
    -- That the plugin was switched shows that the tool ran both times before.
    obtain ⟨hran₁, -⟩ := hanswer₁.resolve_right fun ⟨_, _, heq⟩ => by cases heq
    obtain ⟨hran₂, -⟩ := hresult.resolve_right fun ⟨_, _, heq⟩ => by cases heq
    rcases hanswer₃ with ⟨hran₃, rfl⟩ | ⟨hnot, f, rfl⟩
    · simp [ho, Except.map, hran₁, hran₂, hran₃]
    · simp [ho, Except.map, hnot]

/-- The putting back comes to its end exactly if the plugin is said to be back. -/
theorem runs_restore_toBool_iff {o : Except ProbeError Unit}
    (h : Work.Runs recorded (restore s) x o y) :
    ∃ before last, y.2 = x.2 ++ (before ++ [last]) ∧
      (o.toBool = true ↔
        (before ++ [last]).all goesOn = true ∧ last.endedWell = x.1.wasActive) := by
  obtain ⟨back, hput, rfl, -⟩ := exists_back_of_restore h
  obtain ⟨before, last, hnow, hback⟩ := runs_putBack_true_iff hput
  refine ⟨before, last, hnow, ?_⟩
  rw [← hback]
  rcases back with (f | -) | (- | -) <;> simp [backOutcome, Except.toBool]

/-! ### The whole probe -/

/-- What a probe has started leaves it a result: the tool ran each time that it was not to set a
flag, and it said in the end of the plugin what it had said first. -/
structure Settled (started : List Started) : Prop where
  ran : ∀ e ∈ started, e.command.setsFlag = false → e.ran = true
  asBefore : started.getLast?.map endedWell = started.head?.map endedWell

theorem settled_iff {started : List Started} :
    Settled started ↔ started.all goesOn = true ∧
      started.getLast?.map endedWell = started.head?.map endedWell := by
  have hran : (∀ e ∈ started, e.command.setsFlag = false → e.ran = true) ↔
      started.all goesOn = true := by
    rw [List.all_eq_true]
    refine forall₂_congr fun e _ => ?_
    rw [goesOn]
    cases e.command.setsFlag <;> simp
  rw [← hran]
  exact ⟨fun h => ⟨h.ran, h.asBefore⟩, fun h => ⟨h.1, h.2⟩⟩

instance (started : List Started) : Decidable (Settled started) :=
  decidable_of_iff _ settled_iff.symm

/-- **A probe has a result exactly if what it has started leaves it one.** -/
theorem exists_result_iff {o : Except ProbeError ProbeResult} {started : List Started}
    (h : Dialogue.Runs recorded (run s) [] o started) :
    (∃ result, o = .ok result) ↔ Settled started := by
  obtain ⟨_, u, hfirst, h⟩ := Dialogue.runs_bind_iff.mp h
  obtain ⟨first, hcommand, rfl, hanswer⟩ := Site.runs_isActive_ran hfirst
  have hlooks : (s.site.command (.isActive s.slug)).setsFlag = false := rfl
  rw [← goesOn_eq_ran (hcommand ▸ hlooks)] at hanswer
  rw [settled_iff]
  rcases hanswer with ⟨hran, rfl⟩ | ⟨hnot, f, rfl⟩
  · obtain ⟨⟨outcome, result⟩, v, hrun, hend⟩ := Dialogue.runs_bind_iff.mp h
    obtain ⟨rfl, rfl⟩ := Dialogue.runs_pure_iff.mp hend
    obtain ⟨o₁, z, htrial, hrest⟩ := runs_ensuring_iff (x := (_, _)) (y := (_, _)).mp hrun
    obtain ⟨tried, hz, hall⟩ := persistent_trial _ _ _ htrial
    -- The plugin is compared with what was noted at first.
    have hnote : z.1.wasActive = first.endedWell :=
      (within_trial textual_recorded s _ o₁ z rfl htrial).1
    obtain ⟨o₂, hback, houtcome⟩ : ∃ o₂, Work.Runs recorded (restore s) z o₂ (result, started) ∧
        outcome.toBool = (o₁.toBool && o₂.toBool) := by
      rcases hrest with ⟨hback, rfl⟩ | ⟨e, hback, rfl⟩
      · exact ⟨_, hback, (Bool.and_true _).symm⟩
      · exact ⟨_, hback, (Bool.and_false _).symm⟩
    obtain ⟨before, last, hstarted, hsettles⟩ := runs_restore_toBool_iff hback
    have hlist : started = first :: (tried ++ before) ++ [last] := by
      rw [show started = _ from hstarted, hz]
      simp
    have hends : started.getLast? = some last ∧ started.head? = some first := by
      rw [hlist]
      exact ⟨List.getLast?_concat, rfl⟩
    have hresult : (∃ final, outcome.map (fun () => result) = .ok final) ↔
        outcome.toBool = true := by
      cases outcome <;> simp [Except.map, Except.toBool]
    rw [hresult, houtcome, Bool.and_eq_true, hsettles, hall, hnote, hends.1, hends.2, hlist]
    simp [hran, and_assoc]
  · obtain ⟨rfl, rfl⟩ := Dialogue.runs_pure_iff.mp h
    simp [hnot]

end Probe

end PluginSweep
