/-
PluginSweep/Proofs/Probe/Restoration.lean

A probe leaves the plugin as it found it.

The site is taken as what it is for the probe: a plugin that is active or not.
Its tool tells the truth about that whenever it brings a result, and apart from
that it is free (`Site.truthful`): any launch may succeed, end with another exit
code, or not run at all; switching the plugin may or may not have an effect,
whatever comes of the launch; nothing else changes the plugin's state.

Main result: if the probe has a result, or is cut short because a tool did not
run, the plugin is as active as it was; in all other runs the probe ends by
saying that the plugin could not be put back (`run_restores`).

The trial in between is left entirely to the surroundings.  All that is used of
it is that it keeps the note on the state of the plugin (`within_trial`): the
putting back compares the plugin with that note, and looks at the plugin last.
-/
import PluginSweep.Proofs.Probe.Trial

namespace PluginSweep

open Dialogue (Conduct)

/-! ### Sites -/

namespace Site

/-- What may come of a command while the plugin `slug` is active or not, and whether it is
active then. -/
def allows (slug : String) (active : Bool) : Command → Launch → Bool → Prop
  | .site _ _ (.isActive name), l, active' =>
    active' = active ∧
      (name = slug → ∀ code out err, l = .exited code out err → (code = 0 ↔ active = true))
  | .site _ _ (.activate name _), _, active' => name = slug ∨ active' = active
  | .site _ _ (.deactivate name _), _, active' => name = slug ∨ active' = active
  | _, _, active' => active' = active

/-- The surroundings of a probe: all that they keep is whether the plugin is active. -/
def truthful (slug : String) : Conduct Request.Reply Bool := fun active question =>
  match question with
  | .launch command => fun l active' => l ≠ .undecodable ∧ allows slug active command l active'
  | _ => fun _ active' => active' = active

theorem textual_truthful (slug : String) : Probe.Textual (truthful slug) :=
  fun _ _ _ _ h => h.1

/-- The tool tells whether the plugin is active, or does not run; the plugin stays as it is. -/
theorem runs_isActive_truthful {site : Site} {slug : String} {active active' : Bool}
    {o : Except LaunchError Bool}
    (h : Dialogue.Runs (truthful slug) (site.isActive slug) active o active') :
    active' = active ∧ (o = .ok active ∨ ∃ f, o = .error (.failure f)) := by
  obtain ⟨l, ⟨htext, hactive, htruth⟩, rfl⟩ := runs_isActive_iff.mp h
  refine ⟨hactive, ?_⟩
  cases l with
  | exited code out err =>
    left
    have hcode := htruth rfl code out err rfl
    have hok : (code == 0) = active := by
      rw [Bool.eq_iff_iff, beq_iff_eq]
      exact hcode
    exact congrArg Except.ok hok
  | timedOut => exact .inr ⟨_, rfl⟩
  | missing => exact .inr ⟨_, rfl⟩
  | refused reason => exact .inr ⟨_, rfl⟩
  | undecodable => exact absurd rfl htext

/-- Switching the plugin brings a result, or the tool does not run. -/
theorem runs_setActive_truthful {site : Site} {slug : String} {on quiet active active' : Bool}
    {o : Except LaunchError ToolResult}
    (h : Dialogue.Runs (truthful slug) (site.setActive slug on quiet) active o active') :
    (∃ r, o = .ok r) ∨ ∃ f, o = .error (.failure f) := by
  have hne := Probe.act_ne_undecodable (textual_truthful slug) _ _ _ h
  match o with
  | .ok r => exact .inl ⟨r, rfl⟩
  | .error (.failure f) => exact .inr ⟨f, rfl⟩
  | .error .undecodable => exact absurd rfl hne

end Site

/-! ### Putting the plugin back -/

namespace Probe

open Site

variable {s : Setup} {active active' wasActive : Bool}

/-- If the plugin is said to be back, it is; and there is always an answer or a tool that did
not run. -/
theorem runs_putBack {o : Except LaunchError Bool}
    (h : Dialogue.Runs (truthful s.slug) (putBack s wasActive) active o active') :
    (∃ back, o = .ok back ∧ (back = true → active' = wasActive)) ∨
      ∃ f, o = .error (.failure f) := by
  cases putsBack_of_runs h with
  | unanswered hfirst ho =>
    obtain ⟨-, heq | ⟨f, heq⟩⟩ := runs_isActive_truthful hfirst
    · cases heq
    · exact .inr ⟨f, ho.trans (congrArg Except.error (Except.error.inj heq))⟩
  | asBefore hfirst ho =>
    obtain ⟨rfl, heq | ⟨f, heq⟩⟩ := runs_isActive_truthful hfirst
    · exact .inl ⟨true, ho, fun _ => (Except.ok.inj heq).symm⟩
    · cases heq
  | stuck _ _ hswitch ho =>
    obtain ⟨r, heq⟩ | ⟨f, heq⟩ := runs_setActive_truthful hswitch
    · cases heq
    · exact .inr ⟨f, ho.trans (congrArg Except.error (Except.error.inj heq))⟩
  | switched _ _ _ hlast ho =>
    obtain ⟨rfl, rfl | ⟨f, rfl⟩⟩ := runs_isActive_truthful hlast
    · exact .inl ⟨_, ho, fun hback => beq_iff_eq.mp hback⟩
    · exact .inr ⟨f, ho⟩

/-- The restoration succeeds only with the plugin as active as noted, and fails only by saying
that it is not back. -/
theorem runs_restore {x y : ProbeResult × Bool} {o : Except ProbeError Unit}
    (h : Work.Runs (truthful s.slug) (restore s) x o y) :
    (o = .ok () ∧ y.1.wasActive = x.1.wasActive ∧ y.2 = x.1.wasActive) ∨
      ∃ cause, o = .error (.notRestored s.slug x.1.wasActive cause) := by
  obtain ⟨o', hput, rfl, hnote, -⟩ := exists_back_of_restore h
  rcases runs_putBack hput with ⟨back, rfl, hback⟩ | ⟨f, rfl⟩
  · cases back with
    | true => exact .inl ⟨rfl, hnote, hback rfl⟩
    | false => exact .inr ⟨none, rfl⟩
  · exact .inr ⟨some f, rfl⟩

/-! ### The whole probe -/

/-- **A probe leaves the plugin as it found it**, unless it says that it could not. -/
theorem run_restores {s : Setup} {before after : Bool} {o : Except ProbeError ProbeResult}
    (h : Dialogue.Runs (truthful s.slug) (run s) before o after) :
    (∃ result, o = .ok result ∧ result.wasActive = before ∧ after = before) ∨
    (∃ f, o = .error (.failure f) ∧ after = before) ∨
    ∃ cause, o = .error (.notRestored s.slug before cause) := by
  obtain ⟨first, t, hfirst, h⟩ := Dialogue.runs_bind_iff.mp h
  obtain ⟨rfl, rfl | ⟨f, rfl⟩⟩ := runs_isActive_truthful hfirst
  · obtain ⟨⟨outcome, result⟩, u, hrun, hend⟩ := Dialogue.runs_bind_iff.mp h
    obtain ⟨rfl, rfl⟩ := Dialogue.runs_pure_iff.mp hend
    obtain ⟨o₁, z, htrial, hrest⟩ := runs_ensuring_iff (x := (_, _)) (y := (_, _)).mp hrun
    -- However the trial went, the note is as it was when the putting back began.
    obtain ⟨hnote, hfailed⟩ := within_trial (textual_truthful s.slug) s _ o₁ z rfl htrial
    rcases hrest with ⟨hback, rfl⟩ | ⟨e, hback, rfl⟩
    · rcases runs_restore hback with ⟨-, hresult, hafter⟩ | ⟨cause, heq⟩
      · cases outcome with
        | ok _ => exact .inl ⟨result, rfl, hresult.trans hnote, hafter.trans hnote⟩
        | error e =>
          obtain ⟨f, rfl⟩ := hfailed e rfl
          exact .inr (.inl ⟨f, rfl, hafter.trans hnote⟩)
      · cases heq
    · rcases runs_restore hback with ⟨heq, -⟩ | ⟨cause, heq⟩
      · cases heq
      · obtain rfl := Except.error.inj heq
        obtain rfl : z.1.wasActive = _ := hnote
        exact .inr (.inr ⟨cause, rfl⟩)
  · obtain ⟨rfl, rfl⟩ := Dialogue.runs_pure_iff.mp h
    exact .inr (.inl ⟨f, rfl, rfl⟩)

/-- The tool takes too long over the activation, which has happened all the same: the plugin is
turned off again before the probe is given up. -/
theorem run_restores_slow_activation :
    ∃ f after, Dialogue.Runs (truthful "gallery")
        (run ⟨{ root := ⟨"/", ["site"]⟩, seconds := 120 }, "gallery", true⟩)
        false (.error (.failure f)) after ∧ after = false := by
  have htold : ∀ (binary root : String) (active : Bool),
      allows "gallery" active (.site binary root (.isActive "gallery"))
        (.exited (if active then 0 else 1) none none) active := by
    intro binary root active
    refine ⟨rfl, fun _ code out err heq => ?_⟩
    obtain ⟨rfl, -, -⟩ := Launch.exited.inj heq
    cases active <;> simp
  -- The activation is the third command; it times out, and the plugin is active after it.
  have hrun : Dialogue.Runs (truthful "gallery")
      (run ⟨{ root := ⟨"/", ["site"]⟩, seconds := 120 }, "gallery", true⟩)
      false (.error (.failure (.timedOut "wp" 120))) false := by
    refine .ask (r := .exited 1 none none) (t := false) ⟨Launch.noConfusion, htold _ _ false⟩ ?_
    refine .ask (r := .exited 0 none none) (t := false) ⟨Launch.noConfusion, .inl rfl⟩ ?_
    refine .ask (r := .timedOut) (t := true) ⟨Launch.noConfusion, .inl rfl⟩ ?_
    refine .ask (r := .exited 0 none none) (t := true) ⟨Launch.noConfusion, htold _ _ true⟩ ?_
    refine .ask (r := .exited 0 none none) (t := false) ⟨Launch.noConfusion, .inl rfl⟩ ?_
    refine .ask (r := .exited 1 none none) (t := false) ⟨Launch.noConfusion, htold _ _ false⟩ ?_
    exact .done _ _
  refine ⟨_, _, hrun, ?_⟩
  rcases run_restores (s := ⟨_, _, _⟩) hrun with ⟨_, heq, -⟩ | ⟨_, -, hafter⟩ | ⟨_, heq⟩
  · cases heq
  · exact hafter
  · cases heq

end Probe

end PluginSweep
