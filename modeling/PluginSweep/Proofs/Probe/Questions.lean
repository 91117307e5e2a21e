/-
PluginSweep/Proofs/Probe/Questions.lean

What a probe asks.  It looks into the state of the plugin, switches it on and off
and sets flags of the site; apart from that it only warns (`only_run`).  There is
one lemma for each step of a probe, in the order of the definitions.
-/
import PluginSweep.Probe
import PluginSweep.Proofs.Sweep.Questions

namespace PluginSweep.Probe

variable {α : Type} {p : Request → Prop} {s : Setup}

/-! ### Single steps -/

theorem only_asking {work : Asking α} (h : work.Only p) : Work.Only p (asking work) := by
  intro st
  show ((StateT.lift work >>= fun a => pure (Except.ok a)).run st).Only p
  exact Work.only_stateT_bind (Work.only_stateT_lift h) (fun _ _ => Dialogue.only_pure _) st

theorem only_running {work : Asking (Except LaunchError α)} (h : work.Only p) :
    Work.Only p (running work) := by
  refine (only_asking h).bind fun o => ?_
  match o with
  | .ok a => exact Work.only_pure a
  | .error (.failure f) => exact Work.only_throw _
  | .error .undecodable => exact Work.only_throw _

theorem only_ensuring {work : Probing α} {after : Probing Unit} (hwork : Work.Only p work)
    (hafter : Work.Only p after) : Work.Only p (ensuring work after) := by
  intro st
  refine Work.only_stateT_bind hwork (fun outcome => ?_) st
  refine Work.only_stateT_bind hafter fun o st => ?_
  match o with
  | .ok () => exact Dialogue.only_pure _
  | .error e => exact Dialogue.only_pure _

theorem only_warn (w : Warning) : (Asking.warn w).Only Request.Trying :=
  Dialogue.only_inquire_iff.mpr trivial

theorem only_setActive (site : Site) (slug : String) (active quiet : Bool) :
    (site.setActive slug active quiet).Only Request.Trying := by
  refine Asking.only_launch ?_
  cases active <;> rfl

theorem only_isActive (site : Site) (slug : String) :
    (site.isActive slug).Only Request.Trying := by
  have hlaunch : (site.act (.isActive slug)).Only Request.Trying := Asking.only_launch rfl
  exact hlaunch.bind fun _ => Dialogue.only_pure _

theorem only_toggle (active : Bool) (label : String) (quiet : Bool) :
    Work.Only Request.Trying (toggle s active label quiet) := by
  refine (only_running (only_setActive ..)).bind fun r => ?_
  refine (Work.only_modify _).bind fun _ => ?_
  split
  · dsimp only
    split
    · refine (Work.only_modify _).bind fun _ => ?_
      exact (only_asking (only_warn _)).bind fun _ => Work.only_pure _
    · exact (only_asking (only_warn _)).bind fun _ => Work.only_pure _
  · exact Work.only_pure _

/-! ### Debugging -/

theorem only_setFlag (label name value : String) :
    Work.Only Request.Trying (setFlag s label name value) := by
  have hact : (s.site.setFlag name value).Only Request.Trying := Asking.only_launch rfl
  refine (only_asking hact).bind fun o => ?_
  have hrest : ∀ outcome : Except StepFailure ToolResult, Work.Only Request.Trying (do
      let text := flagStatus outcome
      note (label ++ " " ++ name ++ "=" ++ value ++ ": " ++ text)
      if text != "ok" then
        asking (Asking.warn (.flagFailed label name value text))
      pure (outcome.toOption.any ToolResult.ok) : Probing Bool) := by
    intro outcome
    refine (Work.only_modify _).bind fun _ => ?_
    dsimp only
    split
    · exact (only_asking (only_warn _)).bind fun _ => Work.only_pure _
    · exact Work.only_pure _
  match o with
  | .ok r => exact (Work.only_pure _).bind hrest
  | .error (.failure f) => exact (Work.only_pure _).bind hrest
  | .error .undecodable => exact (Work.only_throw _).bind hrest

theorem only_setFlags (label : String) (flags : List (String × String)) :
    Work.Only Request.Trying (setFlags s label flags) := by
  induction flags with
  | nil => exact Work.only_pure _
  | cons flag rest ih =>
    exact (only_setFlag _ _ _).bind fun _ => ih.bind fun _ => Work.only_pure _

theorem only_debugActivation : Work.Only Request.Trying (debugActivation s) := by
  refine only_ensuring ?_ ?_
  · refine (only_setFlags _ _).bind fun ok => ?_
    split
    · refine (only_running (only_setActive ..)).bind fun r => ?_
      refine (Work.only_modify _).bind fun _ => (Work.only_modify _).bind fun _ => ?_
      have hoff : Work.Only Request.Trying
          (discard (running (s.site.setActive s.slug false true))) :=
        (only_running (only_setActive ..)).bind fun _ => Work.only_pure _
      dsimp only
      split
      · exact (Work.only_modify _).bind fun _ => hoff
      · exact hoff
    · exact Work.only_modify _
  · refine (only_setFlags _ _).bind fun ok => ?_
    split
    · exact Work.only_modify _
    · exact Work.only_pure _

/-! ### The probe -/

theorem only_trial : Work.Only Request.Trying (trial s) := by
  have htoggles : Work.Only Request.Trying (toggles s) := by
    refine (only_toggle _ _ _).bind fun first => ?_
    split
    · refine (only_toggle _ _ _).bind fun second => ?_
      split
      · exact only_toggle _ _ _
      · exact Work.only_pure _
    · exact Work.only_pure _
  refine htoggles.bind fun passed => (Work.only_modify _).bind fun _ => ?_
  split
  · exact only_debugActivation
  · exact Work.only_pure _

theorem only_putBack (wasActive : Bool) : (putBack s wasActive).Only Request.Trying := by
  simp only [putBack, ExceptT.run_bind, ExceptT.run_mk]
  refine (only_isActive ..).bind fun first => ?_
  match first with
  | .error e => exact Dialogue.only_pure _
  | .ok active =>
    dsimp only
    split
    · exact Dialogue.only_pure _
    · simp only [ExceptT.run_bind, ExceptT.run_mk]
      refine (only_setActive ..).bind fun switched => ?_
      match switched with
      | .error e => exact Dialogue.only_pure _
      | .ok r =>
        refine (only_isActive ..).bind fun last => ?_
        match last with
        | .error e => exact Dialogue.only_pure _
        | .ok active' => exact Dialogue.only_pure _

theorem only_restore : Work.Only Request.Trying (restore s) := by
  refine Work.only_get.bind fun r => ?_
  refine (only_asking (only_putBack _)).bind fun o => ?_
  match o with
  | .ok true => exact Work.only_modify _
  | .ok false => exact Work.only_throw _
  | .error (.failure f) => exact Work.only_throw _
  | .error .undecodable => exact Work.only_throw _

/-- **A probe starts commands for trying the plugin out, and warns**; it asks nothing else. -/
theorem only_run (s : Setup) : (run s).Only Request.Trying := by
  refine (only_isActive ..).bind fun first => ?_
  match first with
  | .error (.failure f) => exact Dialogue.only_pure _
  | .error .undecodable => exact Dialogue.only_pure _
  | .ok wasActive =>
    exact (only_ensuring only_trial only_restore _).bind fun _ => Dialogue.only_pure _

end PluginSweep.Probe
