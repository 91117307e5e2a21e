/-
PluginSweep/Proofs/Tool/Launch.lean

Starting a tool, as a run.  The surroundings reply with what came of the
launch, and the caller gets to know a result exactly if the tool ended and
wrote text, and that the output is no text exactly if it was not.  Everything
that is asked of a site is one such launch.
-/
import PluginSweep.Proofs.Dialogue.Run
import PluginSweep.Tool.Site

namespace PluginSweep

open Dialogue

variable {σ : Type} {c : Conduct Request.Reply σ}

/-! ### Launches -/

theorem Launch.result_eq_undecodable_iff {l : Launch} {seconds : Int} {command : Command} :
    l.result seconds command = .error .undecodable ↔ l = .undecodable := by
  cases l <;> simp [Launch.result]

namespace Asking

@[simp] theorem runs_request_iff {q : Request} {r : q.Reply} {s t : σ} :
    Runs c (request q) s r t ↔ c s q r t :=
  runs_inquire_iff

@[simp] theorem runs_announce_iff {message : String} {u : Unit} {s t : σ} :
    Runs c (announce message) s u t ↔ c s (.announce message) u t :=
  runs_inquire_iff

@[simp] theorem runs_cancelled_iff {b : Bool} {s t : σ} :
    Runs c cancelled s b t ↔ c s .cancelled b t :=
  runs_inquire_iff

/-- The caller gets to know what came of the launch. -/
theorem runs_launch_iff {seconds : Int} {command : Command}
    {o : Except LaunchError ToolResult} {s t : σ} :
    Runs c (launch seconds command) s o t ↔
      ∃ l, c s (.launch command) l t ∧ o = l.result seconds command := by
  simp only [launch, runs_bind_iff, runs_pure_iff]
  constructor
  · rintro ⟨l, u, hreply, rfl, rfl⟩
    exact ⟨l, runs_request_iff.mp hreply, rfl⟩
  · rintro ⟨l, hreply, rfl⟩
    exact ⟨l, t, runs_request_iff.mpr hreply, rfl, rfl⟩

theorem only_launch {p : Request → Prop} {seconds : Int} {command : Command}
    (h : p (.launch command)) : (launch seconds command).Only p :=
  (only_inquire_iff.mpr h).bind fun _ => only_pure _

end Asking

/-! ### What is asked of a site -/

namespace Site

/-- The command that stands for an action. -/
def command (s : Site) (action : SiteAction) : Command :=
  .site s.binary s.root.toString action

theorem runs_act_iff {s : Site} {action : SiteAction} {o : Except LaunchError ToolResult}
    {x y : σ} :
    Runs c (s.act action) x o y ↔
      ∃ l, c x (.launch (s.command action)) l y ∧ o = l.result s.seconds (s.command action) :=
  Asking.runs_launch_iff

theorem runs_isActive_iff {s : Site} {slug : String} {o : Except LaunchError Bool} {x y : σ} :
    Runs c (s.isActive slug) x o y ↔
      ∃ l, c x (.launch (s.command (.isActive slug))) l y ∧
        o = (l.result s.seconds (s.command (.isActive slug))).map ToolResult.ok := by
  simp only [isActive, runs_bind_iff, runs_act_iff, runs_pure_iff]
  constructor
  · rintro ⟨_, _, ⟨l, hreply, rfl⟩, rfl, rfl⟩
    exact ⟨l, hreply, rfl⟩
  · rintro ⟨l, hreply, rfl⟩
    exact ⟨_, y, ⟨l, hreply, rfl⟩, rfl, rfl⟩

/-- The tool finds a site only by ending with the exit code zero. -/
theorem runs_isInstalled_true {s : Site} {x y : σ} (h : Runs c s.isInstalled x (.ok true) y) :
    ∃ out err, c x (.launch (s.command .isInstalled)) (.exited 0 out err) y := by
  obtain ⟨launched, t, hact, hrest⟩ := runs_bind_iff.mp h
  obtain ⟨l, hreply, rfl⟩ := runs_act_iff.mp hact
  cases l with
  | exited code out err =>
    obtain ⟨heq, rfl⟩ := runs_pure_iff.mp hrest
    have hcode : code = 0 := beq_iff_eq.mp (Except.ok.inj heq).symm
    subst hcode
    exact ⟨out, err, hreply⟩
  | undecodable => cases (runs_pure_iff.mp hrest).1
  | _ =>
    obtain ⟨u, t', -, hpure⟩ := runs_bind_iff.mp hrest
    cases (runs_pure_iff.mp hpure).1

/-- If the tool knows of no site, it has ended badly or it did not run; of that there is a
warning. -/
theorem runs_isInstalled_false {s : Site} {x y : σ} (h : Runs c s.isInstalled x (.ok false) y) :
    ∃ l t, c x (.launch (s.command .isInstalled)) l t ∧ (∀ out err, l ≠ .exited 0 out err) ∧
      (y = t ∨ ∃ w u, c t (.warn w) u y) := by
  obtain ⟨launched, t, hact, hrest⟩ := runs_bind_iff.mp h
  obtain ⟨l, hreply, rfl⟩ := runs_act_iff.mp hact
  have hends : (∀ out err, l ≠ .exited 0 out err) ∧ (y = t ∨ ∃ w u, c t (.warn w) u y) := by
    cases l with
    | exited code out err =>
      obtain ⟨heq, rfl⟩ := runs_pure_iff.mp hrest
      refine ⟨fun out' err' hexited => ?_, .inl rfl⟩
      cases hexited
      cases heq
    | undecodable => cases (runs_pure_iff.mp hrest).1
    | _ =>
      obtain ⟨u, t', hwarn, hpure⟩ := runs_bind_iff.mp hrest
      obtain ⟨-, rfl⟩ := runs_pure_iff.mp hpure
      refine ⟨fun out err hexited => ?_, .inr ⟨_, u, runs_inquire_iff.mp hwarn⟩⟩
      cases hexited
  exact ⟨l, t, hreply, hends⟩

end Site

end PluginSweep
