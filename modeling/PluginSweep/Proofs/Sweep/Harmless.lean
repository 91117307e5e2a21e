/-
PluginSweep/Proofs/Sweep/Harmless.lean

A command is harmless unless it switches a plugin on or off or sets a flag of a
site.  Up to the reports a sweep asks for harmless commands only, whatever the
replies (`only_survey`): it does nothing that is part of trying a plugin out.
-/
import PluginSweep.Proofs.Sweep.Questions

namespace PluginSweep

/-- The command switches a plugin on or off, or sets a flag of a site. -/
def Command.alters : Command → Bool
  | .site _ _ (.activate ..) => true
  | .site _ _ (.deactivate ..) => true
  | .site _ _ (.setFlag ..) => true
  | _ => false

/-- The request does not start a command that alters a site. -/
def Request.Harmless : Request → Prop
  | .launch command => command.alters = false
  | _ => True

theorem Command.tries_of_alters {command : Command} (h : command.alters = true) :
    command.tries = true := by
  unfold alters at h
  split at h <;> first | rfl | cases h

theorem Request.Early.harmless {q : Request} (h : q.Early) : q.Harmless := by
  cases q with
  | launch command =>
    have hnot : command.tries = false := h
    show command.alters = false
    rw [← Bool.not_eq_true]
    intro halters
    rw [Command.tries_of_alters halters] at hnot
    cases hnot
  | _ => trivial

/-- **Before the reports, a sweep asks for nothing that alters a site.** -/
theorem Sweep.only_survey (s : Settings) : Work.Only Request.Harmless (survey s) :=
  fun st => (only_survey_early s st).mono fun _ => Request.Early.harmless

end PluginSweep
