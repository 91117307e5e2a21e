/-
PluginSweep/Proofs/Request/Garbled.lean

Histories in which a tool has written bytes that are no text.  Such a history stays
one (`Garbled.mono`).  The only question that makes a history garbled is a launch, and
whoever asked for the launch gets to know (`garbled_of_runs_launch`); work that starts
no command leaves things as they are (`garbled_of_runs_only`).

A run that ends with a history that is not garbled is a run in surroundings where all
tools write text (`runs_heardText`).
-/
import PluginSweep.Proofs.Request.History
import PluginSweep.Proofs.Tool.Launch

namespace PluginSweep

open Dialogue (Conduct)

/-- The request does not start a command. -/
def Request.StartsNothing : Request → Prop
  | .launch _ => False
  | _ => True

namespace History

variable {α : Type} {past now : History} {a : α}

/-- Some tool has written bytes that are no text. -/
def Garbled (past : History) : Prop :=
  ∃ command, .asked (.launch command) .undecodable ∈ past

theorem not_garbled_nil : ¬ Garbled [] := by
  rintro ⟨command, hmem⟩
  cases hmem

theorem Garbled.mono (h : Garbled past) (hpast : past <+: now) : Garbled now := by
  obtain ⟨command, hmem⟩ := h
  exact ⟨command, hpast.subset hmem⟩

/-! ### What makes a history garbled -/

theorem garbled_of_heard_launch {command : Command} {l : Launch}
    (h : heard past (.launch command) l now) : Garbled now ↔ Garbled past ∨ l = .undecodable := by
  constructor
  · rintro ⟨command', hmem⟩
    rcases mem_or_eq_of_heard h hmem with hpast | hasked
    · exact .inl ⟨command', hpast⟩
    · cases hasked
      exact .inr rfl
  · rintro (hpast | rfl)
    · exact hpast.mono (prefix_of_heard h)
    · exact ⟨command, asked_mem_of_heard h⟩

/-- The caller of a tool gets to know whether what it wrote is text. -/
theorem garbled_of_runs_launch {seconds : Int} {command : Command}
    {o : Except LaunchError ToolResult}
    (h : Dialogue.Runs heard (Asking.launch seconds command) past o now) :
    Garbled now ↔ Garbled past ∨ o = .error .undecodable := by
  obtain ⟨l, hreply, rfl⟩ := Asking.runs_launch_iff.mp h
  rw [Launch.result_eq_undecodable_iff]
  exact garbled_of_heard_launch hreply

/-- Work that starts no command makes nothing garbled. -/
theorem garbled_of_runs_only {d : Asking α} (h : Dialogue.Runs heard d past a now)
    (hd : d.Only Request.StartsNothing) : Garbled now ↔ Garbled past := by
  constructor
  · rintro ⟨command, hmem⟩
    rcases mem_of_runs_only h hd hmem with hpast | hstarts
    · exact ⟨command, hpast⟩
    · exact hstarts.elim
  · intro hpast
    exact hpast.mono (prefix_of_runs h)

/-! ### Surroundings where all is text -/

/-- Surroundings in which all is as it is heard, and all that tools write is text. -/
def heardText : Conduct Request.Reply History := fun past question reply now =>
  heard past question reply now ∧ ¬ Garbled now

theorem runs_heardText {d : Asking α} (h : Dialogue.Runs heard d past a now)
    (hnow : ¬ Garbled now) : Dialogue.Runs heardText d past a now := by
  have hback : ∀ {past question reply now}, heard past question reply now →
      ¬ Garbled now → ¬ Garbled past :=
    fun hreply hnot hpast => hnot (hpast.mono (prefix_of_heard hreply))
  exact (h.throughout (c := heard) (P := fun now => ¬ Garbled now) hback hnow).1

end History

end PluginSweep
