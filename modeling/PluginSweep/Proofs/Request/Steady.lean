/-
PluginSweep/Proofs/Request/Steady.lean

Steady surroundings: what comes of a tool depends on the command alone, and what
comes of reading a file on the file alone.  `steady world` is the conduct of
surroundings that reply out of a table of such replies, the *world*; they remain
free in when they tell the run to end and in how they treat the lock.

A run asks again and again whether it has been told to end, and is let go on or
not.  `ToldAfter k` says that it was told so after it had been let go on `k` times;
since a run that has been told to end is not let go on any more, it then was let go
on `k` times in all (`ToldAfter.countP_grants`).
-/
import PluginSweep.Proofs.Dialogue.Value
import PluginSweep.Proofs.Request.Garbled

namespace PluginSweep

open Dialogue (Conduct)

/-- A reply for every question, whenever it is asked. -/
abbrev World : Type :=
  (question : Request) → question.Reply

/-- The reply is a matter of a file or of a command, and not of when it is asked. -/
def Request.Outward : Request → Prop
  | .cancelled => False
  | .lock _ => False
  | _ => True

namespace History

variable {α : Type} {world : World} {past now : History} {a : α} {k : Nat}

/-! ### Steady surroundings -/

/-- Surroundings that reply as the world does, and that tell the run to end when they like. -/
def steady (world : World) : Conduct Request.Reply History := fun past question reply now =>
  heard past question reply now ∧ (question.Outward → reply = world question)

theorem heard_of_steady {question : Request} {reply : question.Reply}
    (h : steady world past question reply now) : heard past question reply now :=
  h.1

theorem runs_heard_of_steady {d : Asking α} (h : Dialogue.Runs (steady world) d past a now) :
    Dialogue.Runs heard d past a now :=
  h.mono heard_of_steady

/-- Where nothing is asked about the end of the run or about locks, all is as in the world. -/
theorem eq_value_of_runs_steady {d : Asking α} (h : Dialogue.Runs (steady world) d past a now)
    (hd : d.Only Request.Outward) : a = d.value world :=
  h.eq_value (fun hq hreply => hreply.2 hq) hd

/-! ### Surroundings that leave the run alone -/

/-- The reply of the world, where the run is never told to end. -/
def undisturbedReply (world : World) : (question : Request) → question.Reply
  | .cancelled => false
  | question => world question

/-- Surroundings that reply as the world does, and that never tell the run to end. -/
def undisturbed (world : World) (question : Request) (past : History) :
    question.Reply × History :=
  (undisturbedReply world question, past ++ [.asked question (undisturbedReply world question)])

/-- As long as the run has not been told to end, this is one way of being steady. -/
theorem steady_undisturbed (question : Request) (hpast : .told ∉ past) :
    steady world past question (undisturbed world question past).1
      (undisturbed world question past).2 := by
  refine ⟨⟨0, ?_, by simp [undisturbed]⟩, fun hq => ?_⟩
  · cases question with
    | cancelled => simpa [Honest, undisturbed, undisturbedReply] using hpast
    | _ => trivial
  · cases question with
    | cancelled => exact hq.elim
    | _ => rfl

theorem told_not_mem_undisturbed (question : Request) (hpast : .told ∉ past) :
    .told ∉ (undisturbed world question past).2 := by
  simpa [undisturbed] using hpast

/-- Every dialogue has a run in which it is left alone. -/
theorem exists_runs_undisturbed (d : Asking α) (hpast : .told ∉ past) :
    ∃ a now, Dialogue.Runs (steady world) d past a now ∧ .told ∉ now := by
  induction d generalizing past with
  | done a => exact ⟨a, past, .done a past, hpast⟩
  | ask question next ih =>
    have hreply : steady world past question _ _ := steady_undisturbed question hpast
    have htold : .told ∉ (undisturbed world question past).2 :=
      told_not_mem_undisturbed question hpast
    obtain ⟨a, now, hrest, hnow⟩ := ih _ htold
    exact ⟨a, now, .ask hreply hrest, hnow⟩

/-! ### Being let go on -/

/-- The event is that the run asks whether it has been told to end, and is let go on. -/
def grants : Event → Bool
  | .asked .cancelled false => true
  | _ => false

/-- What has happened before the run was first told to end. -/
def untilTold (now : History) : History :=
  now.takeWhile fun event => !tells event

/-- The run was told to end, first after it had been let go on `k` times.  A step begins with being
let go on, so that this is in the `k`-th step, or before the first if `k` is zero. -/
def ToldAfter (k : Nat) (now : History) : Prop :=
  .told ∈ now ∧ (untilTold now).countP grants = k

theorem exists_untilTold (h : .told ∈ now) : ∃ after, now = untilTold now ++ .told :: after := by
  induction now with
  | nil => cases h
  | cons event now ih =>
    cases event with
    | told => exact ⟨now, rfl⟩
    | asked question reply =>
      obtain ⟨after, hafter⟩ := ih ((List.mem_cons.mp h).resolve_left Event.noConfusion)
      refine ⟨after, ?_⟩
      show _ = .asked question reply :: (untilTold now ++ .told :: after)
      rw [← hafter]

/-- No run is let go on after it has been told to end. -/
def Obeyed (now : History) : Prop :=
  now.Pairwise fun earlier later => earlier = .told → grants later = false

theorem countP_grants_replicate_told (n : Nat) :
    (List.replicate n Event.told).countP grants = 0 := by
  rw [List.countP_eq_zero]
  intro event hevent
  rw [(List.mem_replicate.mp hevent).2]
  exact Bool.false_ne_true

theorem obeyed_nil : Obeyed [] :=
  List.Pairwise.nil

theorem obeyed_of_heard {question : Request} {reply : question.Reply}
    (h : heard past question reply now) (hpast : Obeyed past) : Obeyed now := by
  obtain ⟨n, hhonest, rfl⟩ := h
  have htold : Obeyed (past ++ List.replicate n .told) := by
    refine List.pairwise_append.mpr ⟨hpast, ?_, ?_⟩
    · exact List.pairwise_replicate.mpr (.inr fun _ => rfl)
    · intro _ _ later hlater _
      rw [(List.mem_replicate.mp hlater).2]
      rfl
  refine List.pairwise_append.mpr ⟨htold, List.pairwise_singleton _ _, ?_⟩
  rintro earlier hearlier later hlater rfl
  rw [List.mem_singleton.mp hlater]
  cases question with
  | cancelled =>
    have hreply : reply = true := hhonest.mpr hearlier
    rw [hreply]
    rfl
  | _ => rfl

theorem obeyed_of_runs {d : Asking α} (h : Dialogue.Runs heard d past a now)
    (hpast : Obeyed past) : Obeyed now :=
  h.keeps Obeyed obeyed_of_heard hpast

theorem countP_grants_of_heard {question : Request} {reply : question.Reply}
    (h : heard past question reply now) :
    now.countP grants = past.countP grants + if grants (.asked question reply) then 1 else 0 := by
  obtain ⟨n, -, rfl⟩ := h
  rw [List.countP_append, List.countP_append, countP_grants_replicate_told, Nat.add_zero,
    List.countP_singleton]

/-- Where nothing is asked about the end of the run, it is not let go on. -/
theorem countP_grants_of_runs_only {d : Asking α} (h : Dialogue.Runs heard d past a now)
    (hd : d.Only Request.Outward) : now.countP grants = past.countP grants := by
  refine h.keeps_of_only (I := fun now => now.countP grants = past.countP grants) ?_ hd rfl
  intro before question reply after hq hreply hbefore
  rw [countP_grants_of_heard hreply, hbefore]
  cases question with
  | cancelled => exact hq.elim
  | _ => rfl

/-- A run that has been told to end is not let go on any more. -/
theorem countP_grants_of_told (htold : .told ∈ past) (hpast : past <+: now) (hnow : Obeyed now) :
    now.countP grants = past.countP grants := by
  obtain ⟨after, rfl⟩ := hpast
  have hafter : after.countP grants = 0 := by
    rw [List.countP_eq_zero]
    intro later hlater
    rw [(List.pairwise_append.mp hnow).2.2 .told htold later hlater rfl]
    exact Bool.false_ne_true
  rw [List.countP_append, hafter, Nat.add_zero]

/-- A run that was told to end after being let go on `k` times is let go on `k` times in all. -/
theorem ToldAfter.countP_grants (h : ToldAfter k now) (hnow : Obeyed now) :
    now.countP grants = k := by
  obtain ⟨htold, hcount⟩ := h
  obtain ⟨after, hafter⟩ := exists_untilTold htold
  have hpast : untilTold now ++ [.told] <+: now := ⟨after, by simpa using hafter.symm⟩
  rw [countP_grants_of_told (by simp) hpast hnow, List.countP_append, hcount]
  rfl

/-! ### An obliging world -/

/-- Obliging surroundings are steady: they reply as they always do. -/
theorem steady_obliging (before : Request → Bool) (question : Request) (past : History) :
    steady (obligingReply []) past question (obliging before question past).1
      (obliging before question past).2 := by
  refine ⟨heard_obliging before question past, fun hq => ?_⟩
  cases question with
  | cancelled => exact hq.elim
  | lock step => exact hq.elim
  | _ => rfl

/-! ### Worlds of text -/

/-- In the world, no tool writes bytes that are no text: each launch brings a result or a
failure. -/
def Textual (world : World) : Prop :=
  ∀ command, world (.launch command) ≠ .undecodable

theorem not_garbled_of_runs_steady (hworld : Textual world) {d : Asking α}
    (h : Dialogue.Runs (steady world) d past a now) (hpast : ¬ Garbled past) : ¬ Garbled now := by
  refine h.keeps (fun past => ¬ Garbled past) ?_ hpast
  rintro before question reply after ⟨hheard, hreply⟩ hbefore ⟨command, hmem⟩
  rcases mem_or_eq_of_heard hheard hmem with hbefore' | hasked
  · exact hbefore ⟨command, hbefore'⟩
  · cases hasked
    exact hworld command (hreply trivial).symm

end History

end PluginSweep
