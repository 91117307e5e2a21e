/-
PluginSweep/Proofs/Request/History.lean

Histories.  A history lists, in the order in which they happened, the questions
that were asked with the replies they got, and the moments at which the run was
told to end.

`heard` is the conduct of surroundings that are free in everything but one: the
run may be told to end at any moment, any number of times, and every question
may get any reply; only the question whether the run has been told to end is
answered by what has happened.  A result about all runs with this conduct is a
result about every outcome of every tool and of every read, and about every
moment at which the run may be told to end.

A history only grows (`prefix_of_runs`), and all that a piece of work adds are
the questions that it may ask (`mem_of_runs_only`).  What a piece of work comes to can be
told from the history alone (`eq_of_runs_of_prefix`).
-/
import PluginSweep.Proofs.Dialogue.Work
import PluginSweep.Request

namespace PluginSweep

open Dialogue (Conduct)

/-! ### Events -/

/-- Something that happens in a run. -/
inductive Event
  /-- The run is told to end. -/
  | told
  | asked (question : Request) (reply : question.Reply)

/-- What has happened, first things first. -/
abbrev History := List Event

namespace History

/-- The reply to the question whether the run has been told to end is true. -/
def Honest (past : History) : (question : Request) → question.Reply → Prop
  | .cancelled, reply => reply = true ↔ .told ∈ past
  | _, _ => True

/-- Surroundings that reply as they like, and that tell the run to end when they like. -/
def heard : Conduct Request.Reply History := fun past question reply now =>
  ∃ n, Honest (past ++ List.replicate n .told) question reply ∧
    now = past ++ List.replicate n .told ++ [.asked question reply]

/-! ### What becomes of a history -/

variable {ε S α : Type} {past now : History} {a : α}

theorem prefix_of_heard {question : Request} {reply : question.Reply}
    (h : heard past question reply now) : past <+: now := by
  obtain ⟨n, -, rfl⟩ := h
  rw [List.append_assoc]
  exact List.prefix_append _ _

theorem asked_mem_of_heard {question : Request} {reply : question.Reply}
    (h : heard past question reply now) : .asked question reply ∈ now := by
  obtain ⟨n, -, rfl⟩ := h
  exact List.mem_append_right _ (List.mem_singleton.mpr rfl)

/-- What has been asked when a question got its reply is that question, or had been asked before. -/
theorem mem_or_eq_of_heard {question question' : Request} {reply : question.Reply}
    {reply' : question'.Reply} (h : heard past question reply now)
    (hmem : .asked question' reply' ∈ now) :
    .asked question' reply' ∈ past ∨ Event.asked question' reply' = .asked question reply := by
  obtain ⟨n, -, rfl⟩ := h
  rw [List.append_assoc, List.mem_append, List.mem_append, List.mem_replicate,
    List.mem_singleton] at hmem
  rcases hmem with hpast | ⟨-, htold⟩ | hasked
  · exact .inl hpast
  · cases htold
  · exact .inr hasked

/-- The run has been told to end if and only if the reply says so. -/
theorem told_mem_of_heard_cancelled {reply : Bool}
    (h : heard past .cancelled reply now) : reply = true ↔ .told ∈ now := by
  obtain ⟨n, htrue, rfl⟩ := h
  simpa [Honest] using htrue

/-- Of the events that begin with `past`, one by which the run is told to end is in `past` or comes
right after it. -/
def ToldBy (past now : History) : Prop :=
  .told ∈ past ∨ past ++ [.told] <+: now

/-- The reply says that the run has been told to end if and only if it was so told before the
question. -/
theorem toldBy_iff_of_heard {later : History} {reply : Bool}
    (h : heard past .cancelled reply now) (hlater : now <+: later) :
    reply = true ↔ ToldBy past later := by
  obtain ⟨n, htold, rfl⟩ := h
  rw [show reply = true ↔ _ from htold, List.mem_append, List.mem_replicate, ToldBy]
  apply or_congr Iff.rfl
  cases n with
  | zero =>
    -- The question comes right after `past`, so nothing else does.
    constructor
    · rintro ⟨hzero, -⟩
      exact absurd rfl hzero
    · intro hnext
      rw [List.replicate_zero, List.append_nil] at hlater
      have hsame := List.prefix_of_prefix_length_le hnext hlater (by simp)
      rw [List.prefix_append_right_inj, List.cons_prefix_cons] at hsame
      cases hsame.1
  | succ n =>
    constructor
    · intro _
      refine List.IsPrefix.trans ?_ hlater
      rw [List.replicate_succ, List.append_assoc, List.prefix_append_right_inj]
      exact ⟨_, rfl⟩
    · intro _
      exact ⟨Nat.succ_ne_zero n, rfl⟩

/-- What has happened is not undone. -/
theorem prefix_of_runs {d : Asking α} (h : Dialogue.Runs heard d past a now) : past <+: now :=
  h.related (List.prefix_refl) (fun h₁ h₂ => h₁.trans h₂) prefix_of_heard

/-- All that is added are questions that may be asked. -/
theorem mem_of_runs_only {p : Request → Prop} {d : Asking α}
    (h : Dialogue.Runs heard d past a now) (hd : d.Only p) {question : Request}
    {reply : question.Reply} (hmem : .asked question reply ∈ now) :
    .asked question reply ∈ past ∨ p question := by
  refine h.keeps_of_only
    (I := fun now => .asked question reply ∈ now → .asked question reply ∈ past ∨ p question)
    ?_ hd .inl hmem
  intro now q r next hp hreply ih hnext
  rcases mem_or_eq_of_heard hreply hnext with hnow | hasked
  · exact ih hnow
  · cases hasked
    exact .inr hp

/-- Since `past`, nothing has been asked that is not in `p`. -/
def Since (p : Request → Prop) (past now : History) : Prop :=
  ∃ after, now = past ++ after ∧ ∀ question reply, .asked question reply ∈ after → p question

theorem Since.refl (p : Request → Prop) (past : History) : Since p past past :=
  ⟨[], (List.append_nil past).symm, fun _ _ h => by cases h⟩

theorem Since.trans {p : Request → Prop} {later : History} (h₁ : Since p past now)
    (h₂ : Since p now later) : Since p past later := by
  obtain ⟨after₁, rfl, hafter₁⟩ := h₁
  obtain ⟨after₂, rfl, hafter₂⟩ := h₂
  refine ⟨after₁ ++ after₂, List.append_assoc _ _ _, fun question reply hmem => ?_⟩
  rcases List.mem_append.mp hmem with hmem | hmem
  · exact hafter₁ question reply hmem
  · exact hafter₂ question reply hmem

theorem Since.mono {p p' : Request → Prop} (hp : ∀ q, p q → p' q) (h : Since p past now) :
    Since p' past now := by
  obtain ⟨after, rfl, hafter⟩ := h
  exact ⟨after, rfl, fun question reply hmem => hp question (hafter question reply hmem)⟩

theorem since_of_heard {p : Request → Prop} {question : Request} {reply : question.Reply}
    (h : heard past question reply now) (hp : p question) : Since p past now := by
  obtain ⟨n, -, rfl⟩ := h
  refine ⟨_, List.append_assoc _ _ _, fun question' reply' hmem => ?_⟩
  rcases List.mem_append.mp hmem with hmem | hmem
  · cases (List.mem_replicate.mp hmem).2
  · cases List.mem_singleton.mp hmem
    exact hp

/-- While a dialogue runs, nothing is asked that it may not ask. -/
theorem since_of_runs_only {p : Request → Prop} {d : Asking α}
    (h : Dialogue.Runs heard d past a now) (hd : d.Only p) : Since p past now := by
  refine h.keeps_of_only (I := Since p past) ?_ hd (Since.refl p past)
  intro before question reply after hq hreply hbefore
  exact hbefore.trans (since_of_heard hreply hq)

/-! ### What a history tells -/

/-- The first event that does not tell the run to end can be told from the history. -/
theorem eq_of_replicate_prefix {n m : Nat} {event event' : Event} (h : event ≠ .told)
    (h' : event' ≠ .told) (hnow : List.replicate n .told ++ [event] <+: now)
    (hnow' : List.replicate m .told ++ [event'] <+: now) : n = m ∧ event = event' := by
  induction n generalizing m now with
  | zero =>
    obtain ⟨rest, rfl⟩ := hnow
    cases m with
    | zero => exact ⟨rfl, (List.cons_prefix_cons.mp hnow').1.symm⟩
    | succ m => exact absurd (List.cons_prefix_cons.mp hnow').1.symm h
  | succ n ih =>
    obtain ⟨rest, rfl⟩ := hnow
    cases m with
    | zero => exact absurd (List.cons_prefix_cons.mp hnow').1 h'
    | succ m =>
      obtain ⟨rfl, hevent⟩ := ih ⟨rest, rfl⟩ (List.cons_prefix_cons.mp hnow').2
      exact ⟨rfl, hevent⟩

/-- A reply can be told from any history in which it was given. -/
theorem heard_unique {question : Request} {reply reply' : question.Reply} {mid mid' : History}
    (h : heard past question reply mid) (h' : heard past question reply' mid')
    (hnow : mid <+: now) (hnow' : mid' <+: now) : reply = reply' ∧ mid = mid' := by
  obtain ⟨n, -, rfl⟩ := h
  obtain ⟨m, -, rfl⟩ := h'
  obtain ⟨rest, rfl⟩ := (List.prefix_append past _).trans (List.append_assoc _ _ _ ▸ hnow)
  rw [List.append_assoc, List.prefix_append_right_inj] at hnow hnow'
  have hne : ∀ r, Event.asked question r ≠ .told := fun r he => by cases he
  obtain ⟨rfl, hevent⟩ := eq_of_replicate_prefix (hne reply) (hne reply') hnow hnow'
  cases hevent
  exact ⟨rfl, rfl⟩

/-- **What a piece of work comes to can be told from the history**, also if that goes on. -/
theorem eq_of_runs_of_prefix {d : Asking α} {a' : α} {later later' : History}
    (h : Dialogue.Runs heard d past a later) (h' : Dialogue.Runs heard d past a' later')
    (hnow : later <+: now) (hnow' : later' <+: now) : a = a' := by
  induction h with
  | done => exact (Dialogue.runs_done_iff.mp h').1.symm
  | ask hreply hrest ih =>
    obtain ⟨reply', mid', hreply', hrest'⟩ := Dialogue.runs_ask_iff.mp h'
    obtain ⟨rfl, rfl⟩ := heard_unique hreply hreply' ((prefix_of_runs hrest).trans hnow)
      ((prefix_of_runs hrest').trans hnow')
    exact ih hrest' hnow

/-! ### Obliging surroundings -/

/-- The event is that the run is told to end. -/
def tells : Event → Bool
  | .told => true
  | .asked _ _ => false

theorem any_tells_iff : past.any tells = true ↔ .told ∈ past := by
  rw [List.any_eq_true]
  constructor
  · rintro ⟨event, hmem, htells⟩
    cases event with
    | told => exact hmem
    | asked question reply => cases htells
  · intro hmem
    exact ⟨_, hmem, rfl⟩

/-- The reply where every tool ends well, every file can be read, and no lock is held. -/
def obligingReply (past : History) : (question : Request) → question.Reply
  | .launch _ => .exited 0 (some "") (some "")
  | .read _ stored => stored
  | .preview _ stored => stored
  | .begin _ => none
  | .cancelled => past.any tells
  | .announce _ => ()
  | .print _ => ()
  | .warn _ => ()
  | .lock step => match step with
    | .takeLocal _ => true
    | .openFile _ => .ok 0
    | .lockFile _ => .ok true
    | .stamp _ => .ok ()
    | .unlockFile _ => ()
    | .closeFile _ => ()
    | .freeLocal _ => ()

/-- Surroundings that oblige, and that tell the run to end right before the given questions. -/
def obliging (before : Request → Bool) (question : Request) (past : History) :
    question.Reply × History :=
  let past := past ++ List.replicate (if before question then 1 else 0) .told
  let reply := obligingReply past question
  (reply, past ++ [.asked question reply])

theorem heard_obliging (before : Request → Bool) (question : Request) (past : History) :
    heard past question (obliging before question past).1 (obliging before question past).2 := by
  refine ⟨if before question then 1 else 0, ?_, rfl⟩
  cases question with
  | cancelled => exact any_tells_iff
  | _ => trivial

end History

end PluginSweep
