/-
PluginSweep/Proofs/Request/Said.lean

What is said of trying a plugin out: which requests are part of it (`Request.tries`),
what is said when a lock is found held, and what a tool has said that wrote what is
no text.

From what was said it is known how taking a lock went (`Lock.runs_acquire_ok`), and that
a site told the truth (`Site.runs_truthful`).
-/
import PluginSweep.Proofs.Dialogue.Partial
import PluginSweep.Proofs.Lock.Interleaving
import PluginSweep.Proofs.Lock.Refusal
import PluginSweep.Proofs.Probe.Restoration
import PluginSweep.Proofs.Sweep.Questions

namespace PluginSweep

open Dialogue (Conduct Runs listening)

/-! ### What is said -/

/-- The request starts a command that is part of trying a plugin out. -/
def Request.tries : Request → Bool
  | .launch command => command.tries
  | _ => false

theorem Request.Early.tries {q : Request} (h : q.Early) : q.tries = false := by
  cases q with
  | launch command => exact h
  | _ => rfl

theorem Request.Trying.not_early {q : Request} (h : q.tries = true) : ¬ q.Early := by
  intro hearly
  rw [hearly.tries] at h
  cases h

/-- A question of a sweep and the reply to it. -/
abbrev Said : Type :=
  Dialogue.Exchange Request.Reply

namespace Said

/-- The lock of a site is found to be held. -/
def findsBusy : Said → Bool
  | ⟨.lock (.takeLocal _), taken⟩ => !taken
  | ⟨.lock (.lockFile _), .ok locked⟩ => !locked
  | _ => false

/-- A command that is part of trying a plugin out has written what is no text. -/
def garbles : Said → Bool
  | ⟨.launch command, .undecodable⟩ => command.tries
  | _ => false

/-- If the lock of a site is gone for, it is the site of that name. -/
def goesFor (root : String) : Said → Bool
  | ⟨.lock (.takeLocal site), _⟩ => site == root
  | _ => true

theorem not_findsBusy_of_early {x : Said} (h : x.1.Early) : ¬ x.findsBusy := by
  obtain ⟨q, r⟩ := x
  cases q with
  | lock step => exact h.elim
  | _ => exact Bool.false_ne_true

theorem not_findsBusy_of_trying {x : Said} (h : x.1.Trying) : ¬ x.findsBusy := by
  obtain ⟨q, r⟩ := x
  cases q with
  | lock step => exact h.elim
  | _ => exact Bool.false_ne_true

end Said

/-! ### Locks and sites -/

/-- What comes of the questions of a process, as far as locks go. -/
def Request.Locks (process : Nat) : Conduct Request.Reply LockTable := fun t question =>
  match question with
  | .lock step => fun r t' => LockTable.May process t step r t'
  | _ => fun _ t' => t' = t

theorem Request.Locks.eq_of_early {process : Nat} {t t' : LockTable} {q : Request} {r : q.Reply}
    (h : Request.Locks process t q r t') (hq : q.Early) : t' = t := by
  cases q with
  | lock step => exact hq.elim
  | _ => exact h

theorem Request.Locks.eq_of_trying {process : Nat} {t t' : LockTable} {q : Request} {r : q.Reply}
    (h : Request.Locks process t q r t') (hq : q.Trying) : t' = t := by
  cases q with
  | lock step => exact hq.elim
  | _ => exact h

namespace Lock

variable {dir : Path} {site key : String} {past mid now : List Said} {held : HeldLock}

/-- The step gives back something that was taken. -/
def Gives : LockStep → Prop
  | .unlockFile _ => True
  | .closeFile _ => True
  | .freeLocal _ => True
  | _ => False

theorem only_release (held : HeldLock) : (release held).Only Gives :=
  ⟨trivial, fun _ => ⟨trivial, fun _ => ⟨trivial, fun _ => trivial⟩⟩⟩

theorem Gives.not_findsBusy {step : LockStep} (h : Gives step) (r : step.Reply) :
    ¬ Said.findsBusy ⟨.lock step, r⟩ := by
  cases step <;> first | exact h.elim | exact Bool.false_ne_true

variable {file : Path} {handle : Handle}

theorem runs_stampFile_ok
    (h : Runs listening (Asking.locking (stampFile site file handle)) past (.ok held) now) :
    now = past ++ [⟨.lock (.stamp handle), .ok ()⟩] := by
  cases h with
  | @ask _ _ r _ mid _ _ hsaid h =>
    subst hsaid
    match r with
    | .ok () =>
      cases h with
      | done => rfl
    | .error e => cases runs_withdraw h

theorem runs_lockOpened_ok
    (h : Runs listening (Asking.locking (lockOpened site file handle)) past (.ok held) now) :
    now = past ++ [⟨.lock (.lockFile handle), .ok true⟩, ⟨.lock (.stamp handle), .ok ()⟩] := by
  cases h with
  | @ask _ _ r _ mid _ _ hsaid h =>
    subst hsaid
    match r with
    | .ok true =>
      rw [runs_stampFile_ok h, List.append_assoc]
      rfl
    | .ok false => cases runs_withdraw h
    | .error e => cases runs_withdraw h

/-- What is said first when the lock is gone for. -/
theorem runs_acquire_took {o : Except LockError HeldLock}
    (h : Runs listening (Asking.locking (acquire dir key)) past o now) :
    ∃ taken, past ++ [⟨.lock (.takeLocal key), taken⟩] <+: now := by
  cases h with
  | @ask _ _ taken _ _ _ _ hsaid h =>
    subst hsaid
    exact ⟨taken, Dialogue.prefix_of_listening (Dialogue.runs_iff_reaches.mp h)⟩

/-- What is said when the lock is taken. -/
theorem runs_acquire_ok
    (h : Runs listening (Asking.locking (acquire dir key)) past (.ok held) now) :
    ∃ handle, now = past ++ [⟨.lock (.takeLocal key), true⟩] ++
      [⟨.lock (.openFile (fileOf dir key)), .ok handle⟩, ⟨.lock (.lockFile handle), .ok true⟩,
        ⟨.lock (.stamp handle), .ok ()⟩] := by
  cases h with
  | @ask _ _ taken _ mid _ _ hsaid h =>
    subst hsaid
    cases taken with
    | false => cases h
    | true =>
      cases h with
      | @ask _ _ r _ mid _ _ hsaid h =>
        subst hsaid
        match r with
        | .ok handle =>
          refine ⟨handle, ?_⟩
          rw [runs_lockOpened_ok h]
          simp only [List.append_assoc, List.cons_append, List.nil_append]
        | .error e => cases runs_giveUp h

end Lock

namespace Site

variable {slug : String} {past now : List Said} {b b' : Bool}

/-- What a site may do: as `truthful`, but its tool may write what is no text. -/
def responds (slug : String) : Conduct Request.Reply Bool := fun active question =>
  match question with
  | .launch command => fun l active' => allows slug active command l active'
  | _ => fun _ active' => active' = active

/-- Only commands that are part of trying a plugin out change whether it is active. -/
theorem responds_quiet {q : Request} {r : q.Reply} (h : responds slug b q r b')
    (hq : q.tries = false) : b' = b := by
  cases q with
  | launch command =>
    cases command with
    | site binary root action =>
      cases action with
      | isInstalled => exact h
      | _ => cases hq
    | _ => exact h
  | _ => exact h

/-- If the tool brings a result, it is the truth. -/
theorem runs_isActive_responds {site : Site} {active : Bool}
    (h : Runs (listening.both (responds slug)) (site.isActive slug) (past, b) (.ok active)
      (now, b')) : active = b := by
  obtain ⟨l, ⟨-, -, htruth⟩, heq⟩ := runs_isActive_iff.mp h
  cases l with
  | exited code out err =>
    have hcode : active = (code == 0) := Except.ok.inj heq
    rw [hcode, Bool.eq_iff_iff, beq_iff_eq]
    exact htruth rfl code out err rfl
  | _ => cases heq

/-- Where all that was heard is text, a site that responds is one that is truthful. -/
theorem runs_truthful {α : Type} {d : Asking α} {a : α}
    (h : Runs (listening.both (responds slug)) d (past, b) a (now, b'))
    (hd : d.Only Request.Trying) (htext : ∀ x ∈ now, ¬ x.garbles) :
    Runs (truthful slug) d b a b' := by
  -- The induction is on the run, with the histories left open.
  generalize hstart : (past, b) = start at h
  generalize hfinal : (now, b') = final at h
  induction h generalizing past b with
  | done a s =>
    subst hstart
    cases hfinal
    exact .done a _
  | @ask q next r s t u a reply hrest ih =>
    subst hstart hfinal
    obtain ⟨mid, b₁⟩ := t
    obtain ⟨hsaid, hreply⟩ := reply
    have hmem : (⟨q, r⟩ : Said) ∈ now := by
      have hmid : mid <+: now := Dialogue.prefix_of_listening
        (Dialogue.runs_iff_reaches.mp hrest.left)
      refine hmid.subset ?_
      rw [show mid = past ++ [⟨q, r⟩] from hsaid]
      exact List.mem_append_right _ List.mem_cons_self
    refine .ask (t := b₁) ?_ (ih (hd.2 r) rfl rfl)
    cases q with
    | launch command =>
      refine ⟨?_, hreply⟩
      -- What is no text has not been heard.
      rintro rfl
      exact htext _ hmem hd.1
    | _ => exact hreply

end Site

end PluginSweep
