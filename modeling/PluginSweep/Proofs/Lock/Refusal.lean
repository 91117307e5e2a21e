/-
PluginSweep/Proofs/Lock/Refusal.lean

Lock files that are refused.  Taking the lock of a site can be refused by the operating
system in three places: when the lock file is opened, when it is locked, and when it is
written to.  Whoever is told of a refusal was refused one of these steps
(`lockRefused_of_runs_acquire`); a lock that is merely held is no refusal.
-/
import PluginSweep.Proofs.Request.History

namespace PluginSweep

open Dialogue (Conduct Runs)
open History

/-- The operating system refuses the step. -/
def LockStep.Refuses : (step : LockStep) → step.Reply → Prop
  | .openFile _, .error _ => True
  | .lockFile _, .error _ => True
  | .stamp _, .error _ => True
  | _, _ => False

/-- A step towards a lock has been refused. -/
def History.LockRefused (past : History) : Prop :=
  ∃ step reply, .asked (.lock step) reply ∈ past ∧ LockStep.Refuses step reply

namespace Lock

variable {site : String} {past now : History} {e : LockError}

section Anywhere

variable {σ : Type} {c : Conduct Request.Reply σ} {s t : σ} {o : Except LockError HeldLock}

theorem runs_giveUp (h : Runs c (Asking.locking (giveUp site e)) s o t) : o = .error e := by
  cases h with
  | ask _ h =>
    cases h with
    | done => rfl

theorem runs_withdraw {handle : Handle}
    (h : Runs c (Asking.locking (withdraw site handle e)) s o t) : o = .error e := by
  cases h with
  | ask _ h => exact runs_giveUp h

end Anywhere

/-- A step that is refused is found in all that comes later. -/
theorem lockRefused_of_heard {step : LockStep} {reply : step.Reply} {mid : History}
    (h : heard past (.lock step) reply mid) (hrefuses : LockStep.Refuses step reply)
    (hnow : mid <+: now) : LockRefused now :=
  ⟨step, reply, hnow.subset (asked_mem_of_heard h), hrefuses⟩

variable {refusal : OsError}

theorem lockRefused_of_runs_stampFile {file : Path} {handle : Handle}
    (h : Runs heard (Asking.locking (stampFile site file handle)) past
      (.error (.refused refusal)) now) : LockRefused now := by
  cases h with
  | @ask _ _ reply _ mid _ _ hheard h =>
    match reply with
    | .ok () => cases h
    | .error e => exact lockRefused_of_heard hheard trivial (prefix_of_runs h)

theorem lockRefused_of_runs_lockOpened {file : Path} {handle : Handle}
    (h : Runs heard (Asking.locking (lockOpened site file handle)) past
      (.error (.refused refusal)) now) : LockRefused now := by
  cases h with
  | @ask _ _ reply _ mid _ _ hheard h =>
    match reply with
    | .ok true => exact lockRefused_of_runs_stampFile h
    | .ok false => cases runs_withdraw h
    | .error e => exact lockRefused_of_heard hheard trivial (prefix_of_runs h)

theorem lockRefused_of_runs_openLock {file : Path}
    (h : Runs heard (Asking.locking (openLock site file)) past (.error (.refused refusal)) now) :
    LockRefused now := by
  cases h with
  | @ask _ _ reply _ mid _ _ hheard h =>
    match reply with
    | .ok handle => exact lockRefused_of_runs_lockOpened h
    | .error e => exact lockRefused_of_heard hheard trivial (prefix_of_runs h)

/-- **Where taking a lock is refused, one of its steps was refused.** -/
theorem lockRefused_of_runs_acquire {dir : Path}
    (h : Runs heard (Asking.locking (acquire dir site)) past (.error (.refused refusal)) now) :
    LockRefused now := by
  cases h with
  | @ask _ _ reply _ mid _ _ hheard h =>
    match reply with
    | true => exact lockRefused_of_runs_openLock h
    | false => cases h

end Lock

end PluginSweep
