/-
PluginSweep/Proofs/Sweep/Approach.lean

How a sweep comes to try the plugin out.  A sweep does nothing that is part of
that until it goes for the lock of its site, which it does at most once; what it
does under the lock is a probe, and after it has given the lock back it again does
nothing that is part of trying the plugin out (`approaching_run`).

Here a sweep is followed through everything that it may do, whatever the replies,
so there is one lemma for each piece of work after the survey.
-/
import PluginSweep.Proofs.Sweep.Questions
import PluginSweep.Proofs.Sweep.Work

namespace PluginSweep.Sweep

open Dialogue (Conduct)

variable {α β : Type} {s : Settings} {site : Site}

/-! ### Going for the lock -/

/-- What follows on going for the lock: if it is refused, nothing that is part of trying the plugin
out; if it is taken, a probe, then giving it back, and nothing after that. -/
def UnderLock (s : Settings) (site : Site) (k : Except LockError HeldLock → Asking α) : Prop :=
  (∀ e, (k (.error e)).Only Request.Early) ∧
    ∀ held, ∃ onward : Except ProbeError ProbeResult → Asking α,
      (∀ o, (onward o).Only Request.Early) ∧
        k (.ok held) = do
          let o ← Probe.run (setupOf s site)
          Asking.locking (Lock.release held)
          onward o

/-- What a sweep may be that has not gone for the lock of its site so far. -/
inductive Approaching (s : Settings) : Asking α → Prop
  | early {d : Asking α} (h : d.Only Request.Early) : Approaching s d
  | ask {q : Request} {next : q.Reply → Asking α} (hq : q.Early)
      (h : ∀ r, Approaching s (next r)) : Approaching s (.ask q next)
  | lock {site : Site} {key : String} {k : Except LockError HeldLock → Asking α}
      (hsite : s.probedSite = some site) (hk : UnderLock s site k) :
      Approaching s (Asking.locking (Lock.acquire s.lockDirectory key) >>= k)

theorem UnderLock.bind {k : Except LockError HeldLock → Asking α} {f : α → Asking β}
    (h : UnderLock s site k) (hf : ∀ a, (f a).Only Request.Early) :
    UnderLock s site fun o => k o >>= f := by
  refine ⟨fun e => (h.1 e).bind hf, fun held => ?_⟩
  obtain ⟨onward, honward, hk⟩ := h.2 held
  refine ⟨fun o => onward o >>= f, fun o => (honward o).bind hf, ?_⟩
  simp only [hk, bind_assoc]

theorem Approaching.bind {d : Asking α} {f : α → Asking β} (h : Approaching s d)
    (hf : ∀ a, (f a).Only Request.Early) : Approaching s (d >>= f) := by
  induction h with
  | early h => exact .early (h.bind hf)
  | ask hq _ ih => exact .ask hq ih
  | lock hsite hk =>
    rw [bind_assoc]
    exact .lock hsite (hk.bind hf)

/-- Surroundings that reply as they like, and keep nothing. -/
def anything : Conduct Request.Reply Unit := fun _ _ _ _ => True

/-- After an early dialogue only what it may end with matters. -/
theorem approaching_bind {d : Asking α} {f : α → Asking β} (hd : d.Only Request.Early)
    (hf : ∀ a, Dialogue.Runs anything d () a () → Approaching s (f a)) :
    Approaching s (d >>= f) := by
  induction d with
  | done a => exact hf a (.done a ())
  | ask q next ih =>
    exact .ask hd.1 fun r => ih r (hd.2 r) fun a hrun => hf a (.ask (t := ()) trivial hrun)

/-! ### Work that comes to it -/

/-- The work has not gone for the lock when it begins. -/
def Nears (s : Settings) (w : Sweeping α) : Prop :=
  ∀ st, Approaching s (w.run.run st)

theorem nears_of_only {w : Sweeping α} (h : Work.Only Request.Early w) : Nears s w :=
  fun st => .early (h st)

theorem Nears.bind {w : Sweeping α} {f : α → Sweeping β} (hw : Nears s w)
    (hf : ∀ a, Work.Only Request.Early (f a)) : Nears s (w >>= f) := by
  intro st
  rw [ExceptT.run_bind, StateT.run_bind]
  refine (hw st).bind fun out => ?_
  obtain ⟨outcome, st'⟩ := out
  cases outcome with
  | ok a => exact hf a st'
  | error e => exact Dialogue.only_pure _

theorem nears_bind {w : Sweeping α} {f : α → Sweeping β} (hw : Work.Only Request.Early w)
    (hf : ∀ a x y, Work.Runs anything w x (.ok a) y → Nears s (f a)) : Nears s (w >>= f) := by
  intro st
  rw [ExceptT.run_bind, StateT.run_bind]
  refine approaching_bind (hw st) fun out hrun => ?_
  obtain ⟨outcome, st'⟩ := out
  cases outcome with
  | ok a => exact hf a (st, ()) (st', ()) hrun st'
  | error e => exact .early (Dialogue.only_pure _)

/-! ### Trying the plugin out -/

theorem underLock_lockedProbe (s : Settings) (site : Site) (key : String) :
    ∃ k, UnderLock s site k ∧
      lockedProbe s site key = Asking.locking (Lock.acquire s.lockDirectory key) >>= k := by
  refine ⟨_, ⟨fun e => ?_, fun held => ?_⟩, rfl⟩
  · cases e with
    | busy f => exact Dialogue.only_pure _
    | refused e => exact Dialogue.only_pure _
  · refine ⟨_, fun o => ?_, rfl⟩
    match o with
    | .ok result => exact Dialogue.only_pure _
    | .error (.failure f) => exact Dialogue.only_pure _
    | .error (.notRestored ..) => exact Dialogue.only_pure _
    | .error .undecodable => exact Dialogue.only_pure _

theorem nears_lockedProbe (hsite : s.probedSite = some site) (key : String) :
    Nears s (asking (lockedProbe s site key)) := by
  intro st
  obtain ⟨k, hk, heq⟩ := underLock_lockedProbe s site key
  have hlocked : Approaching s (lockedProbe s site key) := heq ▸ .lock hsite hk
  rw [asking, ExceptT.run_lift, StateT.run_map, map_eq_pure_bind, StateT.run_lift, bind_assoc]
  exact hlocked.bind fun _ => Dialogue.only_pure _

theorem only_changing {p : Request → Prop} (work : StateM FileSystem α) :
    Work.Only p (changing work) := by
  intro st
  show (pure (Except.ok (work.run st.tree).1, { st with tree := (work.run st.tree).2 }) :
    Asking (Except SweepError α × SweepState)).Only p
  exact Dialogue.only_pure _

theorem only_filing {p : Request → Prop} (work : FileWork α) : Work.Only p (filing work) := by
  refine (only_changing _).bind fun o => ?_
  cases o with
  | ok a => exact Work.only_pure a
  | error e => exact Work.only_throw _

-- Nothing that is written matters here; without this line Lean computes the texts of reports.
attribute [local irreducible] Report.prepare Report.writeSection Report.writeSections
  Report.writeSummary

theorem only_addProbeSection {p : Request → Prop} (summary : Summary) (made : Section) :
    Work.Only p (addProbeSection s summary made) := by
  unfold addProbeSection
  exact (only_filing _).bind fun _ => Work.only_pure _

/-- The report on trying the plugin out is written, and perhaps a warning is given. -/
theorem only_reportProbe {p : Request → Prop} (hwarn : ∀ w, p (.warn w)) (summary : Summary)
    (o : Except SweepError (Except StepFailure ProbeResult)) :
    Work.Only p (reportProbe s summary o) := by
  unfold reportProbe
  split
  · exact only_addProbeSection _ _
  · exact (only_asking (Dialogue.only_inquire_iff.mpr (hwarn _))).bind fun _ =>
      only_addProbeSection _ _
  · exact (only_addProbeSection _ _).bind fun _ => (only_filing _).bind fun _ => Work.only_throw _
  · exact Work.only_throw _

theorem nears_probe (hsite : s.probedSite = some site) (summary : Summary) :
    Nears s (probe s site summary) := by
  refine nears_bind Work.only_get fun st x y _ => ?_
  have hrest : ∀ key : String, Nears s (do
      reportProbe s summary (← asking (lockedProbe s site key))) :=
    fun key => (nears_lockedProbe hsite key).bind fun o =>
      only_reportProbe (fun _ => trivial) summary o
  dsimp only
  split
  · exact nears_bind (Work.only_pure _) fun key _ _ _ => hrest key
  · exact nears_bind (Work.only_throw _) fun key _ _ _ => hrest key

theorem nears_tryOut {found : Option Site} (hsite : found = s.probedSite) (summary : Summary) :
    Nears s (tryOut s found summary) := by
  unfold tryOut
  split
  · rename_i site _
    refine nears_bind (only_asking (Dialogue.only_inquire_iff.mpr trivial)) fun stop _ _ _ => ?_
    cases stop with
    | true => exact nears_of_only (Work.only_pure _)
    | false =>
      refine nears_bind (only_asking (Dialogue.only_inquire_iff.mpr trivial)) fun _ _ _ _ => ?_
      exact nears_probe hsite.symm summary
  · exact nears_of_only (Work.only_pure _)

/-! ### The whole sweep -/

theorem runs_precondition_site {σ : Type} {c : Conduct Request.Reply σ} {x y : SweepState × σ}
    {found : Option Site} (h : Work.Runs c (precondition s) x (.ok found) y) :
    found = s.probedSite := by
  rw [precondition] at h
  rcases hprobed : s.probedSite with - | probed <;> rw [hprobed] at h
  · exact Except.ok.inj (Work.runs_pure_iff.mp h).1
  · obtain ⟨o, z, -, hrest⟩ := Work.runs_bind_ok_iff.mp h
    rcases o with e | (_ | _)
    · cases (Work.runs_throw_iff.mp hrest).1
    · cases (Work.runs_throw_iff.mp hrest).1
    · exact Except.ok.inj (Work.runs_pure_iff.mp hrest).1

/-- The site at the end of a survey is the one in which the plugin is to be tried out. -/
theorem runs_survey_site {σ : Type} {c : Conduct Request.Reply σ} {x y : SweepState × σ}
    {v : Survey} (h : Work.Runs c (survey s) x (.ok v) y) : v.site = s.probedSite := by
  obtain ⟨found, z₁, hsite, hlist⟩ := Work.runs_bind_ok_iff.mp h
  obtain ⟨collected, z₂, -, hplanned⟩ := Work.runs_bind_ok_iff.mp hlist
  rcases hplan : plan s.profile with e | steps <;> simp only [hplan] at hplanned
  · obtain ⟨steps, z₃, hthrow, -⟩ := Work.runs_bind_ok_iff.mp hplanned
    cases (Work.runs_throw_iff.mp hthrow).1
  · obtain ⟨_, z₃, -, hrun⟩ := Work.runs_bind_ok_iff.mp hplanned
    obtain ⟨ledger, z₄, -, hend⟩ := Work.runs_bind_ok_iff.mp hrun
    obtain ⟨interrupted, z₅, -, hpure⟩ := Work.runs_bind_ok_iff.mp hend
    obtain rfl := Except.ok.inj (Work.runs_pure_iff.mp hpure).1
    exact runs_precondition_site hsite

theorem only_warnSkipped {p : Request → Prop} (hwarn : ∀ w, p (.warn w)) (found : Option Site)
    (summary : Summary) : Work.Only p (warnSkipped s found summary) := by
  unfold warnSkipped
  split
  · exact only_asking (Dialogue.only_inquire_iff.mpr (hwarn _))
  · exact Work.only_pure _

theorem only_writeReports {p : Request → Prop} (summary : Summary) :
    Work.Only p (writeReports s summary) := by
  refine (only_filing _).bind fun _ => (only_changing _).bind fun written => ?_
  dsimp only
  split
  · exact Work.only_pure _
  · exact Work.only_throw _

theorem nears_conclude {v : Survey} (hsite : v.site = s.probedSite) : Nears s (conclude s v) := by
  refine nears_bind (only_warnSkipped (fun _ => trivial) _ _) fun _ _ _ _ => ?_
  refine nears_bind (only_writeReports _) fun summary _ _ _ => ?_
  exact (nears_tryOut hsite summary).bind fun _ => (only_filing _).bind fun _ => Work.only_pure _

/-- **A sweep comes to the lock of its site once at most**, and tries the plugin out under it
only. -/
theorem approaching_run (s : Settings) (st : SweepState) : Approaching s ((run s).run.run st) :=
  nears_bind (only_survey_early s) (fun _ _ _ h => nears_conclude (runs_survey_site h)) st

end PluginSweep.Sweep
