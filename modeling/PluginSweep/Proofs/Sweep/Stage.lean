/-
PluginSweep/Proofs/Sweep/Stage.lean

How far a sweep is with trying the plugin out.  A sweep has not gone for the lock of
its site, or is taking the lock; it tries the plugin out under the lock; it gives the
lock back, and all that is over; or it was refused the lock.  `Stage` says which of
these it is, of what is left of a sweep when so much has been heard of it.

A stage tells what can have been heard: who found the lock held has done nothing that is
part of trying the plugin out (`Stage.quiet_of_findsBusy`), and what was noted of the
plugin is what it was when the lock was taken (`Stage.noted`, `Stage.tried`).
-/
import PluginSweep.Proofs.Lock.Interleaving
import PluginSweep.Proofs.Probe.Questions
import PluginSweep.Proofs.Request.Said
import PluginSweep.Proofs.Sweep.Approach

namespace PluginSweep.Sweep

open Dialogue (Conduct Runs Reaches listening)

variable {α : Type} {s : Settings} {calm calm' : Prop} {original active active' before : Bool}
  {site : Site} {key : String} {held : HeldLock} {past mid now heard : List Said}
  {rest : Asking α} {phase phase' : Option (String × Lock.Phase)}

/-! ### What has been heard of a sweep -/

/-- The sweep has gone for the lock of its site, of which `key` is the name, after `past`. -/
structure WentFor (s : Settings) (site : Site) (key : String) (past heard : List Said) : Prop where
  site : s.probedSite = some site
  early : ∀ x ∈ past, x.1.Early
  took : ∃ taken, past ++ [⟨.lock (.takeLocal key), taken⟩] <+: heard

/-- By the end of `mid` the sweep has taken the lock of its site. -/
def Acquired (s : Settings) (site : Site) (key : String) (held : HeldLock) (mid : List Said) :
    Prop :=
  s.probedSite = some site ∧ ∃ past, (∀ x ∈ past, x.1.Early) ∧
    Runs listening (Asking.locking (Lock.acquire s.lockDirectory key)) past (.ok held) mid

/-- Under the lock the sweep has come through this, which it begins with. -/
def HasDone (s : Settings) (work : Site → Asking α) (a : α) (heard : List Said) : Prop :=
  ∃ site key held mid now, Acquired s site key held mid ∧ Runs listening (work site) mid a now ∧
    now <+: heard

/-- The sweep has taken note of whether the plugin was active. -/
def Noted (s : Settings) (heard : List Said) (wasActive : Bool) : Prop :=
  HasDone s (fun site => site.isActive s.target.name) (.ok wasActive) heard

/-- The sweep has tried the plugin out. -/
def TriedOut (s : Settings) (heard : List Said) (o : Except ProbeError ProbeResult) : Prop :=
  HasDone s (fun site => Probe.run (setupOf s site)) o heard

/-- The sweep has said that the plugin could not be put back. -/
def Raised (s : Settings) (heard : List Said) : Prop :=
  ∃ slug wasActive cause, TriedOut s heard (.error (.notRestored slug wasActive cause))

theorem WentFor.mono (h : WentFor s site key past heard) (hnow : heard <+: now) :
    WentFor s site key past now :=
  ⟨h.site, h.early, h.took.imp fun _ ht => ht.trans hnow⟩

theorem HasDone.mono {work : Site → Asking α} {a : α} (h : HasDone s work a heard)
    (hnow : heard <+: now) : HasDone s work a now := by
  obtain ⟨site, key, held, mid, last, htaken, hruns, hlast⟩ := h
  exact ⟨site, key, held, mid, last, htaken, hruns, hlast.trans hnow⟩

theorem Raised.mono (h : Raised s heard) (hnow : heard <+: now) : Raised s now := by
  obtain ⟨slug, wasActive, cause, htried⟩ := h
  exact ⟨slug, wasActive, cause, htried.mono hnow⟩

theorem WentFor.mem (h : WentFor s site key past heard) :
    ∃ taken, (⟨.lock (.takeLocal key), taken⟩ : Said) ∈ heard :=
  h.took.imp fun _ ht => ht.subset (List.mem_append_right _ List.mem_cons_self)

/-- What a sweep has taken it went for. -/
theorem Acquired.wentFor (h : Acquired s site key held mid) : ∃ past, WentFor s site key past mid ∧
    Runs listening (Asking.locking (Lock.acquire s.lockDirectory key)) past (.ok held) mid := by
  obtain ⟨hsite, past, hearly, hruns⟩ := h
  obtain ⟨handle, rfl⟩ := Lock.runs_acquire_ok hruns
  exact ⟨past, ⟨hsite, hearly, true, List.prefix_append _ _⟩, hruns⟩

/-- A sweep goes for the lock once. -/
theorem WentFor.unique {site' : Site} {key' : String} {past' : List Said}
    (h : WentFor s site key past heard) (h' : WentFor s site' key' past' heard) :
    site = site' ∧ key = key' ∧ past = past' := by
  obtain ⟨hsite, hearly, taken, htook⟩ := h
  obtain ⟨hsite', hearly', taken', htook'⟩ := h'
  have hnot : ∀ (key : String) (taken : Bool),
      ¬ Request.Early (Sigma.fst (⟨.lock (.takeLocal key), taken⟩ : Said)) :=
    fun _ _ => id
  obtain ⟨rfl, heq⟩ := Dialogue.eq_of_first hearly (hnot _ _) htook hearly' (hnot _ _) htook'
  cases heq
  exact ⟨Option.some.inj (hsite.symm.trans hsite'), rfl, rfl⟩

theorem Acquired.unique {site' : Site} {key' : String} {held' : HeldLock} {mid' : List Said}
    (h : Acquired s site key held mid) (hmid : mid <+: heard)
    (h' : Acquired s site' key' held' mid') (hmid' : mid' <+: heard) :
    site = site' ∧ mid = mid' := by
  obtain ⟨past, hwent, hruns⟩ := h.wentFor
  obtain ⟨past', hwent', hruns'⟩ := h'.wentFor
  obtain ⟨rfl, rfl, rfl⟩ := (hwent.mono hmid).unique (hwent'.mono hmid')
  exact ⟨rfl, (hruns.unique hmid hruns' hmid').2⟩

/-- What is done under the lock needs the lock. -/
theorem HasDone.exists_took {work : Site → Asking α} {a : α} (h : HasDone s work a heard) :
    ∃ x ∈ heard, ¬ x.1.Early := by
  obtain ⟨site, key, held, mid, now, htaken, hruns, hnow⟩ := h
  obtain ⟨past, hwent, -⟩ := htaken.wentFor
  obtain ⟨taken, htook⟩ := hwent.mem
  have hmid := Dialogue.prefix_of_listening (Dialogue.runs_iff_reaches.mp hruns)
  exact ⟨_, (hmid.trans hnow).subset htook, id⟩

/-- What a sweep has done under the lock it did when going for the lock had gone well. -/
theorem HasDone.acquired {work : Site → Asking α} {a : α} {o : Except LockError HeldLock}
    (h : HasDone s work a heard) (hsite : s.probedSite = some site)
    (hearly : ∀ x ∈ past, x.1.Early)
    (hruns : Runs listening (Asking.locking (Lock.acquire s.lockDirectory key)) past o mid)
    (hmid : mid <+: heard) :
    (∃ held, o = .ok held) ∧ ∃ now, Runs listening (work site) mid a now ∧ now <+: heard := by
  obtain ⟨site', key', held, mid', now, htaken, hwork, hnow⟩ := h
  have hmid' := (Dialogue.prefix_of_listening (Dialogue.runs_iff_reaches.mp hwork)).trans hnow
  obtain ⟨past', hwent', hruns'⟩ := htaken.wentFor
  have hwent : WentFor s site key past mid := ⟨hsite, hearly, Lock.runs_acquire_took hruns⟩
  obtain ⟨rfl, rfl, rfl⟩ := (hwent'.mono hmid').unique (hwent.mono hmid)
  obtain ⟨rfl, rfl⟩ := hruns'.unique hmid' hruns hmid
  exact ⟨⟨held, rfl⟩, now, hwork, hnow⟩

/-! ### Stages -/

/-- The sweep has taken the lock when `mid` had been heard, and the plugin was `before` then. -/
structure Holds (s : Settings) (calm : Prop) (original : Bool) (site : Site) (key : String)
    (held : HeldLock) (mid : List Said) (before : Bool) (heard : List Said) : Prop where
  taken : Acquired s site key held mid
  /-- The lock was never found to be held. -/
  unhindered : ∀ x ∈ heard, ¬ x.findsBusy
  calm : calm → before = original

/-- The surroundings of a sweep: they listen, and there is a site in which the plugin is active or
not. -/
def besideSite (s : Settings) : Conduct Request.Reply (List Said × Bool) :=
  listening.both (Site.responds s.target.name)

/-- The trying out that began when `mid` had been heard has ended. -/
def Ended (s : Settings) (site : Site) (mid : List Said) (before : Bool) (heard : List Said) :
    Prop :=
  ∃ o now after, Runs (besideSite s) (Probe.run (setupOf s site)) (mid, before) o (now, after) ∧
    now <+: heard

/-- How far what is left of a sweep is when so much has been heard of it, and the phase of its
attempt on the site, of which `key` is the name.  The plugin is `active` or not; it was `original`
when the sweep took the lock, if all has been calm. -/
inductive Stage (s : Settings) (calm : Prop) (original active : Bool) :
    List Said → Asking α → Option (String × Lock.Phase) → Prop
  | approaching {heard : List Said} {rest : Asking α} (hearly : ∀ x ∈ heard, x.1.Early)
      (h : Approaching s rest) : Stage s calm original active heard rest none
  | entering {site : Site} {key : String} {past heard : List Said} {step : LockStep}
      {next : step.Reply → Locking (Except LockError HeldLock)}
      {k : Except LockError HeldLock → Asking α} (hwent : WentFor s site key past heard)
      (hquiet : ∀ x ∈ heard, x.1.tries = false)
      (h : Reaches listening (Asking.locking (Lock.acquire s.lockDirectory key)) past
        (Asking.locking (.ask step next)) heard) (hk : UnderLock s site k) :
      Stage s calm original active heard (Asking.locking (.ask step next) >>= k)
        (some (key, .entering (.ask step next)))
  | inside {site : Site} {key : String} {held : HeldLock} {mid heard : List Said} {before : Bool}
      {p : Asking (Except ProbeError ProbeResult)}
      {onward : Except ProbeError ProbeResult → Asking α}
      (hholds : Holds s calm original site key held mid before heard)
      (h : Reaches (besideSite s) (Probe.run (setupOf s site)) (mid, before) p (heard, active))
      (honward : ∀ o, (onward o).Only Request.Early) :
      Stage s calm original active heard
        (do
          let o ← p
          Asking.locking (Lock.release held)
          onward o)
        (some (key, .inside held))
  | leaving {site : Site} {key : String} {held : HeldLock} {mid heard : List Said} {before : Bool}
      {step : LockStep} {next : step.Reply → Locking Unit} {onward : Asking α}
      (hholds : Holds s calm original site key held mid before heard)
      (hended : Ended s site mid before heard)
      (hgives : (Dialogue.ask step next : Locking Unit).Only Lock.Gives)
      (honward : onward.Only Request.Early) :
      Stage s calm original active heard (Asking.locking (.ask step next) >>= fun _ => onward)
        (some (key, .leaving (.ask step next)))
  | released {site : Site} {key : String} {held : HeldLock} {mid heard : List Said} {before : Bool}
      {rest : Asking α} (hholds : Holds s calm original site key held mid before heard)
      (hended : Ended s site mid before heard) (hrest : rest.Only Request.Early) :
      Stage s calm original active heard rest none
  | refused {site : Site} {key : String} {past now heard : List Said} {e : LockError}
      {rest : Asking α} (hwent : WentFor s site key past heard)
      (hquiet : ∀ x ∈ heard, x.1.tries = false)
      (h : Runs listening (Asking.locking (Lock.acquire s.lockDirectory key)) past (.error e) now)
      (hnow : now <+: heard) (hrest : rest.Only Request.Early) :
      Stage s calm original active heard rest none

/-- The attempt is inside: the sweep has the lock, and tries the plugin out. -/
def IsInside (phase : Option (String × Lock.Phase)) : Prop :=
  ∃ key held, phase = some (key, .inside held)

theorem not_isInside_none : ¬ IsInside none := by
  rintro ⟨_, _, ⟨⟩⟩

theorem not_isInside_leaving (l : Locking Unit) :
    ¬ IsInside ((Lock.Phase.leaving l).settled.map (Prod.mk key)) := by
  rintro ⟨_, _, heq⟩
  cases l <;> cases heq

/-- While a sweep is not inside, it does not matter whether the plugin is active. -/
theorem Stage.elsewhere (h : Stage s calm original active heard rest phase)
    (hphase : ¬ IsInside phase) : Stage s calm original active' heard rest phase := by
  cases h with
  | approaching hearly h => exact .approaching hearly h
  | entering hwent hquiet h hk => exact .entering hwent hquiet h hk
  | inside => exact absurd ⟨_, _, rfl⟩ hphase
  | leaving hholds hended hgives honward => exact .leaving hholds hended hgives honward
  | released hholds hended hrest => exact .released hholds hended hrest
  | refused hwent hquiet h hnow hrest => exact .refused hwent hquiet h hnow hrest

theorem Holds.less (h : Holds s calm original site key held mid before heard)
    (hcalm : calm' → calm) : Holds s calm' original site key held mid before heard :=
  ⟨h.taken, h.unhindered, fun hc => h.calm (hcalm hc)⟩

theorem Stage.less (h : Stage s calm original active heard rest phase) (hcalm : calm' → calm) :
    Stage s calm' original active heard rest phase := by
  cases h with
  | approaching hearly h => exact .approaching hearly h
  | entering hwent hquiet h hk => exact .entering hwent hquiet h hk
  | inside hholds h honward => exact .inside (hholds.less hcalm) h honward
  | leaving hholds hended hgives honward =>
    exact .leaving (hholds.less hcalm) hended hgives honward
  | released hholds hended hrest => exact .released (hholds.less hcalm) hended hrest
  | refused hwent hquiet h hnow hrest => exact .refused hwent hquiet h hnow hrest

/-! ### What a stage says -/

/-- The attempt of a sweep is one on the site that it went for. -/
theorem Stage.took {ph : Lock.Phase}
    (h : Stage s calm original active heard rest (some (key, ph))) :
    ∃ taken, (⟨.lock (.takeLocal key), taken⟩ : Said) ∈ heard := by
  have hwent : ∃ site past, WentFor s site key past heard := by
    cases h with
    | entering hwent => exact ⟨_, _, hwent⟩
    | inside hholds h =>
      obtain ⟨past, hwent, -⟩ := hholds.taken.wentFor
      exact ⟨_, past, hwent.mono (Dialogue.prefix_of_listening h.left)⟩
    | leaving hholds hended =>
      obtain ⟨past, hwent, -⟩ := hholds.taken.wentFor
      obtain ⟨o, now, after, hruns, hnow⟩ := hended
      have hmid := Dialogue.prefix_of_listening (Dialogue.runs_iff_reaches.mp hruns.left)
      exact ⟨_, past, hwent.mono (hmid.trans hnow)⟩
  obtain ⟨site, past, hwent⟩ := hwent
  exact hwent.mem

/-- A sweep that has found the lock held has done nothing that is part of trying the plugin out. -/
theorem Stage.quiet_of_findsBusy (h : Stage s calm original active heard rest phase)
    (hbusy : ∃ x ∈ heard, x.findsBusy) : ∀ x ∈ heard, x.1.tries = false := by
  obtain ⟨x, hx, hfinds⟩ := hbusy
  cases h with
  | approaching hearly => exact fun x hx => (hearly x hx).tries
  | entering hwent hquiet => exact hquiet
  | inside hholds => exact absurd hfinds (hholds.unhindered x hx)
  | leaving hholds => exact absurd hfinds (hholds.unhindered x hx)
  | released hholds => exact absurd hfinds (hholds.unhindered x hx)
  | refused hwent hquiet => exact hquiet

/-- What a sweep that has the lock has been heard to do it has done beside its site. -/
theorem Holds.hasDone {β : Type} {work : Site → Asking β}
    {f : Site → β → Asking (Except ProbeError ProbeResult)} {a : β}
    {p : Asking (Except ProbeError ProbeResult)} {after : Bool}
    (h : Holds s calm original site key held mid before heard)
    (hp : Reaches (besideSite s) (Probe.run (setupOf s site)) (mid, before) p (now, after))
    (hnow : now <+: heard) (hend : now = heard ∨ ∃ o, p = .done o)
    (hwork : ∀ site, Probe.run (setupOf s site) = work site >>= f site)
    (hdone : HasDone s work a heard) :
    ∃ last after', Runs (besideSite s) (work site) (mid, before) a (last, after') ∧
      last <+: heard := by
  obtain ⟨site', key', held', mid', last, htaken, hruns, hlast⟩ := hdone
  have hmid := (Dialogue.prefix_of_listening hp.left).trans hnow
  have hmid' := (Dialogue.prefix_of_listening (Dialogue.runs_iff_reaches.mp hruns)).trans hlast
  obtain ⟨rfl, rfl⟩ := h.taken.unique hmid htaken hmid'
  rw [hwork] at hp
  obtain ⟨after', hpasses⟩ := hp.passes hnow hend hruns hlast
  exact ⟨last, after', hpasses, hlast⟩

/-- What a sweep has been heard to do under the lock it has done beside its site, and unless
something was not calm the plugin was as it had been when that began. -/
theorem Stage.hasDone {β : Type} {work : Site → Asking β}
    {f : Site → β → Asking (Except ProbeError ProbeResult)} {a : β}
    (h : Stage s calm original active heard rest phase)
    (hwork : ∀ site, Probe.run (setupOf s site) = work site >>= f site)
    (hdone : HasDone s work a heard) :
    ∃ site mid before now after, Runs (besideSite s) (work site) (mid, before) a (now, after) ∧
      now <+: heard ∧ (calm → before = original) := by
  cases h with
  | approaching hearly =>
    -- Nothing has been done yet that comes under the lock.
    obtain ⟨x, hx, hnot⟩ := hdone.exists_took
    exact absurd (hearly x hx) hnot
  | entering hwent _ h =>
    -- The lock that is being asked for cannot have been taken before.
    obtain ⟨site, key, held, mid, now, htaken, hruns, hnow⟩ := hdone
    have hmid := (Dialogue.prefix_of_listening (Dialogue.runs_iff_reaches.mp hruns)).trans hnow
    obtain ⟨past, hwent', hacquire⟩ := htaken.wentFor
    obtain ⟨rfl, rfl, rfl⟩ := (hwent'.mono hmid).unique hwent
    cases (h.unique hacquire hmid).1
  | inside hholds h =>
    obtain ⟨now, after, hruns, hnow⟩ :=
      hholds.hasDone h (List.prefix_refl _) (.inl rfl) hwork hdone
    exact ⟨_, _, _, now, after, hruns, hnow, hholds.calm⟩
  | leaving hholds hended =>
    obtain ⟨o, last, _, hrun, hlast⟩ := hended
    obtain ⟨now, after, hruns, hnow⟩ :=
      hholds.hasDone (Dialogue.runs_iff_reaches.mp hrun) hlast (.inr ⟨o, rfl⟩) hwork hdone
    exact ⟨_, _, _, now, after, hruns, hnow, hholds.calm⟩
  | released hholds hended =>
    obtain ⟨o, last, _, hrun, hlast⟩ := hended
    obtain ⟨now, after, hruns, hnow⟩ :=
      hholds.hasDone (Dialogue.runs_iff_reaches.mp hrun) hlast (.inr ⟨o, rfl⟩) hwork hdone
    exact ⟨_, _, _, now, after, hruns, hnow, hholds.calm⟩
  | refused hwent _ h hlast =>
    -- Nor can one that was refused.
    obtain ⟨⟨held, heq⟩, -⟩ := hdone.acquired hwent.site hwent.early h hlast
    cases heq

/-- A sweep that has ended is not inside. -/
theorem Stage.not_isInside_of_done {a : α}
    (h : Stage s calm original active heard (.done a) phase) : ¬ IsInside phase := by
  rintro ⟨key, held, rfl⟩
  generalize hrest : Dialogue.done a = rest at h
  cases h with
  | @inside _ _ _ _ _ _ p _ _ _ _ =>
    cases p <;> cases hrest

/-- A note that was taken is what the plugin had been before. -/
theorem Stage.noted {wasActive : Bool} (h : Stage s calm original active heard rest phase)
    (hnoted : Noted s heard wasActive) (hcalm : calm) : wasActive = original := by
  obtain ⟨site, mid, before, now, after, hruns, -, hbefore⟩ := h.hasDone (fun _ => rfl) hnoted
  exact (Site.runs_isActive_responds hruns).trans (hbefore hcalm)

/-- The result of a probe says what the plugin had been before. -/
theorem Stage.tried {result : ProbeResult} (h : Stage s calm original active heard rest phase)
    (htried : TriedOut s heard (.ok result)) (hcalm : calm) (htext : ∀ x ∈ heard, ¬ x.garbles) :
    result.wasActive = original := by
  obtain ⟨site, mid, before, now, after, hruns, hnow, hbefore⟩ :=
    h.hasDone (fun _ => (bind_pure _).symm) htried
  have htruthful := Site.runs_truthful hruns (Probe.only_run _)
    fun x hx => htext x (hnow.subset hx)
  rcases Probe.run_restores (s := setupOf s site) htruthful with
    ⟨result', heq, hwas, -⟩ | ⟨f, heq, -⟩ | ⟨cause, heq⟩
  · obtain rfl := Except.ok.inj heq
    exact hwas.trans (hbefore hcalm)
  · cases heq
  · cases heq

end PluginSweep.Sweep
