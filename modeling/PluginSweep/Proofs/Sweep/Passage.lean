/-
PluginSweep/Proofs/Sweep/Passage.lean

From stage to stage.  Every reply to a sweep leads from one stage of trying the plugin
out to the next (`Stage.goes`).  What it does to the lock is a step of an attempt on the
site, or nothing.  Only a sweep that has the lock starts commands for trying the plugin
out, and it has not done so before it took the lock.  And when it begins to give the lock
back, the plugin is as it was when the lock was taken, unless the sweep has said that it
is not.
-/
import PluginSweep.Proofs.Sweep.Stage

namespace PluginSweep.Sweep

open Dialogue (Runs Reaches listening)

variable {α : Type} {s : Settings} {calm : Prop} {original active active' before : Bool}
  {site : Site} {key : String} {held : HeldLock} {past mid now heard : List Said}
  {phase phase' : Option (String × Lock.Phase)} {process : Nat} {t t' : LockTable}

/-- What a reply does to the attempt of a sweep, and to the table of locks. -/
inductive Advances (dir : Path) (process : Nat) (t : LockTable) :
    Option (String × Lock.Phase) → Option (String × Lock.Phase) → LockTable → Prop
  | stays (phase : Option (String × Lock.Phase)) : Advances dir process t phase phase t
  | begins {key : String} {ph : Option Lock.Phase} {t' : LockTable}
      (h : Lock.Phase.Goes process (.entering (Lock.acquire dir key)) t ph t') :
      Advances dir process t none (ph.map (Prod.mk key)) t'
  | goes {key : String} {ph : Lock.Phase} {ph' : Option Lock.Phase} {t' : LockTable}
      (h : ph.Goes process t ph' t') :
      Advances dir process t (some (key, ph)) (ph'.map (Prod.mk key)) t'
  /-- The work under the lock is over, and the lock begins to be given back. -/
  | ends {key : String} {held : HeldLock} {ph : Option Lock.Phase} {t' : LockTable}
      (h : Lock.Phase.Goes process (.leaving (Lock.release held)) t ph t') :
      Advances dir process t (some (key, .inside held)) (ph.map (Prod.mk key)) t'

/-- What a reply to a sweep comes to, when so much has been heard of it then and `rest` is left. -/
structure Comes (s : Settings) (calm : Prop) (original active' : Bool) (process : Nat)
    (t t' : LockTable) (heard now : List Said) (rest : Asking α)
    (phase phase' : Option (String × Lock.Phase)) : Prop where
  advances : Advances s.lockDirectory process t phase phase' t'
  /-- The attempt is one on the site that the sweep went for. -/
  took : ∀ key ph, phase' = some (key, ph) →
    ∃ taken, (⟨.lock (.takeLocal key), taken⟩ : Said) ∈ now
  /-- It is at a stage again, if the plugin is as it was before when the lock is taken. -/
  stage : (¬ IsInside phase → IsInside phase' → calm → active' = original) →
    Stage s calm original active' now rest phase'
  /-- A sweep that comes inside has done nothing yet. -/
  fresh : ¬ IsInside phase → IsInside phase' → ∀ x ∈ now, x.1.tries = false
  /-- When it comes out again the plugin is as it was, unless it has said that it is not. -/
  restored : IsInside phase → ¬ IsInside phase' → calm → (∀ x ∈ heard, ¬ x.garbles) →
    ¬ Raised s heard → active' = original

theorem forall_said {P : Said → Prop} (h : ∀ x ∈ heard, P x) {q : Request} {r : q.Reply}
    (hsaid : P ⟨q, r⟩) : ∀ x ∈ heard ++ [⟨q, r⟩], P x := by
  intro x hx
  rcases List.mem_append.mp hx with hx | hx
  · exact h x hx
  · rw [List.mem_singleton.mp hx]
    exact hsaid

theorem forall_key {P : String → Prop} (h : P key) {ph : Option Lock.Phase} :
    ∀ key' ph', ph.map (Prod.mk key) = some (key', ph') → P key' := by
  rintro key' ph' heq
  cases ph <;> cases heq
  exact h

/-- Taking the lock goes on, or has come to its end. -/
theorem Stage.entered {l : Locking (Except LockError HeldLock)}
    {k : Except LockError HeldLock → Asking α} (hwent : WentFor s site key past heard)
    (hquiet : ∀ x ∈ heard, x.1.tries = false)
    (h : Reaches listening (Asking.locking (Lock.acquire s.lockDirectory key)) past
      (Asking.locking l) heard) (hk : UnderLock s site k)
    (hcalm : IsInside ((Lock.Phase.entering l).settled.map (Prod.mk key)) → calm →
      active = original) :
    Stage s calm original active heard (Asking.locking l >>= k)
      ((Lock.Phase.entering l).settled.map (Prod.mk key)) := by
  match l with
  | .ask step next => exact .entering hwent hquiet h hk
  | .done (.error e) =>
    -- The lock is refused.
    have hruns := Dialogue.runs_iff_reaches.mpr h
    exact .refused hwent hquiet hruns (List.prefix_refl _) (hk.1 e)
  | .done (.ok held) =>
    -- It is taken, and nothing has been heard by then of a lock that is busy.
    have hruns := Dialogue.runs_iff_reaches.mpr h
    obtain ⟨onward, honward, hrest⟩ := hk.2 held
    have hholds : Holds s calm original site key held heard active heard := by
      refine ⟨⟨hwent.site, past, hwent.early, hruns⟩, ?_, hcalm ⟨key, held, rfl⟩⟩
      obtain ⟨handle, rfl⟩ := Lock.runs_acquire_ok hruns
      intro x hx hfinds
      simp only [List.mem_append, List.mem_cons, List.not_mem_nil, or_false] at hx
      rcases hx with (hx | rfl) | rfl | rfl | rfl
      · exact Said.not_findsBusy_of_early (hwent.early x hx) hfinds
      all_goals cases hfinds
    show Stage s calm original active heard (k (.ok held)) _
    rw [hrest]
    exact .inside hholds (.start _ _) honward

/-- Giving the lock back goes on, or has come to its end. -/
theorem Stage.left {l : Locking Unit} {onward : Asking α}
    (hholds : Holds s calm original site key held mid before heard)
    (hended : Ended s site mid before heard) (hgives : l.Only Lock.Gives)
    (honward : onward.Only Request.Early) :
    Stage s calm original active heard (Asking.locking l >>= fun _ => onward)
      ((Lock.Phase.leaving l).settled.map (Prod.mk key)) := by
  cases l with
  | done u => exact .released hholds hended honward
  | ask step next => exact .leaving hholds hended hgives honward

/-- What is early leaves a sweep outside, and the locks as they are. -/
theorem comes_early {q : Request} {r : q.Reply} {rest : Asking α}
    (hlocks : Request.Locks process t q r t') (hq : q.Early)
    (hstage : Stage s calm original active' (heard ++ [⟨q, r⟩]) rest none) :
    Comes s calm original active' process t t' heard (heard ++ [⟨q, r⟩]) rest none none where
  advances := by
    rw [hlocks.eq_of_early hq]
    exact .stays none
  took _ _ hnone := by cases hnone
  stage _ := hstage
  fresh _ hinside := absurd hinside not_isInside_none
  restored hinside := absurd hinside not_isInside_none

section Goes

variable {q : Request} {next : q.Reply → Asking α} {r : q.Reply}

theorem comes_of_approaching (hearly : ∀ x ∈ heard, x.1.Early) (h : Approaching s (.ask q next))
    (hlocks : Request.Locks process t q r t')
    (hsite : Site.responds s.target.name active q r active') :
    ∃ phase', Comes s calm original active' process t t' heard (heard ++ [⟨q, r⟩]) (next r)
      none phase' := by
  -- What comes early moves neither locks nor the plugin.
  have hgoesOn : q.Early → Approaching s (next r) →
      ∃ phase', Comes s calm original active' process t t' heard (heard ++ [⟨q, r⟩]) (next r)
        none phase' :=
    fun hq hrest => ⟨none, comes_early hlocks hq (.approaching (forall_said hearly hq) hrest)⟩
  generalize hwhole : Dialogue.ask q next = whole at h
  cases h with
  | early h =>
    subst hwhole
    exact hgoesOn h.1 (.early (h.2 r))
  | ask hq h =>
    cases hwhole
    exact hgoesOn hq (h r)
  | @lock site key k hprobed hk =>
    -- The sweep goes for the lock.
    cases hwhole
    have hwent : WentFor s site key heard (heard ++ [⟨.lock (.takeLocal key), r⟩]) :=
      ⟨hprobed, hearly, r, List.prefix_refl _⟩
    have hquiet := forall_said (q := .lock (.takeLocal key)) (r := r)
      (fun x hx => (hearly x hx).tries) rfl
    have hgoes : Lock.Phase.Goes process (.entering (Lock.acquire s.lockDirectory key)) t _ t' :=
      .enters hlocks
    refine ⟨_, .begins hgoes, forall_key hwent.mem, fun hcalm => ?_, fun _ _ => hquiet,
      fun hinside => absurd hinside not_isInside_none⟩
    exact .entered hwent hquiet (.ask rfl (.start _ _)) hk (hcalm not_isInside_none)

theorem comes_of_entering {k : Except LockError HeldLock → Asking α} {step : LockStep}
    {next : step.Reply → Locking (Except LockError HeldLock)} {r : step.Reply}
    (hwent : WentFor s site key past heard) (hquiet : ∀ x ∈ heard, x.1.tries = false)
    (h : Reaches listening (Asking.locking (Lock.acquire s.lockDirectory key)) past
      (Asking.locking (.ask step next)) heard) (hk : UnderLock s site k)
    (hlocks : LockTable.May process t step r t') :
    ∃ phase', Comes s calm original active process t t' heard (heard ++ [⟨.lock step, r⟩])
      (Asking.locking (next r) >>= k) (some (key, .entering (.ask step next))) phase' := by
  have houtside : ¬ IsInside (some (key, Lock.Phase.entering (.ask step next))) := by
    rintro ⟨_, _, heq⟩
    cases heq
  have hquiet' := forall_said (q := .lock step) (r := r) hquiet rfl
  have hwent' := hwent.mono (List.prefix_append heard [⟨.lock step, r⟩])
  have hnext : Reaches listening (Asking.locking (Lock.acquire s.lockDirectory key)) past
      (Asking.locking (next r)) (heard ++ [⟨.lock step, r⟩]) := h.next rfl
  refine ⟨_, .goes (.enters hlocks), forall_key hwent'.mem, fun hcalm => ?_, fun _ _ => hquiet',
    fun hinside => absurd hinside houtside⟩
  exact .entered hwent' hquiet' hnext hk (hcalm houtside)

theorem Holds.said (h : Holds s calm original site key held mid before heard) {r : q.Reply}
    (hfree : ¬ Said.findsBusy ⟨q, r⟩) :
    Holds s calm original site key held mid before (heard ++ [⟨q, r⟩]) :=
  ⟨h.taken, forall_said h.unhindered hfree, h.calm⟩

theorem Ended.said (h : Ended s site mid before heard) (x : Said) :
    Ended s site mid before (heard ++ [x]) := by
  obtain ⟨o, now, after, hruns, hnow⟩ := h
  exact ⟨o, now, after, hruns, hnow.trans (List.prefix_append _ _)⟩

/-- While the lock is given back nothing else happens. -/
theorem comes_of_leaving {onward : Asking α} {step : LockStep}
    {next : step.Reply → Locking Unit} {r : step.Reply} {ph : Lock.Phase}
    (hholds : Holds s calm original site key held mid before heard)
    (hended : Ended s site mid before heard)
    (hgives : (Dialogue.ask step next : Locking Unit).Only Lock.Gives)
    (honward : onward.Only Request.Early)
    (hadvances : Advances s.lockDirectory process t (some (key, ph))
      ((Lock.Phase.leaving (next r)).settled.map (Prod.mk key)) t')
    (hrestored : IsInside (some (key, ph)) → calm → (∀ x ∈ heard, ¬ x.garbles) →
      ¬ Raised s heard → active = original) :
    ∃ phase', Comes s calm original active process t t' heard (heard ++ [⟨.lock step, r⟩])
      (Asking.locking (next r) >>= fun _ => onward) (some (key, ph)) phase' := by
  have hstage : Stage s calm original active (heard ++ [⟨.lock step, r⟩])
      (Asking.locking (next r) >>= fun _ => onward)
      ((Lock.Phase.leaving (next r)).settled.map (Prod.mk key)) :=
    .left (hholds.said (hgives.1.not_findsBusy r)) (hended.said _) (hgives.2 r) honward
  exact ⟨_, hadvances, fun _ _ heq => (heq ▸ hstage).took, fun _ => hstage,
    fun _ hinside => absurd hinside (not_isInside_leaving _), fun hinside _ => hrestored hinside⟩

/-- A sweep that comes to the end of trying the plugin out has put it back, or says that it has
not. -/
theorem restored_of_done {o : Except ProbeError ProbeResult}
    (hholds : Holds s calm original site key held mid before heard)
    (h : Runs (besideSite s) (Probe.run (setupOf s site)) (mid, before) o (heard, active))
    (hcalm : calm) (htext : ∀ x ∈ heard, ¬ x.garbles) (hraised : ¬ Raised s heard) :
    active = original := by
  have htruthful := Site.runs_truthful h (Probe.only_run _) htext
  rcases Probe.run_restores (s := setupOf s site) htruthful with
    ⟨result, -, -, hback⟩ | ⟨f, -, hback⟩ | ⟨cause, rfl⟩
  · exact hback.trans (hholds.calm hcalm)
  · exact hback.trans (hholds.calm hcalm)
  · refine absurd ⟨s.target.name, before, cause, ?_⟩ hraised
    exact ⟨site, key, held, mid, heard, hholds.taken, h.left, List.prefix_refl _⟩

theorem comes_of_inside {p : Asking (Except ProbeError ProbeResult)}
    {onward : Except ProbeError ProbeResult → Asking α}
    (hholds : Holds s calm original site key held mid before heard)
    (h : Reaches (besideSite s) (Probe.run (setupOf s site)) (mid, before) p (heard, active))
    (honward : ∀ o, (onward o).Only Request.Early)
    (hrest : Dialogue.ask q next = do
      let o ← p
      Asking.locking (Lock.release held)
      onward o)
    (hlocks : Request.Locks process t q r t')
    (hsite : Site.responds s.target.name active q r active') :
    ∃ phase', Comes s calm original active' process t t' heard (heard ++ [⟨q, r⟩]) (next r)
      (some (key, .inside held)) phase' := by
  cases p with
  | ask q' next' =>
    -- The probe goes on.
    cases hrest
    have htrying : q.Trying := (h.only (Probe.only_run _)).1
    have hsaid := hholds.said (r := r) (Said.not_findsBusy_of_trying htrying)
    have hnext : Reaches (besideSite s) (Probe.run (setupOf s site)) (mid, before) (next' r)
        (heard ++ [⟨q, r⟩], active') := h.next ⟨rfl, hsite⟩
    have hstage : Stage s calm original active' (heard ++ [⟨q, r⟩]) _ (some (key, .inside held)) :=
      .inside hsaid hnext honward
    refine ⟨some (key, .inside held), ?_, fun _ _ heq => (heq ▸ hstage).took, fun _ => hstage,
      fun houtside => absurd ⟨_, _, rfl⟩ houtside, fun _ houtside => absurd ⟨_, _, rfl⟩ houtside⟩
    rw [hlocks.eq_of_trying htrying]
    exact .stays _
  | done o =>
    -- It has ended, and the lock is given back.
    cases hrest
    have hruns := Dialogue.runs_iff_reaches.mpr h
    obtain rfl : active' = active := hsite
    have hended : Ended s site mid before heard :=
      ⟨o, heard, active', hruns, List.prefix_refl _⟩
    exact comes_of_leaving hholds hended (Lock.only_release held) (honward o)
      (.ends (.leaves hlocks)) fun _ => restored_of_done hholds hruns

/-- **Every reply leads from one stage to the next.** -/
theorem Stage.goes (h : Stage s calm original active heard (.ask q next) phase)
    (hlocks : Request.Locks process t q r t')
    (hsite : Site.responds s.target.name active q r active') :
    ∃ phase', Comes s calm original active' process t t' heard (heard ++ [⟨q, r⟩]) (next r)
      phase phase' := by
  generalize hrest : Dialogue.ask q next = rest at h
  cases h with
  | approaching hearly h =>
    subst hrest
    exact comes_of_approaching hearly h hlocks hsite
  | entering hwent hquiet h hk =>
    cases hrest
    obtain rfl : active' = active := hsite
    exact comes_of_entering hwent hquiet h hk hlocks
  | inside hholds h honward => exact comes_of_inside hholds h honward hrest hlocks hsite
  | leaving hholds hended hgives honward =>
    cases hrest
    obtain rfl : active' = active := hsite
    refine comes_of_leaving hholds hended hgives honward (.goes (.leaves hlocks)) ?_
    rintro ⟨_, _, heq⟩
    cases heq
  | released hholds hended honly =>
    subst hrest
    have hfree := Said.not_findsBusy_of_early (x := ⟨q, r⟩) honly.1
    exact ⟨none, comes_early hlocks honly.1
      (.released (hholds.said hfree) (hended.said _) (honly.2 r))⟩
  | refused hwent hquiet h hnow honly =>
    subst hrest
    have hmono := List.prefix_append heard [⟨q, r⟩]
    exact ⟨none, comes_early hlocks honly.1 (.refused (hwent.mono hmono)
      (forall_said hquiet honly.1.tries) h (hnow.trans hmono) (honly.2 r))⟩

/-- Only a sweep that has the lock does what is part of trying the plugin out. -/
theorem Stage.isInside (h : Stage s calm original active heard (.ask q next) phase)
    (hq : q.tries = true) : IsInside phase := by
  have hearly : ¬ q.Early := Request.Trying.not_early hq
  generalize hrest : Dialogue.ask q next = rest at h
  cases h with
  | approaching _ h =>
    cases h with
    | early h =>
      subst hrest
      exact absurd h.1 hearly
    | ask hq =>
      cases hrest
      exact absurd hq hearly
    | lock =>
      cases hrest
      cases hq
  | entering =>
    cases hrest
    cases hq
  | inside => exact ⟨_, _, rfl⟩
  | leaving =>
    cases hrest
    cases hq
  | released _ _ honly =>
    subst hrest
    exact absurd honly.1 hearly
  | refused _ _ _ _ honly =>
    subst hrest
    exact absurd honly.1 hearly

end Goes

end PluginSweep.Sweep
