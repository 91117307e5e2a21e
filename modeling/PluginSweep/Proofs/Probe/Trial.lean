/-
PluginSweep/Proofs/Probe/Trial.lean

Runs of the steps of a probe, and what the trial does to the probe's record.
The trial is everything between noting the state of the plugin and putting it
back.  It never touches the note itself, and where every tool that ran wrote
text, it fails only because a tool did not run (`within_trial`).  The putting back
fails for no other reason then either, so that nothing in a probe does
(`run_ne_undecodable`).

That is a fact about how the trial is put together from its steps, so there is
one lemma for every step and one for every way of joining steps.
-/
import PluginSweep.Probe
import PluginSweep.Proofs.Request.Garbled

namespace PluginSweep.Probe

open Dialogue (Conduct)

variable {α σ : Type} {c : Conduct Request.Reply σ}

/-! ### Runs of single steps -/

theorem runs_asking_iff {work : Asking α} {x y : ProbeResult × σ} {o : Except ProbeError α} :
    Work.Runs c (asking work) x o y ↔
      ∃ a, Dialogue.Runs c work x.2 a y.2 ∧ o = .ok a ∧ y.1 = x.1 := by
  obtain ⟨r, s⟩ := x
  obtain ⟨r', s'⟩ := y
  show Dialogue.Runs c ((StateT.lift work >>= fun a => pure (Except.ok a)).run r) s (o, r') s' ↔ _
  simp only [StateT.run_bind, Dialogue.runs_bind_iff, Prod.exists, Work.runs_stateT_lift_iff,
    StateT.run_pure, Dialogue.runs_pure_iff, Prod.mk.injEq]
  constructor
  · rintro ⟨a, _, t, ⟨hwork, rfl⟩, ⟨rfl, rfl⟩, rfl⟩
    exact ⟨a, hwork, rfl, rfl⟩
  · rintro ⟨a, hwork, rfl, rfl⟩
    exact ⟨a, r', s', ⟨hwork, rfl⟩, ⟨rfl, rfl⟩, rfl⟩

/-- The work that has to follow is run wherever the first ended, and if it fails, that is the
failure of both. -/
theorem runs_ensuring_iff {work : Probing α} {after : Probing Unit} {x y : ProbeResult × σ}
    {o : Except ProbeError α} :
    Work.Runs c (ensuring work after) x o y ↔
      ∃ o₁ z, Work.Runs c work x o₁ z ∧
        (Work.Runs c after z (.ok ()) y ∧ o = o₁ ∨
          ∃ e, Work.Runs c after z (.error e) y ∧ o = .error e) := by
  simp only [Work.Runs, ensuring, ExceptT.run_mk, StateT.run_bind, Dialogue.runs_bind_iff,
    Prod.exists]
  constructor
  · rintro ⟨o₁, r, s, hwork, o₂, r', s', hafter, hrest⟩
    refine ⟨o₁, r, s, hwork, ?_⟩
    -- The outcome of the first work stands, unless what has to follow fails.
    match o₂ with
    | .ok () =>
      obtain ⟨heq, hs⟩ := Dialogue.runs_pure_iff.mp hrest
      obtain ⟨rfl, hr⟩ := Prod.mk.inj heq
      rw [hs, hr]
      exact .inl ⟨hafter, rfl⟩
    | .error e =>
      obtain ⟨heq, hs⟩ := Dialogue.runs_pure_iff.mp hrest
      obtain ⟨rfl, hr⟩ := Prod.mk.inj heq
      rw [hs, hr]
      exact .inr ⟨e, hafter, rfl⟩
  · rintro ⟨o₁, r, s, hwork, ⟨hafter, rfl⟩ | ⟨e, hafter, rfl⟩⟩
    · exact ⟨o, r, s, hwork, .ok (), y.1, y.2, hafter, Dialogue.runs_pure_iff.mpr ⟨rfl, rfl⟩⟩
    · exact ⟨o₁, r, s, hwork, .error e, y.1, y.2, hafter, Dialogue.runs_pure_iff.mpr ⟨rfl, rfl⟩⟩

/-! ### What the trial keeps -/

/-- The surroundings never bring output that is no text. -/
def Textual (c : Conduct Request.Reply σ) : Prop :=
  ∀ s command l t, c s (.launch command) l t → l ≠ .undecodable

/-- The failure is that of a tool that did not run. -/
def ToolFailed (e : ProbeError) : Prop :=
  ∃ f, e = .failure f

/-- The note on the state of the plugin is as given. -/
def Noted (active : Bool) (x : ProbeResult × σ) : Prop :=
  x.1.wasActive = active

theorem textual_heardText : Textual History.heardText := by
  rintro past command l now ⟨hreply, hnot⟩ rfl
  exact hnot ((History.garbled_of_heard_launch hreply).mpr (.inr rfl))

variable {active : Bool}

/-- After a question only those replies matter that the surroundings can give. -/
theorem within_asking_bind {β : Type} {work : Asking α} {f : α → Probing β} {given : α → Prop}
    (hwork : ∀ s a t, Dialogue.Runs c work s a t → given a)
    (hf : ∀ a, given a → Work.Within c (Noted active) ToolFailed (f a)) :
    Work.Within c (Noted active) ToolFailed (asking work >>= f) := by
  intro x o y hx h
  rcases Work.runs_bind_iff.mp h with ⟨a, z, hask, hrest⟩ | ⟨e, hask, -⟩
  · obtain ⟨a', hrun, heq, hz⟩ := runs_asking_iff.mp hask
    obtain rfl := Except.ok.inj heq
    refine hf a (hwork _ _ _ hrun) z o y ?_ hrest
    rw [Noted, hz]
    exact hx
  · obtain ⟨a, -, heq, -⟩ := runs_asking_iff.mp hask
    cases heq

theorem within_asking (work : Asking α) :
    Work.Within c (Noted active) ToolFailed (asking work) := by
  rw [← bind_pure (asking work)]
  exact within_asking_bind (fun _ _ _ _ => trivial) fun a _ => Work.within_pure a

theorem within_running {work : Asking (Except LaunchError α)}
    (hwork : ∀ s o t, Dialogue.Runs c work s o t → o ≠ .error .undecodable) :
    Work.Within c (Noted active) ToolFailed (running work) := by
  refine within_asking_bind hwork fun o ho => ?_
  match o with
  | .ok a => exact Work.within_pure a
  | .error (.failure f) => exact Work.within_throw ⟨f, rfl⟩
  | .error .undecodable => exact absurd rfl ho

theorem within_ensuring {work : Probing α} {after : Probing Unit} {I : ProbeResult × σ → Prop}
    {E : ProbeError → Prop} (hwork : Work.Within c I E work) (hafter : Work.Within c I E after) :
    Work.Within c I E (ensuring work after) := by
  intro x o y hx h
  obtain ⟨o₁, z, hrun, hrest⟩ := runs_ensuring_iff.mp h
  obtain ⟨hz, hE⟩ := hwork x o₁ z hx hrun
  rcases hrest with ⟨hafterRun, rfl⟩ | ⟨e, hafterRun, rfl⟩
  · exact ⟨(hafter z _ y hz hafterRun).1, hE⟩
  · obtain ⟨hy, hE'⟩ := hafter z _ y hz hafterRun
    refine ⟨hy, fun e' heq => ?_⟩
    obtain rfl := Except.error.inj heq
    exact hE' e rfl

/-- A launch never brings output that is no text, where no tool writes such. -/
theorem act_ne_undecodable (hc : Textual c) {site : Site} {action : SiteAction} (s : σ)
    (o : Except LaunchError ToolResult) (t : σ) (h : Dialogue.Runs c (site.act action) s o t) :
    o ≠ .error .undecodable := by
  obtain ⟨l, hreply, rfl⟩ := Site.runs_act_iff.mp h
  rw [ne_eq, Launch.result_eq_undecodable_iff]
  exact hc _ _ _ _ hreply

theorem within_note (line : String) :
    Work.Within c (Noted active) ToolFailed (note line) :=
  Work.within_modify fun _ _ h => h

theorem within_fail : Work.Within c (Noted active) ToolFailed fail :=
  Work.within_modify fun _ _ h => h

theorem within_toggle (hc : Textual c) (s : Setup) (on : Bool) (label : String) (quiet : Bool) :
    Work.Within c (Noted active) ToolFailed (toggle s on label quiet) := by
  unfold toggle
  refine Work.Within.bind (within_running (act_ne_undecodable hc)) fun r => ?_
  refine Work.Within.bind (within_note _) fun _ => ?_
  split
  · dsimp only
    split
    · refine Work.Within.bind (within_note _) fun _ => ?_
      exact Work.Within.bind (within_asking _) fun _ => Work.within_pure _
    · exact Work.Within.bind (within_asking _) fun _ => Work.within_pure _
  · exact Work.within_pure _

theorem within_setFlag (hc : Textual c) (s : Setup) (label name value : String) :
    Work.Within c (Noted active) ToolFailed (setFlag s label name value) := by
  unfold setFlag
  refine within_asking_bind (act_ne_undecodable hc) fun o ho => ?_
  -- What follows the launch is the same for a result and for a tool that did not run.
  have hrecord : ∀ outcome : Except StepFailure ToolResult,
      Work.Within c (Noted active) ToolFailed (do
        note (label ++ " " ++ name ++ "=" ++ value ++ ": " ++ flagStatus outcome)
        if flagStatus outcome != "ok" then
          asking (Asking.warn (.flagFailed label name value (flagStatus outcome)))
        pure (outcome.toOption.any ToolResult.ok)) := by
    intro outcome
    refine Work.Within.bind (within_note _) fun _ => ?_
    split
    · exact Work.Within.bind (within_asking _) fun _ => Work.within_pure _
    · exact Work.within_pure _
  match o with
  | .ok r => exact Work.Within.bind (Work.within_pure _) fun outcome => hrecord outcome
  | .error (.failure f) =>
    exact Work.Within.bind (Work.within_pure _) fun outcome => hrecord outcome
  | .error .undecodable => exact absurd rfl ho

theorem within_setFlags (hc : Textual c) (s : Setup) (label : String)
    (flags : List (String × String)) :
    Work.Within c (Noted active) ToolFailed (setFlags s label flags) := by
  induction flags with
  | nil => exact Work.within_pure _
  | cons flag rest ih =>
    refine Work.Within.bind (within_setFlag hc s label flag.1 flag.2) fun _ => ?_
    exact Work.Within.bind ih fun _ => Work.within_pure _

theorem within_activateDebugging (hc : Textual c) (s : Setup) :
    Work.Within c (Noted active) ToolFailed (activateDebugging s) := by
  unfold activateDebugging
  refine Work.Within.bind (within_setFlags hc s _ _) fun ok => ?_
  split
  · refine Work.Within.bind (within_running (act_ne_undecodable hc)) fun r => ?_
    refine Work.Within.bind (Work.within_modify fun _ _ h => h) fun _ => ?_
    refine Work.Within.bind (within_note _) fun _ => ?_
    have hlast : Work.Within c (Noted active) ToolFailed
        (discard (running (s.site.setActive s.slug false true))) :=
      Work.Within.bind (within_running (act_ne_undecodable hc)) fun _ => Work.within_pure _
    dsimp only
    split
    · exact Work.Within.bind within_fail fun _ => hlast
    · exact hlast
  · exact within_fail

theorem within_resetFlags (hc : Textual c) (s : Setup) :
    Work.Within c (Noted active) ToolFailed (resetFlags s) := by
  refine Work.Within.bind (within_setFlags hc s _ _) fun ok => ?_
  split
  · exact within_fail
  · exact Work.within_pure _

theorem within_toggles (hc : Textual c) (s : Setup) :
    Work.Within c (Noted active) ToolFailed (toggles s) := by
  refine Work.Within.bind (within_toggle hc s _ _ _) fun _ => ?_
  split
  · refine Work.Within.bind (within_toggle hc s _ _ _) fun _ => ?_
    split
    · exact within_toggle hc s _ _ _
    · exact Work.within_pure _
  · exact Work.within_pure _

/-- **The trial keeps the note on the state of the plugin**, and fails only because a tool did
not run. -/
theorem within_trial (hc : Textual c) (s : Setup) :
    Work.Within c (Noted active) ToolFailed (trial s) := by
  refine Work.Within.bind (within_toggles hc s) fun passed => ?_
  refine Work.Within.bind (Work.within_modify fun _ _ h => h) fun _ => ?_
  split
  · exact within_ensuring (within_activateDebugging hc s) (within_resetFlags hc s)
  · exact Work.within_pure _

/-! ### Putting the plugin back -/

variable {s : Setup} {x y : ProbeResult × σ}

/-- The ways in which putting the plugin back goes. -/
inductive PutsBack (c : Conduct Request.Reply σ) (s : Setup) (wasActive : Bool) (before : σ)
    (o : Except LaunchError Bool) (after : σ) : Prop
  /-- The first question about the plugin is not answered. -/
  | unanswered {e : LaunchError}
      (hfirst : Dialogue.Runs c (s.site.isActive s.slug) before (.error e) after)
      (ho : o = .error e)
  /-- The plugin is as it was already. -/
  | asBefore (hfirst : Dialogue.Runs c (s.site.isActive s.slug) before (.ok wasActive) after)
      (ho : o = .ok true)
  /-- The plugin cannot be switched. -/
  | stuck {active : Bool} {e : LaunchError} {t : σ}
      (hfirst : Dialogue.Runs c (s.site.isActive s.slug) before (.ok active) t)
      (hne : active ≠ wasActive)
      (hswitch : Dialogue.Runs c (s.site.setActive s.slug wasActive true) t (.error e) after)
      (ho : o = .error e)
  /-- The plugin is switched, and looked at once more. -/
  | switched {active : Bool} {r : ToolResult} {last : Except LaunchError Bool} {t u : σ}
      (hfirst : Dialogue.Runs c (s.site.isActive s.slug) before (.ok active) t)
      (hne : active ≠ wasActive)
      (hswitch : Dialogue.Runs c (s.site.setActive s.slug wasActive true) t (.ok r) u)
      (hlast : Dialogue.Runs c (s.site.isActive s.slug) u last after)
      (ho : o = last.map (· == wasActive))

theorem putsBack_of_runs {wasActive : Bool} {before after : σ} {o : Except LaunchError Bool}
    (h : Dialogue.Runs c (putBack s wasActive) before o after) :
    PutsBack c s wasActive before o after := by
  simp only [putBack, ExceptT.run_bind, ExceptT.run_mk, Dialogue.runs_bind_iff] at h
  obtain ⟨first, t, hfirst, h⟩ := h
  -- What the plugin is now decides whether there is anything to do.
  cases first with
  | error e =>
    obtain ⟨rfl, rfl⟩ := Dialogue.runs_pure_iff.mp h
    exact .unanswered hfirst rfl
  | ok active =>
    dsimp only at h
    split at h
    · -- It is as it was.
      rename_i heq
      obtain ⟨rfl, rfl⟩ := Dialogue.runs_pure_iff.mp h
      exact .asBefore (heq ▸ hfirst) rfl
    · -- It is not, and is switched.
      rename_i hne
      simp only [ExceptT.run_bind, ExceptT.run_mk, Dialogue.runs_bind_iff] at h
      obtain ⟨switched, u, hswitch, h⟩ := h
      cases switched with
      | error e =>
        obtain ⟨rfl, rfl⟩ := Dialogue.runs_pure_iff.mp h
        exact .stuck hfirst hne hswitch rfl
      | ok r =>
        dsimp only at h
        rw [Dialogue.runs_bind_iff] at h
        obtain ⟨last, v, hlast, h⟩ := h
        cases last with
        | error e =>
          obtain ⟨rfl, rfl⟩ := Dialogue.runs_pure_iff.mp h
          exact .switched hfirst hne hswitch hlast rfl
        | ok active' =>
          obtain ⟨rfl, rfl⟩ := Dialogue.runs_pure_iff.mp h
          exact .switched hfirst hne hswitch hlast rfl

/-- How a probe goes on from what came of putting the plugin back. -/
def backOutcome (slug : String) (wasActive : Bool) :
    Except LaunchError Bool → Except ProbeError Unit
  | .ok true => .ok ()
  | .ok false => .error (.notRestored slug wasActive none)
  | .error (.failure f) => .error (.notRestored slug wasActive (some f))
  | .error .undecodable => .error .undecodable

/-- The plugin is put back as noted.  That touches neither the note nor whether the probe counts
as passed. -/
theorem exists_back_of_restore {o : Except ProbeError Unit} (h : Work.Runs c (restore s) x o y) :
    ∃ back, Dialogue.Runs c (putBack s x.1.wasActive) x.2 back y.2 ∧
      o = backOutcome s.slug x.1.wasActive back ∧
      y.1.wasActive = x.1.wasActive ∧ y.1.passed = x.1.passed := by
  rw [restore, Work.runs_bind_iff] at h
  rcases h with ⟨_, _, hget, h⟩ | ⟨e, hget, -⟩
  · obtain ⟨heq, rfl⟩ := Work.runs_get_iff.mp hget
    obtain rfl := Except.ok.inj heq
    rcases Work.runs_bind_iff.mp h with ⟨back, ⟨r, t⟩, hask, h⟩ | ⟨e, hask, -⟩
    · obtain ⟨_, hput, heq, hr⟩ := runs_asking_iff.mp hask
      obtain rfl := Except.ok.inj heq
      obtain rfl : r = _ := hr
      refine ⟨back, ?_⟩
      -- Only if the plugin is as noted does the probe go on.
      rcases back with (f | -) | (- | -)
      · obtain ⟨rfl, rfl⟩ := Work.runs_throw_iff.mp h
        exact ⟨hput, rfl, rfl, rfl⟩
      · obtain ⟨rfl, rfl⟩ := Work.runs_throw_iff.mp h
        exact ⟨hput, rfl, rfl, rfl⟩
      · obtain ⟨rfl, rfl⟩ := Work.runs_throw_iff.mp h
        exact ⟨hput, rfl, rfl, rfl⟩
      · obtain ⟨rfl, rfl⟩ := Work.runs_modify_iff.mp h
        exact ⟨hput, rfl, rfl, rfl⟩
    · obtain ⟨_, -, heq, -⟩ := runs_asking_iff.mp hask
      cases heq
  · cases (Work.runs_get_iff.mp hget).1

/-! ### Probes in which all is text -/

/-- What comes of the work is never that something is no text. -/
def Legible (c : Conduct Request.Reply σ) (work : ExceptT LaunchError Asking α) : Prop :=
  ∀ before o after, Dialogue.Runs c work.run before o after → o ≠ .error .undecodable

theorem legible_pure (a : α) : Legible c (pure a) := by
  intro before o after h
  obtain ⟨rfl, -⟩ := Dialogue.runs_pure_iff.mp h
  exact fun heq => by cases heq

theorem Legible.bind {β : Type} {work : ExceptT LaunchError Asking α}
    {f : α → ExceptT LaunchError Asking β} (hwork : Legible c work) (hf : ∀ a, Legible c (f a)) :
    Legible c (work >>= f) := by
  intro before o after h
  rw [ExceptT.run_bind] at h
  obtain ⟨first, between, hfirst, hrest⟩ := Dialogue.runs_bind_iff.mp h
  have hne : first ≠ .error .undecodable := hwork _ _ _ hfirst
  cases first with
  | ok a => exact hf a _ _ _ hrest
  | error e =>
    obtain ⟨rfl, -⟩ := Dialogue.runs_pure_iff.mp hrest
    exact fun heq => hne (congrArg Except.error (Except.error.inj heq))

theorem legible_act (hc : Textual c) (site : Site) (action : SiteAction) :
    Legible c (ExceptT.mk (site.act action)) :=
  fun before o after h => act_ne_undecodable hc before o after h

theorem legible_isActive (hc : Textual c) (site : Site) (slug : String) :
    Legible c (ExceptT.mk (site.isActive slug)) := by
  intro before o after h
  obtain ⟨launched, between, hact, hmap⟩ := Dialogue.runs_bind_iff.mp h
  obtain ⟨rfl, -⟩ := Dialogue.runs_pure_iff.mp hmap
  have hne : launched ≠ .error .undecodable := act_ne_undecodable hc _ _ _ hact
  cases launched with
  | ok r => exact fun heq => by cases heq
  | error e => exact fun heq => hne (congrArg Except.error (Except.error.inj heq))

theorem legible_putBack (hc : Textual c) (wasActive : Bool) :
    Legible c (ExceptT.mk (putBack s wasActive)) := by
  show Legible c (do
    if (← ExceptT.mk (s.site.isActive s.slug)) = wasActive then pure true
    else
      let _ ← ExceptT.mk (s.site.setActive s.slug wasActive true)
      pure ((← ExceptT.mk (s.site.isActive s.slug)) == wasActive))
  refine (legible_isActive hc s.site s.slug).bind fun active => ?_
  split
  · exact legible_pure _
  · refine (legible_act hc s.site _).bind fun _ => ?_
    exact (legible_isActive hc s.site s.slug).bind fun _ => legible_pure _

theorem restore_ne_undecodable (hc : Textual c) {e : ProbeError}
    (h : Work.Runs c (restore s) x (.error e) y) : e ≠ .undecodable := by
  obtain ⟨back, hback, ho, -⟩ := exists_back_of_restore h
  have hne : back ≠ .error .undecodable := legible_putBack hc _ _ _ _ hback
  rintro rfl
  rcases back with (f | -) | (- | -)
  · cases ho
  · exact hne rfl
  · cases ho
  · cases ho

/-- **Where all that tools write is text, no probe ends because something is not.** -/
theorem run_ne_undecodable (hc : Textual c) {before after : σ}
    {o : Except ProbeError ProbeResult} (h : Dialogue.Runs c (run s) before o after) :
    o ≠ .error .undecodable := by
  obtain ⟨first, t, hfirst, h⟩ := Dialogue.runs_bind_iff.mp h
  have hne : first ≠ .error .undecodable := legible_isActive hc s.site s.slug _ _ _ hfirst
  match first with
  | .error .undecodable => exact absurd rfl hne
  | .error (.failure f) =>
    obtain ⟨rfl, -⟩ := Dialogue.runs_pure_iff.mp h
    exact fun heq => by cases heq
  | .ok wasActive =>
    obtain ⟨⟨outcome, result⟩, u, hrun, hend⟩ := Dialogue.runs_bind_iff.mp h
    obtain ⟨rfl, -⟩ := Dialogue.runs_pure_iff.mp hend
    -- The failure is that of the trial, unless the putting back has failed as well.
    have houtcome : ∀ e, outcome = .error e → e ≠ .undecodable := by
      rintro e rfl
      obtain ⟨o₁, z, htrial, hrest⟩ := runs_ensuring_iff (x := (_, _)) (y := (_, _)).mp hrun
      rcases hrest with ⟨-, rfl⟩ | ⟨e', hback, heq⟩
      · obtain ⟨f, rfl⟩ := (within_trial hc s _ _ z rfl htrial).2 e rfl
        exact ProbeError.noConfusion
      · obtain rfl := Except.error.inj heq
        exact restore_ne_undecodable hc hback
    cases outcome with
    | ok u => exact fun heq => by cases heq
    | error e => exact fun heq => houtcome e rfl (Except.error.inj heq)

end PluginSweep.Probe
