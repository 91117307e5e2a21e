/-
PluginSweep/Proofs/Probe/Course.lean

The course of a probe: which commands it starts, in which order, and which of
them its result counts.

    is-active?  |  off, on, off  [ flags on  [ on  [ off ] ]  flags off ]  |  putting back

The middle is the trial.  It is taken apart into five parts (`Trial`): switching
the plugin, turning debugging on, activating the plugin once more, deactivating
it, and turning debugging off.  `Trial.Fits` says which of the parts there are: a
trial that does not go as far as debugging has the first part only, and one that
does has the last part whatever happened in between.

Main result (`runs_run`): every run is such a course, unless the very first
question is not answered; and a result says that the probe was passed exactly if
every command of the trial ended well, *the deactivation after debugging apart*.

There is one lemma for each step and one for each way of joining steps, as the
definitions join them.
-/
import PluginSweep.Proofs.Probe.Trial
import PluginSweep.Proofs.Tool.Started

namespace PluginSweep.Probe

open Started

variable {α β : Type} {s : Setup} {x y : ProbeResult × List Started}

/-! ### Work that starts nothing -/

/-- The work comes to `a`, and on the way it starts nothing and leaves it open whether the probe
is passed. -/
def Silent (a : α) (w : Probing α) : Prop :=
  ∀ x o y, Work.Runs recorded w x o y → o = .ok a ∧ y.2 = x.2 ∧ y.1.passed = x.1.passed

theorem silent_pure (a : α) : Silent a (pure a : Probing α) := by
  intro x o y h
  obtain ⟨rfl, rfl⟩ := Work.runs_pure_iff.mp h
  exact ⟨rfl, rfl, rfl⟩

theorem silent_modify {f : ProbeResult → ProbeResult} (hf : ∀ r, (f r).passed = r.passed) :
    Silent () (modify f : Probing Unit) := by
  intro x o y h
  obtain ⟨rfl, rfl⟩ := Work.runs_modify_iff.mp h
  exact ⟨rfl, rfl, hf x.1⟩

theorem silent_note (line : String) : Silent () (note line) :=
  silent_modify fun _ => rfl

theorem silent_warn (w : Warning) : Silent () (asking (Asking.warn w)) := by
  intro x o y h
  obtain ⟨_, hwarn, rfl, hr⟩ := runs_asking_iff.mp h
  exact ⟨rfl, Asking.runs_warn_recorded hwarn, congrArg ProbeResult.passed hr⟩

theorem Silent.bind {a : α} {b : β} {w : Probing α} {f : α → Probing β} (hw : Silent a w)
    (hf : Silent b (f a)) : Silent b (w >>= f) := by
  intro x o y h
  rcases Work.runs_bind_iff.mp h with ⟨a', z, hfirst, hrest⟩ | ⟨e, hfirst, -⟩
  · obtain ⟨heq, hz, hpassed⟩ := hw _ _ _ hfirst
    obtain rfl := Except.ok.inj heq
    obtain ⟨ho, hy, hpassed'⟩ := hf _ _ _ hrest
    exact ⟨ho, hy.trans hz, hpassed'.trans hpassed⟩
  · cases (hw _ _ _ hfirst).1

/-- What follows silent work starts where that started. -/
theorem Silent.runs_bind {a : α} {w : Probing α} {f : α → Probing β} {o : Except ProbeError β}
    (hw : Silent a w) (h : Work.Runs recorded (w >>= f) x o y) :
    ∃ z, Work.Runs recorded (f a) z o y ∧ z.2 = x.2 ∧ z.1.passed = x.1.passed := by
  rcases Work.runs_bind_iff.mp h with ⟨a', z, hfirst, hrest⟩ | ⟨e, hfirst, -⟩
  · obtain ⟨heq, hz, hpassed⟩ := hw _ _ _ hfirst
    obtain rfl := Except.ok.inj heq
    exact ⟨z, hrest, hz, hpassed⟩
  · cases (hw _ _ _ hfirst).1

/-! ### Single commands -/

/-- A tool that must run is started once; where it does not run, the work is cut short. -/
theorem runs_running {action : SiteAction} {o : Except ProbeError ToolResult}
    (h : Work.Runs recorded (running (s.site.act action)) x o y) :
    ∃ e : Started, e.command = s.site.command action ∧ y = (x.1, x.2 ++ [e]) ∧
      ((∃ r, o = .ok r ∧ r.ok = e.endedWell) ∨
        (∃ f, o = .error (.failure f)) ∧ e.endedWell = false) := by
  obtain ⟨st, past⟩ := x
  obtain ⟨st', now⟩ := y
  rcases Work.runs_bind_iff.mp h with ⟨launched, z, hask, hrest⟩ | ⟨e, hask, -⟩
  · obtain ⟨_, hact, heq, hst⟩ := runs_asking_iff.mp hask
    obtain rfl := Except.ok.inj heq
    obtain ⟨st₁, now₁⟩ := z
    obtain rfl : st₁ = st := hst
    obtain ⟨e, hcommand, rfl, ⟨r, rfl, hok⟩ | ⟨f, rfl, hbad⟩⟩ := Site.runs_act_recorded hact
    · obtain ⟨rfl, hy⟩ := Work.runs_pure_iff.mp hrest
      exact ⟨e, hcommand, hy, .inl ⟨r, rfl, hok⟩⟩
    · obtain ⟨rfl, hy⟩ := Work.runs_throw_iff.mp hrest
      exact ⟨e, hcommand, hy, .inr ⟨⟨f, rfl⟩, hbad⟩⟩
  · obtain ⟨_, -, heq, -⟩ := runs_asking_iff.mp hask
    cases heq

/-- Switching the plugin is one command, and it tells whether that ended well. -/
theorem runs_toggle {on quiet : Bool} {label : String} {o : Except ProbeError Bool}
    (h : Work.Runs recorded (toggle s on label quiet) x o y) :
    ∃ e : Started, e.command = s.site.command (Site.toggle s.slug on quiet) ∧
      y.2 = x.2 ++ [e] ∧
      (o = .ok e.endedWell ∨ (∃ f, o = .error (.failure f)) ∧ e.endedWell = false) := by
  rcases Work.runs_bind_iff.mp h with ⟨r, z, hrun, hrest⟩ | ⟨err, hrun, rfl⟩
  · obtain ⟨e, hcommand, rfl, ⟨r', heq, hok⟩ | ⟨⟨f, heq⟩, -⟩⟩ := runs_running hrun
    · obtain rfl := Except.ok.inj heq
      -- All that is left are notes and, after a failure, a warning.
      have hquiet : Silent r.ok (do
          note (label ++ ": " ++ status r)
          if !r.ok then
            let detail := Text.trimBlank r.output
            if !detail.isEmpty then note ("  " ++ detail)
            asking (Asking.warn (.toggleFailed label s.slug detail))
          pure r.ok) := by
        refine (silent_note _).bind ?_
        split
        · dsimp only
          split
          · exact (silent_note _).bind ((silent_warn _).bind (silent_pure _))
          · exact (silent_warn _).bind (silent_pure _)
        · exact silent_pure _
      obtain ⟨rfl, hy, -⟩ := hquiet _ _ _ hrest
      exact ⟨e, hcommand, hy, .inl (congrArg Except.ok hok)⟩
    · cases heq
  · obtain ⟨e, hcommand, rfl, ⟨r, heq, -⟩ | ⟨⟨f, heq⟩, hbad⟩⟩ := runs_running hrun
    · cases heq
    · obtain rfl := Except.error.inj heq
      exact ⟨e, hcommand, rfl, .inr ⟨⟨f, rfl⟩, hbad⟩⟩

/-- Setting a flag is one command; it tells whether that ended well, and is never cut short. -/
theorem runs_setFlag {label name value : String} {o : Except ProbeError Bool}
    (h : Work.Runs recorded (setFlag s label name value) x o y) :
    ∃ e : Started, e.command = s.site.command (.setFlag name value) ∧ y.2 = x.2 ++ [e] ∧
      o = .ok e.endedWell ∧ y.1.passed = x.1.passed := by
  -- What follows the command starts nothing and raises nothing.
  have hquiet : ∀ outcome : Except StepFailure ToolResult,
      Silent (outcome.toOption.any ToolResult.ok) (do
        note (label ++ " " ++ name ++ "=" ++ value ++ ": " ++ flagStatus outcome)
        if flagStatus outcome != "ok" then
          asking (Asking.warn (.flagFailed label name value (flagStatus outcome)))
        pure (outcome.toOption.any ToolResult.ok)) := by
    intro outcome
    refine (silent_note _).bind ?_
    split
    · exact (silent_warn _).bind (silent_pure _)
    · exact silent_pure _
  rcases Work.runs_bind_iff.mp h with ⟨launched, z, hask, hrest⟩ | ⟨e, hask, -⟩
  · obtain ⟨_, hact, heq, hst⟩ := runs_asking_iff.mp hask
    obtain rfl := Except.ok.inj heq
    obtain ⟨e, hcommand, hnow, ⟨r, rfl, hok⟩ | ⟨f, rfl, hbad⟩⟩ := Site.runs_act_recorded hact
    · obtain ⟨rfl, hy, hpassed⟩ := (silent_pure (Except.ok r)).bind (hquiet _) _ _ _ hrest
      refine ⟨e, hcommand, hy.trans hnow, ?_, hpassed.trans (congrArg ProbeResult.passed hst)⟩
      exact congrArg Except.ok hok
    · obtain ⟨rfl, hy, hpassed⟩ := (silent_pure (Except.error f)).bind (hquiet _) _ _ _ hrest
      refine ⟨e, hcommand, hy.trans hnow, ?_, hpassed.trans (congrArg ProbeResult.passed hst)⟩
      rw [hbad]
      rfl
  · obtain ⟨_, -, heq, -⟩ := runs_asking_iff.mp hask
    cases heq

/-! ### Debugging -/

/-- The commands that set the flags. -/
def setting (s : Setup) (flags : List (String × String)) : List Command :=
  flags.map fun flag => s.site.command (.setFlag flag.1 flag.2)

/-- All flags are set, whatever comes of each. -/
theorem runs_setFlags {label : String} {flags : List (String × String)}
    {o : Except ProbeError Bool} (h : Work.Runs recorded (setFlags s label flags) x o y) :
    ∃ set, commands set = setting s flags ∧ y.2 = x.2 ++ set ∧
      o = .ok (set.all endedWell) ∧ y.1.passed = x.1.passed := by
  induction flags generalizing x y o with
  | nil =>
    obtain ⟨rfl, rfl⟩ := Work.runs_pure_iff.mp h
    exact ⟨[], rfl, (List.append_nil _).symm, rfl, rfl⟩
  | cons flag flags ih =>
    rcases Work.runs_bind_iff.mp h with ⟨ok, z, hone, hothers⟩ | ⟨err, hone, -⟩
    · obtain ⟨e, hcommand, hz, heq, hpassed⟩ := runs_setFlag hone
      obtain rfl := Except.ok.inj heq
      -- The others are set even if this one could not be.
      rcases Work.runs_bind_iff.mp hothers with ⟨rest, z', hrest, hend⟩ | ⟨err, hrest, -⟩
      · obtain ⟨set, hset, hz', heq, hpassed'⟩ := ih hrest
        obtain rfl := Except.ok.inj heq
        obtain ⟨rfl, rfl⟩ := Work.runs_pure_iff.mp hend
        refine ⟨e :: set, ?_, ?_, rfl, hpassed'.trans hpassed⟩
        · rw [commands_cons, hcommand, hset]
          rfl
        · rw [hz', hz, List.append_assoc]
          rfl
      · obtain ⟨set, -, -, heq, -⟩ := ih hrest
        cases heq
    · obtain ⟨e, -, -, heq, -⟩ := runs_setFlag hone
      cases heq

theorem runs_fail {o : Except ProbeError Unit} (h : Work.Runs recorded fail x o y) :
    o = .ok () ∧ y.2 = x.2 ∧ y.1.passed = false := by
  obtain ⟨rfl, rfl⟩ := Work.runs_modify_iff.mp h
  exact ⟨rfl, rfl, rfl⟩

/-- Debugging is turned off with all its flags, and a flag that cannot be reset fails the probe. -/
theorem runs_resetFlags {o : Except ProbeError Unit}
    (h : Work.Runs recorded (resetFlags s) x o y) :
    ∃ off, commands off = setting s flagsOff ∧ y.2 = x.2 ++ off ∧ o = .ok () ∧
      y.1.passed = (x.1.passed && off.all endedWell) := by
  rcases Work.runs_bind_iff.mp h with ⟨ok, z, hset, hrest⟩ | ⟨err, hset, -⟩
  · obtain ⟨off, hoff, hz, heq, hpassed⟩ := runs_setFlags hset
    obtain rfl := Except.ok.inj heq
    cases hall : off.all endedWell <;> rw [hall] at hrest
    · obtain ⟨rfl, hy, hfailed⟩ := runs_fail hrest
      exact ⟨off, hoff, hy.trans hz, rfl, by rw [hfailed, hall, Bool.and_false]⟩
    · obtain ⟨rfl, rfl⟩ := Work.runs_pure_iff.mp hrest
      exact ⟨off, hoff, hz, rfl, by rw [hpassed, hall, Bool.and_true]⟩
  · obtain ⟨off, -, -, heq, -⟩ := runs_setFlags hset
    cases heq

/-- What follows the activation with debugging on: a failure of that fails the probe, and the
plugin is deactivated, but what comes of the deactivation is not looked at. -/
theorem runs_afterActivation {r : ToolResult} {o : Except ProbeError Unit}
    (h : Work.Runs recorded (do
      modify fun result => { result with debugOutput := r.output }
      note ("activate (WP_DEBUG): " ++ status r)
      if !r.ok then fail
      discard <| running (s.site.setActive s.slug false true)) x o y) :
    ∃ e : Started, e.command = s.site.command (.deactivate s.slug true) ∧ y.2 = x.2 ++ [e] ∧
      y.1.passed = (x.1.passed && r.ok) := by
  have houtput : Silent () (modify fun result : ProbeResult =>
      { result with debugOutput := r.output }) := silent_modify fun _ => rfl
  obtain ⟨z, hnoted, hz, hpassed⟩ := houtput.runs_bind h
  obtain ⟨z', hafter, hz', hpassed'⟩ := (silent_note _).runs_bind hnoted
  -- The deactivation comes last however the activation ended.
  have hlast : ∀ {u : ProbeResult × List Started},
      Work.Runs recorded (discard (running (s.site.setActive s.slug false true))) u o y →
      ∃ e : Started, e.command = s.site.command (.deactivate s.slug true) ∧
        y = (u.1, u.2 ++ [e]) := by
    intro u hdiscard
    rcases Work.runs_bind_iff.mp hdiscard with ⟨r', v, hrun, hend⟩ | ⟨err, hrun, -⟩
    · obtain ⟨e, hcommand, rfl, -⟩ := runs_running hrun
      obtain ⟨-, rfl⟩ := Work.runs_pure_iff.mp hend
      exact ⟨e, hcommand, rfl⟩
    · obtain ⟨e, hcommand, rfl, -⟩ := runs_running hrun
      exact ⟨e, hcommand, rfl⟩
  cases hok : r.ok <;> rw [hok] at hafter
  · -- The activation did not end well, and the probe has failed by then.
    rcases Work.runs_bind_iff.mp hafter with ⟨_, u, hfail, hdiscard⟩ | ⟨err, hfail, -⟩
    · obtain ⟨-, hu, hfailed⟩ := runs_fail hfail
      obtain ⟨e, hcommand, rfl⟩ := hlast hdiscard
      exact ⟨e, hcommand, by rw [hu, hz', hz], by rw [hfailed, Bool.and_false]⟩
    · cases (runs_fail hfail).1
  · -- The activation ended well.
    obtain ⟨e, hcommand, rfl⟩ := hlast hafter
    exact ⟨e, hcommand, by rw [hz', hz], by rw [hpassed', hpassed, Bool.and_true]⟩

/-- How debugging is tried: what is started to turn it on, to activate the plugin and to deactivate
it again. -/
structure Tried (s : Setup) (on activated deactivated : List Started) : Prop where
  /-- All flags are set. -/
  setsFlags : commands on =
    [s.site.command (.setFlag "WP_DEBUG" "true"), s.site.command (.setFlag "WP_DEBUG_LOG" "true"),
      s.site.command (.setFlag "WP_DEBUG_DISPLAY" "false")]
  /-- The plugin is activated at most once, and only if debugging could be turned on. -/
  activates : commands activated <+: [s.site.command (.activate s.slug false)]
  onWell : activated ≠ [] → on.all endedWell = true
  /-- It is deactivated at most once, and only after that. -/
  deactivates : commands deactivated <+: [s.site.command (.deactivate s.slug true)]
  activatedFirst : deactivated ≠ [] → activated ≠ []

/-- Debugging is tried: all its flags are set; if that went well, the plugin is activated, and if
the tool ran, deactivated again. -/
theorem runs_activateDebugging {o : Except ProbeError Unit}
    (h : Work.Runs recorded (activateDebugging s) x o y) :
    ∃ on activated deactivated, Tried s on activated deactivated ∧
      y.2 = x.2 ++ (on ++ activated ++ deactivated) ∧
      (o = .ok () → y.1.passed = (x.1.passed && (on ++ activated).all endedWell)) := by
  rcases Work.runs_bind_iff.mp h with ⟨ok, z, hset, hrest⟩ | ⟨err, hset, -⟩
  · obtain ⟨on, hon, hz, heq, hpassed⟩ := runs_setFlags hset
    obtain rfl := Except.ok.inj heq
    cases hall : on.all endedWell <;> rw [hall] at hrest
    · -- A flag could not be set.
      obtain ⟨-, hy, hfailed⟩ := runs_fail hrest
      refine ⟨on, [], [], ⟨hon, List.nil_prefix, absurd rfl, List.nil_prefix, absurd rfl⟩, ?_, ?_⟩
      · rw [hy, hz, List.append_nil, List.append_nil]
      · intro _
        rw [hfailed, List.append_nil, hall, Bool.and_false]
    · -- All flags are set, and the plugin is activated.
      rcases Work.runs_bind_iff.mp hrest with ⟨r, z', hrun, hafter⟩ | ⟨err, hrun, rfl⟩
      · obtain ⟨e, hcommand, rfl, ⟨r', heq, hok⟩ | ⟨⟨f, heq⟩, -⟩⟩ := runs_running hrun
        · obtain rfl := Except.ok.inj heq
          obtain ⟨e', hcommand', hy, hcounted⟩ := runs_afterActivation hafter
          refine ⟨on, [e], [e'],
            ⟨hon, ?_, fun _ => hall, ?_, fun _ => List.cons_ne_nil _ _⟩, ?_, ?_⟩
          · rw [commands_cons, hcommand]
            exact List.prefix_rfl
          · rw [commands_cons, hcommand']
            exact List.prefix_rfl
          · simp only [hy, hz, List.append_assoc]
          · intro _
            rw [hcounted, hpassed, hok, List.all_append, hall]
            simp
        · cases heq
      · -- The tool did not run for the activation.
        obtain ⟨e, hcommand, rfl, ⟨r', heq, -⟩ | ⟨⟨f, heq⟩, -⟩⟩ := runs_running hrun
        · cases heq
        · refine ⟨on, [e], [], ⟨hon, ?_, fun _ => hall, List.nil_prefix, absurd rfl⟩, ?_, ?_⟩
          · rw [commands_cons, hcommand]
            exact List.prefix_rfl
          · simp only [hz, List.append_assoc, List.append_nil]
          · intro heq
            cases heq
  · -- Setting flags raises nothing.
    obtain ⟨on, -, -, heq, -⟩ := runs_setFlags hset
    cases heq

/-! ### The trial -/

/-- What a trial starts, part by part. -/
structure Trial where
  /-- Switching the plugin off, on and off. -/
  switched : List Started
  /-- Turning debugging on. -/
  turnedOn : List Started := []
  /-- Activating the plugin with debugging on. -/
  activated : List Started := []
  /-- Deactivating it again. -/
  deactivated : List Started := []
  /-- Turning debugging off. -/
  turnedOff : List Started := []

namespace Trial

/-- All that is started, in order. -/
def started (t : Trial) : List Started :=
  t.switched ++ t.turnedOn ++ t.activated ++ t.deactivated ++ t.turnedOff

/-- What counts for passing the probe. -/
def counted (t : Trial) : List Started :=
  t.switched ++ t.turnedOn ++ t.activated ++ t.turnedOff

end Trial

/-- The commands that switch the plugin off, on and off. -/
def switching (s : Setup) : List Command :=
  [s.site.command (.deactivate s.slug true), s.site.command (.activate s.slug false),
    s.site.command (.deactivate s.slug false)]

/-- The trial went as far as debugging. -/
structure Trial.Debugged (s : Setup) (t : Trial) : Prop extends
    Tried s t.turnedOn t.activated t.deactivated where
  debug : s.debug = true
  /-- The plugin was switched as often as it should be, and all of that went well. -/
  switched : commands t.switched = switching s
  switchedWell : t.switched.all endedWell = true
  /-- Debugging was turned off. -/
  turnedOff : commands t.turnedOff =
    [s.site.command (.setFlag "WP_DEBUG" "false"),
      s.site.command (.setFlag "WP_DEBUG_LOG" "false"),
      s.site.command (.setFlag "WP_DEBUG_DISPLAY" "false")]

/-- The parts are those of a trial: it ended with switching the plugin, or went as far as
debugging. -/
inductive Trial.Fits (s : Setup) (t : Trial) : Prop
  | plain (switched : commands t.switched <+: switching s)
      (nothingElse : t = { switched := t.switched })
  | debugged (h : t.Debugged s)

/-- The work starts the commands one after the other as long as they end well, and tells whether
all of them did. -/
def Switches (cs : List Command) (w : Probing Bool) : Prop :=
  ∀ x o y, Work.Runs recorded w x o y → ∃ switched, commands switched <+: cs ∧
    y.2 = x.2 ++ switched ∧ ∀ b, o = .ok b →
      b = switched.all endedWell ∧ (b = true → commands switched = cs)

theorem switches_toggle (on quiet : Bool) (label : String) :
    Switches [s.site.command (Site.toggle s.slug on quiet)] (toggle s on label quiet) := by
  intro x o y h
  obtain ⟨e, hcommand, hy, hresult⟩ := runs_toggle h
  have hone : commands [e] = [s.site.command (Site.toggle s.slug on quiet)] := by
    rw [commands_cons, hcommand]
    rfl
  refine ⟨[e], hone ▸ List.prefix_rfl, hy, fun b heq => ⟨?_, fun _ => hone⟩⟩
  rcases hresult with rfl | ⟨⟨f, rfl⟩, -⟩
  · rw [← Except.ok.inj heq]
    simp
  · cases heq

theorem Switches.after {cs : List Command} {w : Probing Bool} (hw : Switches cs w)
    (on quiet : Bool) (label : String) :
    Switches (s.site.command (Site.toggle s.slug on quiet) :: cs)
      (do if ← toggle s on label quiet then w else pure false) := by
  intro x o y h
  rcases Work.runs_bind_iff.mp h with ⟨ok, z, hfirst, hrest⟩ | ⟨err, hfirst, rfl⟩
  · obtain ⟨e, hcommand, hz, heq | ⟨⟨f, heq⟩, -⟩⟩ := runs_toggle hfirst
    · obtain rfl := Except.ok.inj heq
      cases hwell : e.endedWell <;> rw [hwell] at hrest
      · -- It did not end well, and nothing follows.
        obtain ⟨rfl, rfl⟩ := Work.runs_pure_iff.mp hrest
        refine ⟨[e], ?_, hz, fun b heq => ?_⟩
        · rw [commands_cons, hcommand]
          exact List.cons_prefix_cons.mpr ⟨rfl, List.nil_prefix⟩
        · obtain rfl := Except.ok.inj heq
          exact ⟨by simp [hwell], fun htrue => absurd htrue Bool.false_ne_true⟩
      · -- It ended well, and the others follow.
        obtain ⟨switched, hbegins, hy, hresult⟩ := hw _ _ _ hrest
        refine ⟨e :: switched, ?_, ?_, fun b heq => ?_⟩
        · rw [commands_cons, hcommand]
          exact List.cons_prefix_cons.mpr ⟨rfl, hbegins⟩
        · rw [hy, hz, List.append_assoc]
          rfl
        · obtain ⟨hall, hcommands⟩ := hresult b heq
          refine ⟨by rw [hall, List.all_cons, hwell, Bool.true_and], fun htrue => ?_⟩
          rw [commands_cons, hcommand, hcommands htrue]
    · cases heq
  · -- The tool did not run, and that ends the trial.
    obtain ⟨e, hcommand, hy, heq | ⟨⟨f, heq⟩, -⟩⟩ := runs_toggle hfirst
    · cases heq
    · refine ⟨[e], ?_, hy, fun b hb => by cases hb⟩
      rw [commands_cons, hcommand]
      exact List.cons_prefix_cons.mpr ⟨rfl, List.nil_prefix⟩

/-- The plugin is switched off, on and off, as long as that goes well. -/
theorem switches_toggles : Switches (switching s) (toggles s) :=
  ((switches_toggle false false "deactivate").after true false "activate").after
    false true "deactivate"

/-- Where debugging is tried, its flags are reset in the end, whatever came of it. -/
theorem runs_debugActivation {o : Except ProbeError Unit}
    (h : Work.Runs recorded (debugActivation s) x o y) :
    ∃ on activated deactivated off, Tried s on activated deactivated ∧
      commands off = setting s flagsOff ∧
      y.2 = x.2 ++ (on ++ activated ++ deactivated ++ off) ∧
      (o = .ok () → y.1.passed = (x.1.passed && (on ++ activated ++ off).all endedWell)) := by
  obtain ⟨o₁, z, htry, hreset⟩ := runs_ensuring_iff.mp h
  obtain ⟨on, activated, deactivated, htried, hz, hcount⟩ := runs_activateDebugging htry
  rcases hreset with ⟨hoff, rfl⟩ | ⟨e, hoff, -⟩
  · obtain ⟨off, hcommands, hy, -, hpassed⟩ := runs_resetFlags hoff
    refine ⟨on, activated, deactivated, off, htried, hcommands, ?_, fun heq => ?_⟩
    · rw [hy, hz, List.append_assoc]
    · have hsplit : (on ++ activated ++ off).all endedWell =
          ((on ++ activated).all endedWell && off.all endedWell) := List.all_append
      rw [hpassed, hcount heq, hsplit, Bool.and_assoc]
  · obtain ⟨off, -, -, heq, -⟩ := runs_resetFlags hoff
    cases heq

/-- **A trial starts its parts one after the other**, and if it is not cut short, the probe counts
as passed exactly if what counts ended well. -/
theorem runs_trial {o : Except ProbeError Unit} (h : Work.Runs recorded (trial s) x o y) :
    ∃ t : Trial, t.Fits s ∧ y.2 = x.2 ++ t.started ∧
      (o = .ok () → y.1.passed = t.counted.all endedWell) := by
  -- A trial without debugging is its switching.
  have hplain : ∀ switched : List Started,
      Trial.started { switched } = switched ∧ Trial.counted { switched } = switched := by
    intro switched
    constructor <;> simp [Trial.started, Trial.counted]
  rcases Work.runs_bind_iff.mp h with ⟨passed, z, htoggles, hrest⟩ | ⟨err, htoggles, rfl⟩
  · obtain ⟨switched, hbegins, hz, hresult⟩ := switches_toggles _ _ _ htoggles
    obtain ⟨rfl, hcommands⟩ := hresult passed rfl
    rcases Work.runs_bind_iff.mp hrest with ⟨_, z', hset, hdebug⟩ | ⟨err, hset, -⟩
    · obtain ⟨-, rfl⟩ := Work.runs_modify_iff.mp hset
      split at hdebug
      · -- All went well, and debugging is asked for.
        rename_i hgoing
        obtain ⟨hwell, hasked⟩ := Bool.and_eq_true_iff.mp hgoing
        obtain ⟨on, activated, deactivated, off, htried, hoff, hy, hcount⟩ :=
          runs_debugActivation hdebug
        refine ⟨⟨switched, on, activated, deactivated, off⟩, .debugged ?_, ?_, fun heq => ?_⟩
        · exact ⟨htried, hasked, hcommands hwell, hwell, hoff⟩
        · rw [hy, hz]
          simp only [Trial.started, List.append_assoc]
        · rw [hcount heq]
          simp only [Trial.counted, List.all_append, Bool.and_assoc]
      · -- Switching did not go well, or debugging is not asked for.
        obtain ⟨-, rfl⟩ := Work.runs_pure_iff.mp hdebug
        refine ⟨{ switched }, .plain hbegins rfl, ?_, fun _ => ?_⟩
        · rw [(hplain switched).1]
          exact hz
        · rw [(hplain switched).2]
    · cases (Work.runs_modify_iff.mp hset).1
  · -- The switching is cut short, and with it the trial.
    obtain ⟨switched, hbegins, hz, -⟩ := switches_toggles _ _ _ htoggles
    refine ⟨{ switched }, .plain hbegins rfl, ?_, fun heq => by cases heq⟩
    rw [(hplain switched).1]
    exact hz

/-! ### Putting the plugin back -/

/-- The commands that make the plugin as active as it was. -/
def puttingBack (s : Setup) (wasActive : Bool) : List Command :=
  [s.site.command (.isActive s.slug), s.site.command (Site.toggle s.slug wasActive true),
    s.site.command (.isActive s.slug)]

/-- The plugin is looked at, and unless that settles it, switched and looked at again. -/
theorem runs_putBack_recorded {wasActive : Bool} {past now : List Started}
    {o : Except LaunchError Bool} (h : Dialogue.Runs recorded (putBack s wasActive) past o now) :
    ∃ back, back ≠ [] ∧ commands back <+: puttingBack s wasActive ∧ now = past ++ back := by
  cases putsBack_of_runs h with
  | unanswered hfirst _ =>
    obtain ⟨e₁, hcommand₁, rfl, -⟩ := Site.runs_isActive_recorded hfirst
    refine ⟨[e₁], List.cons_ne_nil _ _, ?_, rfl⟩
    rw [commands_cons, hcommand₁]
    exact List.cons_prefix_cons.mpr ⟨rfl, List.nil_prefix⟩
  | asBefore hfirst _ =>
    obtain ⟨e₁, hcommand₁, rfl, -⟩ := Site.runs_isActive_recorded hfirst
    refine ⟨[e₁], List.cons_ne_nil _ _, ?_, rfl⟩
    rw [commands_cons, hcommand₁]
    exact List.cons_prefix_cons.mpr ⟨rfl, List.nil_prefix⟩
  | stuck hfirst _ hswitch _ =>
    obtain ⟨e₁, hcommand₁, rfl, -⟩ := Site.runs_isActive_recorded hfirst
    obtain ⟨e₂, hcommand₂, rfl, -⟩ := Site.runs_act_recorded hswitch
    refine ⟨[e₁, e₂], List.cons_ne_nil _ _, ?_, List.append_assoc _ _ _⟩
    simp only [commands_cons, hcommand₁, hcommand₂]
    exact List.cons_prefix_cons.mpr ⟨rfl, List.cons_prefix_cons.mpr ⟨rfl, List.nil_prefix⟩⟩
  | switched hfirst _ hswitch hlast _ =>
    obtain ⟨e₁, hcommand₁, rfl, -⟩ := Site.runs_isActive_recorded hfirst
    obtain ⟨e₂, hcommand₂, rfl, -⟩ := Site.runs_act_recorded hswitch
    obtain ⟨e₃, hcommand₃, rfl, -⟩ := Site.runs_isActive_recorded hlast
    refine ⟨[e₁, e₂, e₃], List.cons_ne_nil _ _, ?_, by simp⟩
    simp only [commands_cons, hcommand₁, hcommand₂, hcommand₃]
    exact List.prefix_rfl

/-- Putting the plugin back does not touch whether the probe counts as passed. -/
theorem runs_restore_recorded {o : Except ProbeError Unit}
    (h : Work.Runs recorded (restore s) x o y) :
    ∃ back, back ≠ [] ∧ commands back <+: puttingBack s x.1.wasActive ∧ y.2 = x.2 ++ back ∧
      y.1.passed = x.1.passed := by
  obtain ⟨_, hput, -, -, hpassed⟩ := exists_back_of_restore h
  obtain ⟨back, hsome, hcommands, hnow⟩ := runs_putBack_recorded hput
  exact ⟨back, hsome, hcommands, hnow, hpassed⟩

/-! ### The whole probe -/

/-- A run of a probe, part by part: `first` is the question whether the plugin is active, and
`back` what is started to put the plugin back. -/
structure Course (s : Setup) (first : Started) (t : Trial) (back : List Started)
    (o : Except ProbeError ProbeResult) (started : List Started) : Prop where
  inOrder : started = first :: (t.started ++ back)
  asksFirst : first.command = s.site.command (.isActive s.slug)
  fits : t.Fits s
  /-- The plugin is put back whatever happened before. -/
  putsBack : commands back <+: puttingBack s first.endedWell
  putBackBegun : back ≠ []
  /-- The probe is passed exactly if what counts ended well. -/
  passed_eq : ∀ result, o = .ok result → result.passed = t.counted.all endedWell

theorem textual_recorded : Textual recorded :=
  fun _ _ _ _ h => h.1

/-- **The course of a probe.**  If the first question is not answered, nothing else is started;
every other run is a course. -/
theorem runs_run {o : Except ProbeError ProbeResult} {started : List Started}
    (h : Dialogue.Runs recorded (run s) [] o started) :
    (∃ first f, first.command = s.site.command (.isActive s.slug) ∧ started = [first] ∧
        o = .error (.failure f)) ∨
      ∃ first t back, Course s first t back o started := by
  obtain ⟨asked, u, hfirst, h⟩ := Dialogue.runs_bind_iff.mp h
  obtain ⟨first, hcommand, rfl, rfl | ⟨f, rfl, -⟩⟩ := Site.runs_isActive_recorded hfirst
  · obtain ⟨⟨outcome, result⟩, v, hrun, hend⟩ := Dialogue.runs_bind_iff.mp h
    obtain ⟨rfl, rfl⟩ := Dialogue.runs_pure_iff.mp hend
    obtain ⟨o₁, z, htrial, hrest⟩ := runs_ensuring_iff (x := (_, _)) (y := (_, _)).mp hrun
    -- The note on the plugin is still that of the first question when it is put back.
    obtain ⟨hnote, -⟩ := within_trial textual_recorded s _ o₁ z rfl htrial
    obtain ⟨t, hfits, hz, hcount⟩ := runs_trial htrial
    obtain ⟨back, hsome, hback, hstarted, hpassed, houtcome⟩ : ∃ back, back ≠ [] ∧
        commands back <+: puttingBack s z.1.wasActive ∧ started = z.2 ++ back ∧
        result.passed = z.1.passed ∧ (outcome = .ok () → o₁ = .ok ()) := by
      rcases hrest with ⟨hrestore, rfl⟩ | ⟨e, hrestore, rfl⟩
      · obtain ⟨back, hsome, hback, hstarted, hpassed⟩ := runs_restore_recorded hrestore
        exact ⟨back, hsome, hback, hstarted, hpassed, id⟩
      · obtain ⟨back, hsome, hback, hstarted, hpassed⟩ := runs_restore_recorded hrestore
        exact ⟨back, hsome, hback, hstarted, hpassed, fun heq => by cases heq⟩
    rw [show z.1.wasActive = first.endedWell from hnote] at hback
    refine .inr ⟨first, t, back, ?_, hcommand, hfits, hback, hsome, fun final heq => ?_⟩
    · rw [hstarted, hz, List.append_assoc]
      rfl
    · cases outcome with
      | ok _ =>
        obtain rfl := Except.ok.inj heq
        rw [hpassed, hcount (houtcome rfl)]
      | error e => cases heq
  · obtain ⟨rfl, rfl⟩ := Dialogue.runs_pure_iff.mp h
    exact .inl ⟨first, f, hcommand, rfl, rfl⟩

end PluginSweep.Probe
