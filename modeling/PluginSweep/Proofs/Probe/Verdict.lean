/-
PluginSweep/Proofs/Probe/Verdict.lean

What the course of a probe says about two things that a site depends on.

Debug flags: a probe sets a flag only in a trial that went as far as debugging,
and then the flags that it sets are those that turn debugging on and, after all
else of the trial and before the plugin is put back, those that turn it off
(`resets_flags`).

The verdict: a probe is passed exactly if everything that it started before the
plugin was put back ended well, with one exception (`passed_iff`).  What comes of
the deactivation after debugging is not looked at, so a plugin that can no longer
be switched off there may pass (`passed_though_stuck`).
-/
import PluginSweep.Proofs.Probe.Course

namespace PluginSweep

/-- The command sets a flag of a site. -/
def Command.setsFlag : Command → Bool
  | .site _ _ (.setFlag ..) => true
  | _ => false

namespace Probe

open Started

variable {s : Setup} {started : List Started}

/-! ### Flags among the commands -/

theorem setsFlag_of_begins {es : List Started} {cs : List Command} (h : commands es <+: cs)
    (hcs : ∀ c ∈ cs, c.setsFlag = false) : ∀ e ∈ es, e.command.setsFlag = false :=
  fun _ he => hcs _ (h.subset (List.mem_map_of_mem he))

theorem filter_setsFlag_eq_nil {es : List Started}
    (h : ∀ e ∈ es, e.command.setsFlag = false) : es.filter (·.command.setsFlag) = [] := by
  rw [List.filter_eq_nil_iff]
  intro e he
  rw [h e he]
  exact Bool.false_ne_true

theorem filter_setsFlag_eq_self {es : List Started} {cs : List Command} (h : commands es = cs)
    (hcs : ∀ c ∈ cs, c.setsFlag = true) : es.filter (·.command.setsFlag) = es := by
  rw [List.filter_eq_self]
  intro e he
  exact hcs _ (h ▸ List.mem_map_of_mem he)

/-- Neither switching the plugin nor looking at it sets a flag. -/
theorem setsFlag_toggle (on quiet : Bool) :
    (s.site.command (Site.toggle s.slug on quiet)).setsFlag = false := by
  cases on <;> rfl

theorem setsFlag_switching : ∀ c ∈ switching s, c.setsFlag = false := by
  simp [switching, Site.command, Command.setsFlag]

theorem setsFlag_puttingBack (wasActive : Bool) :
    ∀ c ∈ puttingBack s wasActive, c.setsFlag = false := by
  have hlook : (s.site.command (.isActive s.slug)).setsFlag = false := rfl
  simp [puttingBack, setsFlag_toggle, hlook]

/-! ### Debug flags -/

/-- The flags that are set in a trial that went as far as debugging. -/
theorem Trial.Debugged.filter_setsFlag {t : Trial} (h : t.Debugged s) :
    t.started.filter (·.command.setsFlag) = t.turnedOn ++ t.turnedOff := by
  have hbegins : commands t.switched <+: switching s := by
    simp only [h.switched, List.prefix_refl]
  have hswitched := setsFlag_of_begins hbegins setsFlag_switching
  have hactivated : ∀ e ∈ t.activated, e.command.setsFlag = false :=
    setsFlag_of_begins h.activates (by simp [Site.command, Command.setsFlag])
  have hdeactivated : ∀ e ∈ t.deactivated, e.command.setsFlag = false :=
    setsFlag_of_begins h.deactivates (by simp [Site.command, Command.setsFlag])
  have hon : t.turnedOn.filter (·.command.setsFlag) = t.turnedOn :=
    filter_setsFlag_eq_self h.setsFlags (by simp [Site.command, Command.setsFlag])
  have hoff : t.turnedOff.filter (·.command.setsFlag) = t.turnedOff :=
    filter_setsFlag_eq_self h.turnedOff (by simp [Site.command, Command.setsFlag])
  simp only [Trial.started, List.filter_append, filter_setsFlag_eq_nil hswitched,
    filter_setsFlag_eq_nil hactivated, filter_setsFlag_eq_nil hdeactivated, hon, hoff,
    List.append_nil, List.nil_append]

/-- **Debug flags are always put back.**  If a probe sets any flag, debugging was asked for and
the plugin could be switched off, on and off; the flags set are those that turn debugging on and
then those that turn it off, and these come after all else of the trial and right before the
plugin is looked at to be put back.  If the probe is passed, all of them could be reset. -/
theorem resets_flags {o : Except ProbeError ProbeResult}
    (h : Dialogue.Runs recorded (run s) [] o started)
    (hset : ∃ e ∈ started, e.command.setsFlag = true) :
    s.debug = true ∧ ∃ first t back, Course s first t back o started ∧ t.Debugged s ∧
      started.filter (·.command.setsFlag) = t.turnedOn ++ t.turnedOff ∧
      (∃ query rest, back = query :: rest ∧ query.command = s.site.command (.isActive s.slug)) ∧
      ∀ result, o = .ok result → result.passed = true →
        ∀ e ∈ t.turnedOff, e.endedWell = true := by
  obtain ⟨e, he, hflag⟩ := hset
  rcases runs_run h with ⟨first, f, hfirst, rfl, -⟩ | ⟨first, t, back, hcourse⟩
  · rw [List.mem_singleton.mp he, hfirst] at hflag
    cases hflag
  · have hfirst : first.command.setsFlag = false := by
      rw [hcourse.asksFirst]
      rfl
    have hback := setsFlag_of_begins hcourse.putsBack (setsFlag_puttingBack _)
    have hfilter : started.filter (·.command.setsFlag) =
        t.started.filter (·.command.setsFlag) := by
      rw [hcourse.inOrder, List.filter_cons, hfirst, List.filter_append,
        filter_setsFlag_eq_nil hback, List.append_nil]
      rfl
    -- Flags are set only where debugging is tried.
    rcases hcourse.fits with ⟨hbegins, hnothing⟩ | hdebugged
    · -- Switching the plugin sets no flag, and there is nothing else.
      have hmem : e ∈ started.filter (·.command.setsFlag) := List.mem_filter.mpr ⟨he, hflag⟩
      have hnone := filter_setsFlag_eq_nil (setsFlag_of_begins hbegins setsFlag_switching)
      rw [hfilter, hnothing] at hmem
      simp [Trial.started, hnone] at hmem
    · refine ⟨hdebugged.debug, first, t, back, hcourse, hdebugged,
        hfilter.trans hdebugged.filter_setsFlag, ?_, fun result heq hpassed e he => ?_⟩
      · cases hlist : back with
        | nil => exact absurd hlist hcourse.putBackBegun
        | cons query rest =>
          have hbegins := hcourse.putsBack
          rw [hlist, commands_cons] at hbegins
          exact ⟨query, rest, rfl, (List.cons_prefix_cons.mp hbegins).1⟩
      · rw [hcourse.passed_eq result heq, List.all_eq_true] at hpassed
        exact hpassed e (List.mem_append_right _ he)

/-- What is tried out in the runs below. -/
def gallery : Setup := ⟨{ root := ⟨"/", ["site"]⟩, seconds := 120 }, "gallery", true⟩

/-- The tool is late for the activation with debugging on and for the first reset, and the last
reset fails. -/
def slowScript : List Launch :=
  [.exited 1 none none, .exited 0 none none, .exited 0 none none, .exited 0 none none,
    .exited 0 none none, .exited 0 none none, .exited 0 none none, .timedOut, .timedOut,
    .exited 0 none none, .exited 1 none none]

/-- The flags are put back all the same. -/
theorem resets_flags_slow : ∃ o started, (run gallery).answer (scripted slowScript) [] =
      (o, started) ∧ (∃ e ∈ started, e.command.setsFlag = true) ∧
    ∃ first t back, Course gallery first t back o started ∧ t.Debugged gallery ∧
      started.filter (·.command.setsFlag) = t.turnedOn ++ t.turnedOff := by
  have hdecodes : Launch.undecodable ∉ slowScript := by decide
  have hrun := Dialogue.runs_answer (recorded_scripted hdecodes) (run gallery) []
  have hset : ∃ e ∈ ((run gallery).answer (scripted slowScript) []).2,
      e.command.setsFlag = true := by
    decide
  obtain ⟨-, first, t, back, hcourse, hdebugged, hfilter, -⟩ := resets_flags hrun hset
  exact ⟨_, _, rfl, hset, first, t, back, hcourse, hdebugged, hfilter⟩

/-! ### The verdict -/

/-- **A probe is passed exactly if everything that counts ended well**; so it is passed with
everything in front of the putting back having ended well exactly if the deactivation after
debugging did, or did not take place. -/
theorem passed_iff {result : ProbeResult}
    (h : Dialogue.Runs recorded (run s) [] (.ok result) started) :
    ∃ first t back, Course s first t back (.ok result) started ∧
      (result.passed = true ↔ ∀ e ∈ t.counted, e.endedWell = true) ∧
      ((∀ e ∈ t.started, e.endedWell = true) ↔
        result.passed = true ∧ ∀ e ∈ t.deactivated, e.endedWell = true) := by
  rcases runs_run h with ⟨first, f, -, -, heq⟩ | ⟨first, t, back, hcourse⟩
  · cases heq
  · have hpassed : result.passed = true ↔ ∀ e ∈ t.counted, e.endedWell = true := by
      rw [hcourse.passed_eq result rfl, List.all_eq_true]
    refine ⟨first, t, back, hcourse, hpassed, ?_⟩
    rw [hpassed]
    simp only [Trial.started, Trial.counted, List.forall_mem_append]
    exact and_right_comm

/-- The plugin was active before, and can no longer be switched off once debugging is on. -/
def stuckScript : List Launch :=
  [.exited 0 none none, .exited 0 none none, .exited 0 none none, .exited 0 none none,
    .exited 0 none none, .exited 0 none none, .exited 0 none none, .exited 0 none none,
    .exited 1 none (some "Error: The plugin is stuck.")]

/-- What becomes of a probe of that plugin. -/
def stuckRun : Except ProbeError ProbeResult × List Started :=
  (run gallery).answer (scripted stuckScript) []

/-- What is started in its trial. -/
def stuckTrial : Trial where
  switched := (stuckRun.2.drop 1).take 3
  turnedOn := (stuckRun.2.drop 4).take 3
  activated := (stuckRun.2.drop 7).take 1
  deactivated := (stuckRun.2.drop 8).take 1
  turnedOff := (stuckRun.2.drop 9).take 3

theorem runs_stuck : Dialogue.Runs recorded (run gallery) [] stuckRun.1 stuckRun.2 :=
  Dialogue.runs_answer (recorded_scripted (by decide)) (run gallery) []

/-- The verdict on it is that of its course. -/
theorem passed_iff_stuck : ∃ result, stuckRun.1 = .ok result ∧
    ∃ first t back, Course gallery first t back (.ok result) stuckRun.2 ∧
      (result.passed = true ↔ ∀ e ∈ t.counted, e.endedWell = true) := by
  rcases hrun : stuckRun.1 with e | result
  · have hok : stuckRun.1.toOption.isSome = true := by decide
    rw [hrun] at hok
    cases hok
  · obtain ⟨first, t, back, hcourse, hpassed, -⟩ := passed_iff (hrun ▸ runs_stuck)
    exact ⟨result, rfl, first, t, back, hcourse, hpassed⟩

/-- The plugin passes, although one of the commands in front of the putting back, the deactivation
after debugging, did not end well. -/
theorem passed_though_stuck : ∃ result started first t back,
    Dialogue.Runs recorded (run gallery) [] (.ok result) started ∧
      Course gallery first t back (.ok result) started ∧ result.passed = true ∧
      ∃ e ∈ t.started, e.command = gallery.site.command (.deactivate "gallery" true) ∧
        e.endedWell = false := by
  rcases hrun : stuckRun.1 with e | result
  · have hok : stuckRun.1.toOption.isSome = true := by decide
    rw [hrun] at hok
    cases hok
  · have hpassed : (stuckRun.1.toOption.any ProbeResult.passed) = true := by decide
    rw [hrun] at hpassed
    have hcounted : stuckTrial.counted.all endedWell = true := by decide
    refine ⟨result, stuckRun.2, stuckRun.2.head (by decide), stuckTrial, stuckRun.2.drop 12,
      hrun ▸ runs_stuck, ⟨by decide, by decide, .debugged ?_, by decide, by decide, ?_⟩, hpassed,
      by decide⟩
    · exact ⟨⟨by decide, by decide, by decide, by decide, by decide⟩, by decide, by decide,
        by decide, by decide⟩
    · intro final heq
      obtain rfl := Except.ok.inj heq
      rw [hcounted]
      exact hpassed

end Probe

end PluginSweep
