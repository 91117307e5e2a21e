/-
PluginSweep/Proofs/CommandLine/Interruption.lean

What becomes of an interruption.  The run may be told to end at any moment of a
sweep, but the sweep looks for the last time when its survey is over: its summary
says that the run was interrupted if and only if it was told to end before that
(`run_interruption`), and then the report says so and the exit code is one.

An interruption that comes later, while the plugin is tried out, leaves no trace
there, and there are such runs (`interruption_lost`).
-/
import PluginSweep.Proofs.CommandLine.Session
import PluginSweep.Proofs.Sweep.Conclusion
import PluginSweep.Proofs.Sweep.Gate

namespace PluginSweep.CommandLine

open History

/-! ### Sessions as runs -/

/-- A command line that asks for a sweep is one run of that, and its end is the end of the
program. -/
theorem runs_run_sweep_iff [Console] {σ : Type} {c : Dialogue.Conduct Request.Reply σ}
    {env : Environment} {words : List String} {o : SweepOptions}
    (hwords : Console.parse words = .ok (.sweep o))
    {fs fs' : FileSystem} {past now : σ} {ending : Ending} :
    Dialogue.Runs c ((run env words).run fs) past (ending, fs') now ↔
      ∃ outcome, Work.Runs c (Session.runSweep env o) (fs, past) outcome (fs', now) ∧
        ending = Ending.ofOutcome outcome := by
  unfold run
  rw [hwords]
  constructor
  · intro h
    obtain ⟨⟨outcome, fs₁⟩, now₁, hperform, hend⟩ := Dialogue.runs_bind_iff.mp h
    obtain ⟨heq, rfl⟩ := Dialogue.runs_pure_iff.mp hend
    obtain ⟨rfl, rfl⟩ := Prod.mk.inj heq
    exact ⟨outcome, hperform, rfl⟩
  · rintro ⟨outcome, hperform, rfl⟩
    exact Dialogue.runs_bind_iff.mpr
      ⟨(outcome, fs'), now, hperform, Dialogue.runs_pure_iff.mpr ⟨rfl, rfl⟩⟩

namespace Session

section

variable [Console] {env : Environment} {o : SweepOptions}

/-! ### Courses of a session -/

/-- A session that comes to no summary: it is not even begun, or the sweep fails. -/
def Unsummarized (env : Environment) (o : SweepOptions) (fs fs' : FileSystem) (now : History)
    (ending : Ending) : Prop :=
  Work.Runs heard (attempt env o) (fs, []) (.error ending) (fs', now) ∨
    ∃ s e y outcome, Work.Runs heard (attempt env o) (fs, []) (.ok (s, .error e)) y ∧
      Work.Runs heard (report s (.error e)) y outcome (fs', now) ∧
      ending = Ending.ofOutcome outcome

/-- A session in which a sweep comes to a summary: its survey ends when `surveyed` has happened,
and all of it when `swept` has happened. -/
def Summarized (s : Settings) (summary : Summary) (surveyed swept : History)
    (fs' : FileSystem) : Prop :=
  ∃ tree past v st st',
    Work.Runs shown (Sweep.survey s) ({ tree }, past) (.ok v) (st, surveyed) ∧
    Work.Runs shown (Sweep.conclude s v) (st, surveyed) (.ok summary) (st', swept) ∧
    fs' = st'.tree

/-- An interruption is in the summary, in its file and in the exit code. -/
structure Kept (s : Settings) (summary : Summary) (fs' : FileSystem) (ending : Ending) :
    Prop where
  interrupted : summary.interrupted = true
  file : ∃ before after, fs'.read (s.reportDirectory.child Report.summaryFile) =
    .ok (Text.encode (before ++ Report.textOf Report.interruptionNotice ++ after))
  code : ending.code = 1

/-- An interruption is not in the summary, the file is that of this very summary, and the exit
code is zero, unless every step failed or something cannot be shown. -/
structure Lost (s : Settings) (summary : Summary) (fs' : FileSystem) (ending : Ending) :
    Prop where
  interrupted : summary.interrupted = false
  file : fs'.read (s.reportDirectory.child Report.summaryFile) =
    .ok (Text.encode (Report.renderSummary s.time summary))
  code : summary.allFailed = false → ending = .exit 0 ∨ Unshown ending

omit [Console] in
/-- The flag of the summary is the reply with which the survey ended. -/
theorem Summarized.interrupted_iff {s : Settings} {summary : Summary}
    {surveyed swept : History} {fs' : FileSystem} (h : Summarized s summary surveyed swept fs') :
    summary.interrupted = true ↔ .told ∈ surveyed := by
  obtain ⟨tree, past, v, st, st', hsurvey, hconclude, -⟩ := h
  obtain ⟨before, hasked⟩ := Sweep.runs_survey_asks hsurvey
  rw [(Sweep.runs_conclude_ok hconclude).1]
  exact told_mem_of_heard_cancelled hasked

omit [Console] in
theorem Summarized.read {s : Settings} {summary : Summary} {surveyed swept : History}
    {fs' : FileSystem} (h : Summarized s summary surveyed swept fs') :
    fs'.read (s.reportDirectory.child Report.summaryFile) =
      .ok (Text.encode (Report.renderSummary s.time summary)) := by
  obtain ⟨tree, past, v, st, st', -, hconclude, rfl⟩ := h
  exact (Sweep.runs_conclude_ok hconclude).2

/-- An attempt that comes to a summary ends with the sweep that does. -/
theorem summarized_of_attempt {s : Settings} {summary : Summary} {x y : FileSystem × History}
    (h : Work.Runs heard (attempt env o) x (.ok (s, .ok summary)) y) :
    ∃ surveyed, surveyed <+: y.2 ∧ Summarized s summary surveyed y.2 y.1 := by
  obtain ⟨s', z₁, -, hheading⟩ := Work.runs_bind_ok_iff.mp h
  obtain ⟨_, z₂, -, hsweep⟩ := Work.runs_bind_ok_iff.mp hheading
  obtain ⟨outcome, z₃, hswept, hend⟩ := Work.runs_bind_ok_iff.mp hsweep
  obtain ⟨heq, rfl⟩ := Work.runs_pure_iff.mp hend
  obtain ⟨rfl, rfl⟩ := Prod.mk.inj (Except.ok.inj heq)
  obtain ⟨st', hrun, htree⟩ := runs_sweep_ok hswept
  obtain ⟨v, ⟨st, surveyed⟩, hsurvey, hconclude⟩ := Work.runs_bind_ok_iff.mp hrun
  refine ⟨surveyed, ?_, z₂.1, z₂.2, v, st, st', hsurvey, hconclude, htree⟩
  exact hconclude.related List.prefix_refl (fun h₁ h₂ => h₁.trans h₂) prefix_of_shown

/-! ### What becomes of an interruption -/

/-- **An interruption is kept if and only if it comes before the survey is over.**  A sweep from
the command line that comes to no summary has an exit code of one; in every other, an interruption
that comes by the end of the survey is in the summary, in its file and in the exit code, and one
that comes later is in none of them. -/
theorem run_interruption {words : List String} (hwords : Console.parse words = .ok (.sweep o))
    {fs fs' : FileSystem} {now : History} {ending : Ending}
    (h : Dialogue.Runs heard ((run env words).run fs) [] (ending, fs') now) :
    (Unsummarized env o fs fs' now ending ∧ ending.code = 1) ∨
      ∃ s summary surveyed swept, Summarized s summary surveyed swept fs' ∧
        surveyed <+: swept ∧ swept <+: now ∧
        (.told ∈ surveyed → Kept s summary fs' ending) ∧
        (.told ∉ surveyed → Lost s summary fs' ending) := by
  obtain ⟨outcome, hrun, rfl⟩ := (runs_run_sweep_iff hwords).mp h
  rcases Work.runs_bind_iff.mp hrun with
    ⟨⟨s, e | summary⟩, y, hattempt, hreport⟩ | ⟨e, hattempt, rfl⟩
  · -- The sweep has failed.
    obtain ⟨ending, rfl, hcode⟩ := runs_report_error hreport
    exact .inl ⟨.inr ⟨s, e, y, _, hattempt, hreport, rfl⟩, hcode⟩
  · -- It has come to a summary.
    obtain ⟨surveyed, hsurveyed, hsummarized⟩ := summarized_of_attempt hattempt
    obtain ⟨hfiles, houtcome⟩ := runs_report_ok hreport
    obtain rfl : fs' = y.1 := hfiles
    refine .inr ⟨s, summary, surveyed, y.2, hsummarized, hsurveyed, prefix_of_runs hreport,
      fun htold => ?_, fun hnot => ?_⟩
    · -- The survey has heard of the interruption.
      have hinterrupted := hsummarized.interrupted_iff.mpr htold
      refine ⟨hinterrupted, ?_, ?_⟩
      · obtain ⟨before, after, htext⟩ := Report.exists_interruptionNotice s.time hinterrupted
        exact ⟨before, after, by rw [hsummarized.read, htext]⟩
      · rw [hinterrupted, Bool.or_true, if_pos rfl] at houtcome
        rcases houtcome with ⟨e, hunshown, rfl⟩ | rfl
        · exact hunshown.broken
        · rfl
    · -- It has not, and nothing after it asks.
      have hinterrupted : summary.interrupted = false :=
        Bool.eq_false_iff.mpr fun htrue => hnot (hsummarized.interrupted_iff.mp htrue)
      refine ⟨hinterrupted, hsummarized.read, fun hsome => ?_⟩
      rw [hinterrupted, hsome, Bool.or_false, if_neg Bool.false_ne_true] at houtcome
      rcases houtcome with ⟨e, hunshown, rfl⟩ | rfl
      · exact .inr hunshown
      · exact .inl rfl
  · -- There was no sweep.
    have hbroken := (breaks_attempt env o _ _ _ trivial hattempt).2 e rfl
    exact .inl ⟨.inl hattempt, hbroken⟩

end

/-- The environment of a session that takes nothing from it. -/
def bareEnvironment : Environment where
  time := ""
  lockDirectory := ⟨"/", []⟩

/-- What is asked for in the sweep of the plugin that does nothing. -/
def bareOptions : SweepOptions where
  plugin := "/p"
  profile := .full

/-- The question starts a tool. -/
def launches : Request → Bool
  | .launch _ => true
  | _ => false

/-- The question is whether the run has been told to end. -/
def asksForOrders : Event → Bool
  | .asked .cancelled _ => true
  | _ => false

/-- The attempt to sweep that plugin, told to end whenever a tool is started. -/
def toldAttempt : (Except Ending (Settings × Except SweepError Summary) × FileSystem) × History :=
  ((attempt bareEnvironment bareOptions).run.run Sweep.bareTree).answer (obliging launches) []

/-- What is told in the survey of a sweep is told by its end. -/
theorem Summarized.told_mem {s : Settings} {summary : Summary} {surveyed swept now : History}
    {fs' : FileSystem} (h : Summarized s summary surveyed swept fs') (hnow : surveyed <+: now)
    {early : History} (hearly : early <+: now) (htold : early.any tells = true)
    (hunasked : (early.takeWhile (!tells ·)).all (!asksForOrders ·) = true) :
    .told ∈ surveyed := by
  obtain ⟨tree, past, v, st, st', hsurvey, -, -⟩ := h
  obtain ⟨before, n, -, hasked⟩ := Sweep.runs_survey_asks hsurvey
  rw [any_tells_iff] at htold
  rcases List.prefix_or_prefix_of_prefix hnow hearly with ⟨rest, rfl⟩ | hlonger
  · by_contra hnot
    have hquiet : ∀ event ∈ surveyed, (!tells event) = true := by
      rw [← any_tells_iff] at hnot
      simpa using hnot
    -- The question with which the survey ends would come before the run is told to end.
    rw [List.takeWhile_append_of_pos hquiet, List.all_append, Bool.and_eq_true] at hunasked
    have hlast : .asked .cancelled v.interrupted ∈ surveyed := by
      obtain rfl : surveyed = _ := hasked
      exact List.mem_append_right _ (List.mem_singleton_self _)
    cases List.all_eq_true.mp hunasked.1 _ hlast
  · exact hlonger.subset htold

/-- The interruption of the session that sweeps the plugin in this way is kept. -/
theorem run_interruption_bare :
    ∃ ending fs' now s summary,
      Dialogue.Runs heard ((run bareEnvironment ["full", "/p"]).run Sweep.bareTree) []
        (ending, fs') now ∧
      .told ∈ now ∧ Kept s summary fs' ending := by
  have hwords : Console.parse ["full", "/p"] = .ok (.sweep bareOptions) := by
    decide +kernel
  have hattempted : (toldAttempt.1.1.toOption.any (·.2.toOption.isSome) &&
      toldAttempt.2.any tells &&
      (toldAttempt.2.takeWhile (!tells ·)).all (!asksForOrders ·)) = true := by
    decide +kernel
  obtain ⟨⟨hended, htold⟩, hunasked⟩ := by
    simpa only [Bool.and_eq_true] using hattempted
  -- The attempt is the first part of the session.
  have hattempt : Work.Runs heard (attempt bareEnvironment bareOptions) (Sweep.bareTree, [])
      toldAttempt.1.1 (toldAttempt.1.2, toldAttempt.2) :=
    Work.runs_answer (heard_obliging launches) _ _ _
  -- What the attempt comes to is not to be evaluated again.
  clear hattempted
  generalize toldAttempt = attempted at hended htold hunasked hattempt
  obtain ⟨⟨e | ⟨s, e | summary⟩, fs'⟩, now⟩ := attempted
  · cases hended
  · cases hended
  have hreport := Work.runs_answer (heard_obliging launches) (report s (.ok summary)) fs' now
  have hsession : Work.Runs heard (runSweep bareEnvironment bareOptions) (Sweep.bareTree, []) _ _ :=
    Work.runs_bind_iff.mpr (.inl ⟨_, _, hattempt, hreport⟩)
  have hrun : Dialogue.Runs heard ((run bareEnvironment ["full", "/p"]).run Sweep.bareTree) []
      (_, _) _ := (runs_run_sweep_iff hwords).mpr ⟨_, hsession, rfl⟩
  have hearly := prefix_of_runs hreport
  rcases run_interruption hwords hrun with ⟨hunsummarized, -⟩ |
    ⟨s', summary', surveyed, swept, hsummarized, hsurveyed, hswept, hkept, -⟩
  · -- Another attempt with the same history would have come to something else.
    rcases hunsummarized with herror | ⟨s', e, y, outcome, herror, hreport', -⟩
    · cases eq_of_runs_of_prefix hattempt herror hearly List.prefix_rfl
    · cases eq_of_runs_of_prefix hattempt herror hearly (prefix_of_runs hreport')
  · have hnow := hsurveyed.trans hswept
    exact ⟨_, _, _, s', summary', hrun, hearly.subset (any_tells_iff.mp htold),
      hkept (hsummarized.told_mem hnow hearly htold hunasked)⟩

/-! ### An interruption that is lost -/

/-- The question starts the command that switches a plugin on. -/
def switchesOn : Request → Bool
  | .launch (.site _ _ (.activate ..)) => true
  | _ => false

/-- The sweep of the plugin that does nothing, told to end when it switches the plugin on. -/
def lateSweep : (Except SweepError Summary × SweepState) × History :=
  ((Sweep.run Sweep.bareSettings).run.run { tree := Sweep.bareTree }).answer
    (obliging switchesOn) []

/-- A sweep that is told to end while the plugin is tried out comes to a summary that knows
nothing of it, and with which a session ends as if nothing had happened. -/
theorem interruption_lost :
    ∃ summary st now,
      Work.Runs heard (Sweep.run Sweep.bareSettings) ({ tree := Sweep.bareTree }, [])
        (.ok summary) (st, now) ∧
      .told ∈ now ∧ summary.interrupted = false ∧ summary.allFailed = false := by
  have hrun : Work.Runs heard (Sweep.run Sweep.bareSettings) ({ tree := Sweep.bareTree }, [])
      lateSweep.1.1 (lateSweep.1.2, lateSweep.2) :=
    Work.runs_answer (heard_obliging switchesOn) _ _ _
  have hlost : (lateSweep.2.any tells && lateSweep.1.1.toOption.any fun summary =>
      !summary.interrupted && !summary.allFailed) = true := by
    decide +kernel
  rw [Bool.and_eq_true] at hlost
  obtain ⟨htold, hlost⟩ := hlost
  rcases hswept : lateSweep.1.1 with e | summary <;> rw [hswept] at hrun hlost
  · cases hlost
  · obtain ⟨hflag, hsome⟩ := Bool.and_eq_true_iff.mp hlost
    exact ⟨summary, _, _, hrun, any_tells_iff.mp htold, (Bool.not_eq_true' _).mp hflag,
      (Bool.not_eq_true' _).mp hsome⟩

end Session

end PluginSweep.CommandLine
