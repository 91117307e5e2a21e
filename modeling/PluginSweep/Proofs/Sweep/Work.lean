/-
PluginSweep/Proofs/Sweep/Work.lean

Runs of the pieces of work that sweeps are made of.  Asking leaves the state of
the sweep alone, and changing the tree asks nothing.  Of the larger pieces it is
said once in how many ways they go: writing the reports (`writingReports_iff`),
trying the plugin out (`tryingOut_of_runs`) under the lock of its site
(`lockedProbing_of_runs`), and concluding (`concluding_of_runs`).
-/
import PluginSweep.Proofs.Tool.Launch
import PluginSweep.Proofs.Dialogue.Work
import PluginSweep.Sweep

namespace PluginSweep.Sweep

open Dialogue (Conduct)

variable {α σ : Type} {c : Conduct Request.Reply σ} {x y : SweepState × σ}

theorem runs_asking_iff {work : Asking α} {o : Except SweepError α} :
    Work.Runs c (asking work) x o y ↔
      ∃ a, Dialogue.Runs c work x.2 a y.2 ∧ o = .ok a ∧ y.1 = x.1 := by
  rw [asking, Work.runs_lift_iff]
  constructor
  · rintro ⟨a, hwork, ho⟩
    obtain ⟨hrun, hst⟩ := Work.runs_stateT_lift_iff.mp hwork
    exact ⟨a, hrun, ho, hst⟩
  · rintro ⟨a, hrun, ho, hst⟩
    exact ⟨a, Work.runs_stateT_lift_iff.mpr ⟨hrun, hst⟩, ho⟩

/-- Asking never fails, and what comes after it starts with the state as it was. -/
theorem runs_asking_bind_iff {β : Type} {work : Asking α} {f : α → Sweeping β}
    {o : Except SweepError β} :
    Work.Runs c (asking work >>= f) x o y ↔
      ∃ a now, Dialogue.Runs c work x.2 a now ∧ Work.Runs c (f a) (x.1, now) o y := by
  rw [Work.runs_bind_iff]
  constructor
  · rintro (⟨a, ⟨st, now⟩, hask, hrest⟩ | ⟨e, hask, -⟩)
    · obtain ⟨a', hrun, heq, hst⟩ := runs_asking_iff.mp hask
      obtain rfl := Except.ok.inj heq
      obtain rfl : st = x.1 := hst
      exact ⟨a, now, hrun, hrest⟩
    · obtain ⟨_, -, heq, -⟩ := runs_asking_iff.mp hask
      cases heq
  · rintro ⟨a, now, hrun, hrest⟩
    exact .inl ⟨a, (x.1, now), runs_asking_iff.mpr ⟨a, hrun, rfl, rfl⟩, hrest⟩

theorem runs_changing_iff {work : StateM FileSystem α} {o : Except SweepError α} :
    Work.Runs c (changing work) x o y ↔
      o = .ok (work.run x.1.tree).1 ∧
        y = ({ x.1 with tree := (work.run x.1.tree).2 }, x.2) := by
  obtain ⟨st, s⟩ := x
  obtain ⟨st', s'⟩ := y
  show Dialogue.Runs c
    (pure (Except.ok (work.run st.tree).1, { st with tree := (work.run st.tree).2 })) s (o, st') s'
    ↔ _
  rw [Dialogue.runs_pure_iff, Prod.mk.injEq, Prod.mk.injEq, and_assoc]

/-- What a change of the tree brings, as the sweep takes it. -/
def filed : Except OsError α → Except SweepError α
  | .ok a => .ok a
  | .error e => .error (.refused e)

theorem filed_eq_ok {a : α} {outcome : Except OsError α} (h : filed outcome = .ok a) :
    outcome = .ok a := by
  cases outcome with
  | ok b => rw [Except.ok.inj h]
  | error e => cases h

theorem runs_filing_iff {work : FileWork α} {o : Except SweepError α} :
    Work.Runs c (filing work) x o y ↔
      o = filed (work.run.run x.1.tree).1 ∧
        y = ({ x.1 with tree := (work.run.run x.1.tree).2 }, x.2) := by
  rw [filing, Work.runs_bind_iff]
  constructor
  · rintro (⟨a, z, hchange, hrest⟩ | ⟨e, hchange, -⟩)
    · obtain ⟨heq, rfl⟩ := runs_changing_iff.mp hchange
      obtain rfl := Except.ok.inj heq
      rcases hdone : (work.run.run x.1.tree).1 with e | a <;> rw [hdone] at hrest
      · obtain ⟨rfl, rfl⟩ := Work.runs_throw_iff.mp hrest
        exact ⟨rfl, rfl⟩
      · obtain ⟨rfl, rfl⟩ := Work.runs_pure_iff.mp hrest
        exact ⟨rfl, rfl⟩
    · cases (runs_changing_iff.mp hchange).1
  · rintro ⟨rfl, rfl⟩
    refine .inl ⟨_, _, runs_changing_iff.mpr ⟨rfl, rfl⟩, ?_⟩
    rcases (work.run.run x.1.tree).1 with e | a
    · exact Work.runs_throw_iff.mpr ⟨rfl, rfl⟩
    · exact Work.runs_pure_iff.mpr ⟨rfl, rfl⟩

/-- A change of files that is not refused is what the work on files comes to. -/
theorem runs_filing_ok_iff {work : FileWork α} {a : α} :
    Work.Runs c (filing work) x (.ok a) y ↔
      ∃ tree, work.run.run x.1.tree = (.ok a, tree) ∧ y = ({ x.1 with tree }, x.2) := by
  rw [runs_filing_iff]
  constructor
  · rintro ⟨hfiled, rfl⟩
    exact ⟨_, Prod.ext (filed_eq_ok hfiled.symm) rfl, rfl⟩
  · rintro ⟨tree, hwork, rfl⟩
    rw [hwork]
    exact ⟨rfl, rfl⟩

/-! ### Writing the reports on the steps -/

variable {s : Settings} {summary summary' : Summary}

/-- The ways in which writing the reports on the steps goes. -/
inductive WritingReports (s : Settings) (summary : Summary) (x : SweepState × σ)
    (o : Except SweepError Summary) (y : SweepState × σ) : Prop
  /-- The directory for them cannot be prepared. -/
  | unprepared {e : OsError} {base : FileSystem}
      (hprepare : (Report.prepare s.reportDirectory).run.run x.1.tree = (.error e, base))
      (ho : o = .error (.refused e)) (hy : y = ({ x.1 with tree := base }, x.2))
  /-- They are written into the prepared directory, up to the first that cannot be. -/
  | prepared {base mid : FileSystem} {written : Except OsError (List Path)} {numbered : Summary}
      (hprepare : (Report.prepare s.reportDirectory).run.run x.1.tree = (.ok (), base))
      (hwrite : (Report.writeSections s.time s.reportDirectory Report.descriptions summary).run
        base = ((written, numbered), mid))
      (ho : o = filed (written.map fun _ => numbered)) (hy : y = ({ x.1 with tree := mid }, x.2))

theorem writingReports_iff {o : Except SweepError Summary} :
    Work.Runs c (writeReports s summary) x o y ↔ WritingReports s summary x o y := by
  rw [writeReports, Work.runs_bind_iff]
  constructor
  · rintro (⟨_, z, hprepare, hwrite⟩ | ⟨e, hprepare, rfl⟩)
    · -- The directory has been prepared, and the reports are written or refused.
      obtain ⟨base, hbase, rfl⟩ := runs_filing_ok_iff.mp hprepare
      rcases Work.runs_bind_iff.mp hwrite with ⟨⟨written, numbered⟩, z, hchange, hend⟩ |
        ⟨e, hchange, -⟩
      · obtain ⟨heq, rfl⟩ := runs_changing_iff.mp hchange
        have hrun : (Report.writeSections s.time s.reportDirectory Report.descriptions summary).run
            base = ((written, numbered), _) := Prod.ext (Except.ok.inj heq).symm rfl
        cases written with
        | ok paths =>
          obtain ⟨rfl, rfl⟩ := Work.runs_pure_iff.mp hend
          exact .prepared hbase hrun rfl rfl
        | error e =>
          obtain ⟨rfl, rfl⟩ := Work.runs_throw_iff.mp hend
          exact .prepared hbase hrun rfl rfl
      · cases (runs_changing_iff.mp hchange).1
    · -- It could not be prepared.
      obtain ⟨heq, rfl⟩ := runs_filing_iff.mp hprepare
      rcases hbase : (Report.prepare s.reportDirectory).run.run x.1.tree with ⟨e' | _, base⟩
      · rw [hbase] at heq
        exact .unprepared hbase (congrArg Except.error (Except.error.inj heq)) rfl
      · rw [hbase] at heq
        cases heq
  · intro h
    cases h with
    | unprepared hprepare ho hy =>
      refine .inr ⟨_, runs_filing_iff.mpr ?_, ho⟩
      rw [hprepare]
      exact ⟨rfl, hy⟩
    | @prepared base mid written numbered hprepare hwrite ho hy =>
      refine .inl ⟨(), _, runs_filing_ok_iff.mpr ⟨base, hprepare, rfl⟩, Work.runs_bind_iff.mpr ?_⟩
      refine .inl ⟨(written, numbered), ({ x.1 with tree := mid }, x.2), ?_, ?_⟩
      · rw [runs_changing_iff, hwrite]
        exact ⟨rfl, rfl⟩
      · cases written with
        | ok paths => exact Work.runs_pure_iff.mpr ⟨ho, hy⟩
        | error e => exact Work.runs_throw_iff.mpr ⟨ho, hy⟩

/-- The reports on the steps are written if the directory is prepared and every file is written. -/
theorem runs_writeReports_ok_iff :
    Work.Runs c (writeReports s summary) x (.ok summary') y ↔
      ∃ base mid paths, (Report.prepare s.reportDirectory).run.run x.1.tree = (.ok (), base) ∧
        (Report.writeSections s.time s.reportDirectory Report.descriptions summary).run base =
          ((.ok paths, summary'), mid) ∧ y = ({ x.1 with tree := mid }, x.2) := by
  rw [writingReports_iff]
  constructor
  · intro h
    cases h with
    | unprepared _ ho _ => cases ho
    | @prepared base mid written numbered hprepare hwrite ho hy =>
      cases written with
      | ok paths =>
        obtain rfl := Except.ok.inj ho
        exact ⟨base, mid, paths, hprepare, hwrite, hy⟩
      | error e => cases ho
  · rintro ⟨base, mid, paths, hprepare, hwrite, hy⟩
    exact .prepared hprepare hwrite rfl hy

/-! ### Trying the plugin out -/

variable {site : Site}

/-- The summary with what came of a probe. -/
def withProbe (summary : Summary) : Except StepFailure ProbeResult → Summary
  | .ok result => { summary with probe := some result }
  | .error _ => summary

/-- The section on trying the plugin out is the last one of the summary. -/
theorem eq_of_addProbeSection {made : Section}
    (h : Work.Runs c (addProbeSection s summary made) x (.ok summary') y) :
    summary' = { summary with sections :=
      summary.sections ++ [Report.withArtifact (summary.sections.length + 1) made] } := by
  obtain ⟨_, z, -, hend⟩ := Work.runs_bind_ok_iff.mp h
  exact Except.ok.inj (Work.runs_pure_iff.mp hend).1

/-- A report on a probe succeeds by adding the section on it.  What the sweep cannot go on after
is thrown, if need be when it has been reported. -/
theorem exists_outcome_of_reportProbe
    {brought : Except SweepError (Except StepFailure ProbeResult)}
    (h : Work.Runs c (reportProbe s summary brought) x (.ok summary') y) :
    ∃ outcome now, brought = .ok outcome ∧
      Work.Runs c (addProbeSection s (withProbe summary outcome) (probeSection s outcome))
        (x.1, now) (.ok summary') y := by
  unfold reportProbe at h
  split at h
  · rename_i result
    exact ⟨.ok result, x.2, rfl, h⟩
  · rename_i f
    obtain ⟨_, now, -, hadd⟩ := runs_asking_bind_iff.mp h
    exact ⟨.error f, now, rfl, hadd⟩
  · obtain ⟨_, z, -, hfile⟩ := Work.runs_bind_ok_iff.mp h
    obtain ⟨_, z', -, hthrow⟩ := Work.runs_bind_ok_iff.mp hfile
    cases (Work.runs_throw_iff.mp hthrow).1
  · cases (Work.runs_throw_iff.mp h).1

/-- The plugin is tried out under the lock of its site, and reported on; without a path by which
the site is known to all, neither is done. -/
theorem runs_probe_iff {o : Except SweepError Summary} :
    Work.Runs c (probe s site summary) x o y ↔
      (∃ p brought now, x.1.tree.canonical site.root = .ok p ∧
        Dialogue.Runs c (lockedProbe s site p.toString) x.2 brought now ∧
        Work.Runs c (reportProbe s summary brought) (x.1, now) o y) ∨
      ∃ e, x.1.tree.canonical site.root = .error e ∧ o = .error (.path e) ∧ y = x := by
  rw [probe, Work.runs_get_bind_iff]
  cases hcanonical : x.1.tree.canonical site.root with
  | ok p =>
    have hgo : Work.Runs c (pure p.toString >>= fun key =>
          asking (lockedProbe s site key) >>= reportProbe s summary) x o y ↔
        ∃ brought now, Dialogue.Runs c (lockedProbe s site p.toString) x.2 brought now ∧
          Work.Runs c (reportProbe s summary brought) (x.1, now) o y := by
      rw [pure_bind, runs_asking_bind_iff]
    refine hgo.trans ⟨fun ⟨brought, now, h⟩ => .inl ⟨p, brought, now, rfl, h⟩, ?_⟩
    rintro (⟨p', brought, now, heq, h⟩ | ⟨e, heq, -⟩)
    · obtain rfl := Except.ok.inj heq
      exact ⟨brought, now, h⟩
    · cases heq
  | error e =>
    refine Work.runs_throw_bind_iff.trans ?_
    simp

/-- The ways in which trying the plugin out goes. -/
inductive TryingOut (c : Conduct Request.Reply σ) (s : Settings) (found : Option Site)
    (summary : Summary) (x : SweepState × σ) (o : Except SweepError Summary) (y : SweepState × σ) :
    Prop
  /-- There is no site for it, or something stands against it. -/
  | skipped (hnot : ∀ site, found = some site → summary.skipReason ≠ none)
      (ho : o = .ok summary) (hy : y = x)
  /-- The run has been told to end. -/
  | told {site : Site} {asked : σ} (hsite : found = some site) (hnone : summary.skipReason = none)
      (hasked : c x.2 .cancelled true asked) (ho : o = .ok summary) (hy : y = (x.1, asked))
  /-- It is announced and done. -/
  | tried {site : Site} {asked announced : σ} (hsite : found = some site)
      (hnone : summary.skipReason = none) (hasked : c x.2 .cancelled false asked)
      (hannounced : c asked (.announce activationTitle) () announced)
      (hprobe : Work.Runs c (probe s site summary) (x.1, announced) o y)

theorem tryingOut_of_runs {found : Option Site} {o : Except SweepError Summary}
    (h : Work.Runs c (tryOut s found summary) x o y) : TryingOut c s found summary x o y := by
  unfold tryOut at h
  split at h
  · rename_i site hnone
    obtain ⟨stop, asked, hask, hrest⟩ := runs_asking_bind_iff.mp h
    have hasked := Asking.runs_cancelled_iff.mp hask
    cases stop with
    | true =>
      obtain ⟨rfl, rfl⟩ := Work.runs_pure_iff.mp hrest
      exact .told rfl hnone hasked rfl rfl
    | false =>
      obtain ⟨_, announced, hannounce, hprobe⟩ := runs_asking_bind_iff.mp hrest
      exact .tried rfl hnone hasked (Asking.runs_announce_iff.mp hannounce) hprobe
  · rename_i hnot
    obtain ⟨rfl, rfl⟩ := Work.runs_pure_iff.mp h
    exact .skipped hnot rfl rfl

/-! ### The probe under its lock -/

/-- What a sweep sets out to try. -/
def setupOf (s : Settings) (site : Site) : Probe.Setup :=
  ⟨site, s.target.name, s.profile.debugActivation⟩

/-- What a sweep takes from a probe. -/
def taken : Except ProbeError ProbeResult → Except SweepError (Except StepFailure ProbeResult)
  | .ok result => .ok (.ok result)
  | .error (.failure f) => .ok (.error f)
  | .error (.notRestored slug wasActive cause) => .error (.notRestored slug wasActive cause)
  | .error .undecodable => .error .undecodable

theorem eq_ok_of_taken {outcome : Except ProbeError ProbeResult} {result : ProbeResult}
    (h : taken outcome = .ok (.ok result)) : outcome = .ok result := by
  match outcome with
  | .ok result => exact congrArg Except.ok (Except.ok.inj (Except.ok.inj h))
  | .error (.failure f) => cases h
  | .error (.notRestored slug wasActive cause) => cases h
  | .error .undecodable => cases h

/-- The ways in which trying the plugin out under the lock of its site goes. -/
inductive LockedProbing (c : Conduct Request.Reply σ) (s : Settings) (site : Site) (key : String)
    (past : σ) (o : Except SweepError (Except StepFailure ProbeResult)) (now : σ) : Prop
  /-- Someone else has the lock. -/
  | busy {f : StepFailure}
      (hacquire : Dialogue.Runs c (Asking.locking (Lock.acquire s.lockDirectory key)) past
        (.error (.busy f)) now)
      (ho : o = .ok (.error f))
  /-- The lock file is refused. -/
  | refused {e : OsError}
      (hacquire : Dialogue.Runs c (Asking.locking (Lock.acquire s.lockDirectory key)) past
        (.error (.refused e)) now)
      (ho : o = .error (.refused e))
  /-- The lock is held for a probe, and given back after it. -/
  | held {held : HeldLock} {outcome : Except ProbeError ProbeResult} {before last : σ}
      (hacquire : Dialogue.Runs c (Asking.locking (Lock.acquire s.lockDirectory key)) past
        (.ok held) before)
      (hrun : Dialogue.Runs c (Probe.run (setupOf s site)) before outcome last)
      (hrelease : Dialogue.Runs c (Asking.locking (Lock.release held)) last () now)
      (ho : o = taken outcome)

theorem lockedProbing_of_runs {key : String} {past now : σ}
    {o : Except SweepError (Except StepFailure ProbeResult)}
    (h : Dialogue.Runs c (lockedProbe s site key) past o now) :
    LockedProbing c s site key past o now := by
  obtain ⟨got, before, hacquire, hrest⟩ := Dialogue.runs_bind_iff.mp h
  match got with
  | .error (.busy f) =>
    obtain ⟨rfl, rfl⟩ := Dialogue.runs_pure_iff.mp hrest
    exact .busy hacquire rfl
  | .error (.refused e) =>
    obtain ⟨rfl, rfl⟩ := Dialogue.runs_pure_iff.mp hrest
    exact .refused hacquire rfl
  | .ok held =>
    obtain ⟨outcome, last, hrun, hreleased⟩ := Dialogue.runs_bind_iff.mp hrest
    obtain ⟨_, after, hrelease, hend⟩ := Dialogue.runs_bind_iff.mp hreleased
    have hends : o = taken outcome ∧ now = after := by
      match outcome with
      | .ok result => exact Dialogue.runs_pure_iff.mp hend
      | .error (.failure f) => exact Dialogue.runs_pure_iff.mp hend
      | .error (.notRestored slug wasActive cause) => exact Dialogue.runs_pure_iff.mp hend
      | .error .undecodable => exact Dialogue.runs_pure_iff.mp hend
    obtain ⟨ho, rfl⟩ := hends
    exact .held hacquire hrun hrelease ho

/-! ### The conclusion -/

theorem runs_warnSkipped_tree {found : Option Site} {u : Except SweepError Unit}
    (h : Work.Runs c (warnSkipped s found summary) x u y) : u = .ok () ∧ y.1 = x.1 := by
  unfold warnSkipped at h
  split at h
  · obtain ⟨_, -, rfl, hst⟩ := runs_asking_iff.mp h
    exact ⟨rfl, hst⟩
  · obtain ⟨rfl, rfl⟩ := Work.runs_pure_iff.mp h
    exact ⟨rfl, rfl⟩

/-- The ways in which concluding a sweep goes. -/
inductive Concluding (c : Conduct Request.Reply σ) (s : Settings) (v : Survey) (x : SweepState × σ)
    (o : Except SweepError Summary) (y : SweepState × σ) : Prop
  /-- The reports on the steps cannot be written. -/
  | unwritten {e : SweepError} {warned : SweepState × σ}
      (hwarn : Work.Runs c (warnSkipped s v.site
        (summarize s v.ledger v.statistics v.interrupted)) x (.ok ()) warned)
      (hwrite : Work.Runs c (writeReports s (summarize s v.ledger v.statistics v.interrupted))
        warned (.error e) y)
      (ho : o = .error e)
  /-- Trying the plugin out fails. -/
  | failed {e : SweepError} {written : Summary} {warned z : SweepState × σ}
      (hwarn : Work.Runs c (warnSkipped s v.site
        (summarize s v.ledger v.statistics v.interrupted)) x (.ok ()) warned)
      (hwrite : Work.Runs c (writeReports s (summarize s v.ledger v.statistics v.interrupted))
        warned (.ok written) z)
      (htry : Work.Runs c (tryOut s v.site written) z (.error e) y) (ho : o = .error e)
  /-- All that is left is the summary. -/
  | tried {written final : Summary} {warned z z' : SweepState × σ}
      (hwarn : Work.Runs c (warnSkipped s v.site
        (summarize s v.ledger v.statistics v.interrupted)) x (.ok ()) warned)
      (hwrite : Work.Runs c (writeReports s (summarize s v.ledger v.statistics v.interrupted))
        warned (.ok written) z)
      (htry : Work.Runs c (tryOut s v.site written) z (.ok final) z')
      (hfile : Work.Runs c (do
        let _ ← filing (Report.writeSummary s.time s.reportDirectory final)
        pure final) z' o y)

theorem concluding_of_runs {v : Survey} {o : Except SweepError Summary}
    (h : Work.Runs c (conclude s v) x o y) : Concluding c s v x o y := by
  rcases Work.runs_bind_iff.mp h with ⟨_, warned, hwarn, hreports⟩ | ⟨e, hwarn, -⟩
  · rcases Work.runs_bind_iff.mp hreports with ⟨written, z, hwrite, hrest⟩ | ⟨e, hwrite, rfl⟩
    · rcases Work.runs_bind_iff.mp hrest with ⟨final, z', htry, hfile⟩ | ⟨e, htry, rfl⟩
      · exact .tried hwarn hwrite htry hfile
      · exact .failed hwarn hwrite htry rfl
    · exact .unwritten hwarn hwrite rfl
  · cases (runs_warnSkipped_tree hwarn).1

/-- A sweep that comes to a summary has written it last. -/
theorem exists_parts_of_conclude {v : Survey}
    (h : Work.Runs c (conclude s v) x (.ok summary) y) :
    ∃ warned written z z' path,
      Work.Runs c (warnSkipped s v.site (summarize s v.ledger v.statistics v.interrupted)) x
        (.ok ()) warned ∧
      Work.Runs c (writeReports s (summarize s v.ledger v.statistics v.interrupted)) warned
        (.ok written) z ∧
      Work.Runs c (tryOut s v.site written) z (.ok summary) z' ∧
      Work.Runs c (filing (Report.writeSummary s.time s.reportDirectory summary)) z' (.ok path)
        y := by
  cases concluding_of_runs h with
  | unwritten _ _ heq => cases heq
  | failed _ _ _ heq => cases heq
  | tried hwarn hwrite htry hfile =>
    obtain ⟨path, _, hfiled, hend⟩ := Work.runs_bind_ok_iff.mp hfile
    obtain ⟨heq, rfl⟩ := Work.runs_pure_iff.mp hend
    obtain rfl := Except.ok.inj heq
    exact ⟨_, _, _, _, path, hwarn, hwrite, htry, hfiled⟩

end PluginSweep.Sweep
