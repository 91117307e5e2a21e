/-
PluginSweep/Proofs/Sweep/Cut.lean

Runs that are told to end during their steps.  In steady surroundings, let a run with
different steps be told to end first during its `k`-th step, or before the first if `k`
is zero.  Then it is the run that is left alone, cut after `k` steps (`Cut`,
`cut_after_steps`): the first `k` sections are the same, the other steps are recorded as
skipped, from the end of the `k`-th step on nothing is read, started or locked, the
plugin is not tried out, and all reports are written all the same.

The steps have to be different.  A name that comes twice ends the run when its section
is recorded for the second time, whether the step was run or skipped, and then no
report is written (`repeated_step_is_refused`).
-/
import PluginSweep.Proofs.Sweep.Completion
import PluginSweep.Proofs.Sweep.Independence

namespace PluginSweep

theorem Report.take_withArtifacts (index n : Nat) (sections : List Section) :
    (withArtifacts index sections).take n = withArtifacts index (sections.take n) := by
  induction sections generalizing index n with
  | nil => rw [List.take_nil, withArtifacts, List.take_nil]
  | cons made rest ih =>
    cases n with
    | zero => rfl
    | succ n => exact congrArg (withArtifact index made :: ·) (ih (index + 1) n)

namespace Sweep

open History

variable {s : Settings} {world : World} {tree ready : FileSystem} {steps : List Step}
  {place : String → Location} {x y : SweepState × History} {o : Except SweepError Summary}

/-! ### Concluding a run that has been told to end -/

theorem runs_tryOut_told {site : Option Site} {summary : Summary} (hx : .told ∈ x.2)
    (h : Work.Runs heard (tryOut s site summary) x o y) :
    o = .ok summary ∧ y.1 = x.1 ∧ Since Request.Idle x.2 y.2 := by
  cases tryingOut_of_runs h with
  | skipped _ ho hy => exact ⟨ho, hy ▸ rfl, hy ▸ Since.refl _ _⟩
  | told _ _ hasked ho hy =>
    subst hy
    exact ⟨ho, rfl, since_of_heard hasked trivial⟩
  | tried _ _ hasked _ _ =>
    have htold := (told_mem_of_heard_cancelled hasked).mpr ((prefix_of_heard hasked).subset hx)
    exact absurd htold Bool.false_ne_true

theorem runs_warnSkipped_idle {site : Option Site} {summary : Summary}
    {u : Except SweepError Unit} (h : Work.Runs heard (warnSkipped s site summary) x u y) :
    Since Request.Idle x.2 y.2 := by
  unfold warnSkipped at h
  split at h
  · have honly : ∀ w, (Asking.warn w).Only Request.Idle :=
      fun w => Dialogue.only_inquire_iff.mpr trivial
    exact since_of_runs_only h (only_asking (honly _) x.1)
  · obtain ⟨-, rfl⟩ := Work.runs_pure_iff.mp h
    exact Since.refl _ _

/-- The run has ended with a summary that has the sections of the survey and no other, and all
reports can be read. -/
structure Reported (s : Settings) (v : Survey) (o : Except SweepError Summary)
    (tree : FileSystem) : Prop where
  summary : ∃ summary, o = .ok summary ∧
    summary.sections = Report.withArtifacts 1 v.ledger.sections ∧
    summary.interrupted = v.interrupted ∧
    tree.read (s.reportDirectory.child Report.summaryFile) =
      .ok (Text.encode (Report.renderSummary s.time summary))
  reports : Readable s (stepReports s v) tree

/-- A run that has been told to end writes all its reports, and does not try the plugin out. -/
theorem runs_conclude_told {v : Survey} (hx : .told ∈ x.2)
    (hsteps : v.ledger.sections.map (·.name) = s.profile.checks ++ s.profile.tools)
    (hprepare : (Report.prepare s.reportDirectory).run.run x.1.tree = (.ok (), ready))
    (hready : Report.Ready s.reportDirectory place (reportFiles s.profile) ready)
    (h : Work.Runs heard (conclude s v) x o y) :
    Since Request.Idle x.2 y.2 ∧ Reported s v o y.1.tree := by
  have hreadable := (runs_conclude_written hsteps hprepare hready h).1
  obtain ⟨warned, z, hwarn, hz, hstanding, -, hrest⟩ :=
    exists_standing_of_conclude hsteps hprepare hready.toWritable h
  have htold : .told ∈ z.2 := hz ▸ (prefix_of_runs hwarn).subset hx
  have hidle : Since Request.Idle x.2 z.2 := hz ▸ runs_warnSkipped_idle hwarn
  rcases Work.runs_bind_iff.mp hrest with ⟨final, z₁, htry, hfile⟩ | ⟨e, htry, -⟩
  · obtain ⟨heq, hst, hidle₁⟩ := runs_tryOut_told htold htry
    obtain rfl := Except.ok.inj heq
    have hstands := hstanding.written
    rw [← hst] at hstands
    -- Nothing has been added, so only the summary is left to be written.
    rcases Work.runs_bind_iff.mp hfile with ⟨path, z₂, hfiled, hend⟩ | ⟨e, hfiled, -⟩
    · obtain ⟨-, hz₂, hsummary⟩ :=
        runs_filing_writeText hstands hstanding.roomForSummary hstanding.apart hfiled
      obtain ⟨rfl, rfl⟩ := Work.runs_pure_iff.mp hend
      refine ⟨?_, ⟨_, rfl, rfl, rfl, ?_⟩, hreadable⟩
      · rw [hz₂]
        exact hidle.trans hidle₁
      · exact hsummary.posted.read_last
    · obtain ⟨heq, -, -⟩ :=
        runs_filing_writeText hstands hstanding.roomForSummary hstanding.apart hfiled
      cases heq
  · cases (runs_tryOut_told htold htry).1

/-! ### The cut -/

/-- The run of the sweep is the run that is left alone, cut after `k` steps: `v` is what its survey
has come to, and `ended` is when the `k`-th step was recorded. -/
structure Cut (world : World) (s : Settings) (steps : List Step) (tree : FileSystem) (k : Nat)
    (v : Survey) (ended : SweepState × History) (o : Except SweepError Summary)
    (y : SweepState × History) : Prop where
  surveyed : ∃ z, Work.Runs (steady world) (survey s) ({ tree }, []) (.ok v) z ∧ z.2 <+: y.2
  /-- The first `k` steps were taken and recorded as ever. -/
  taken : Work.Runs (steady world)
    (opening s >>= fun opened => runSteps s opened.2.1 (steps.take k) {}) ({ tree }, [])
    (.ok ⟨v.ledger.sections.take k⟩) ended
  /-- A run that is left alone has recorded the same for them. -/
  same : ∀ o' y', Work.Runs (steady world) (run s) ({ tree }, []) o' y' → .told ∉ y'.2 →
    ∃ recorded, Recorded (steady world) s ({ tree }, []) recorded o' y' ∧
      k ≤ recorded.length ∧ recorded.take k = v.ledger.sections.take k
  /-- All the others are recorded as skipped. -/
  skipped : v.ledger.sections.drop k = (steps.drop k).map skippedSection
  /-- After the `k`-th step nothing is done but asking and warning. -/
  idle : Since Request.Idle ended.2 y.2
  interrupted : v.interrupted = true
  reported : Reported s v o y.1.tree

/-- The sections of a survey are those of the steps that it has begun, and then those of the steps
that it has skipped. -/
theorem Taken.sections {files : List Candidate} {l' : Ledger} {begun : Nat} {made : List Section}
    {z : SweepState × History} (h : Taken world s tree files steps {} x l' y begun made z) :
    l'.sections.take begun = made ∧
      l'.sections.drop begun = (steps.drop begun).map skippedSection := by
  have hlength : made.length = begun := by
    rw [← h.brings.length_eq, List.length_take_of_le h.within]
  have hsections : l'.sections = made ++ (steps.drop begun).map skippedSection := by
    rw [h.ledger]
    rfl
  rw [hsections]
  exact ⟨List.take_left' hlength, List.drop_left' hlength⟩

/-- If a run is told to end after `k` of its steps, it has begun just these when it asks for the
last time whether to go on, and it is not let go on. -/
theorem begun_of_toldAfter {files : List Candidate} {l l' : Ledger}
    {w ended : SweepState × History} {begun k : Nat} {made : List Section} {stop : Bool}
    {asked now : History} (htaken : Taken world s tree files steps l x l' w begun made ended)
    (hzero : x.2.countP grants = 0) (hreply : heard w.2 .cancelled stop asked)
    (hasked : asked <+: now) (hobeyed : Obeyed now) (hk : k ≤ steps.length)
    (htold : ToldAfter k now) : stop = true ∧ begun = k := by
  have hcount := countP_grants_of_heard hreply
  have hbegun : w.2.countP grants = begun := by
    rw [htaken.countedAll, htaken.counted, hzero, Nat.zero_add]
  have hyes : stop = true := by
    by_contra hno
    have hnone : .told ∉ w.2 := fun hw =>
      hno ((told_mem_of_heard_cancelled hreply).mpr ((prefix_of_heard hreply).subset hw))
    -- All steps would have been begun, and the last question would be granted as well.
    have hall : steps.length ≤ begun := by
      by_contra hless
      exact hnone (htaken.told (Nat.lt_of_not_le hless))
    have hless := hasked.sublist.countP_le (p := grants)
    rw [htold.countP_grants hobeyed, hcount, hbegun, Bool.eq_false_iff.mpr hno] at hless
    have hone : begun + 1 ≤ k := hless
    omega
  refine ⟨hyes, ?_⟩
  -- Nothing is granted after the run has been told to end.
  have hend : .told ∈ asked := (told_mem_of_heard_cancelled hreply).mp hyes
  rw [← htold.countP_grants hobeyed, countP_grants_of_told hend hasked hobeyed, hcount, hbegun,
    hyes]
  rfl

/-- The first sections that a run records which is left alone are those of the first steps. -/
theorem same_of_taken {files : List Candidate} {made : List Section} {k : Nat}
    {site : Option Site} {statistics : Statistics} (hplan : plan s.profile = .ok steps)
    (hnames : (s.profile.checks ++ s.profile.tools).Nodup) (hworld : Textual world)
    (hopened : openingIn world s tree = .ok (site, files, statistics)) (hk : k ≤ steps.length)
    (hmade : List.Forall₂ (BringsIn world s tree files) (steps.take k) made)
    {o' : Except SweepError Summary} {y' : SweepState × History}
    (h' : Work.Runs (steady world) (run s) ({ tree }, []) o' y') (hleft : .told ∉ y'.2) :
    ∃ recorded, Recorded (steady world) s ({ tree }, []) recorded o' y' ∧
      k ≤ recorded.length ∧ recorded.take k = made := by
  rcases runs_run_left_alone hplan hnames hworld h' hleft with
    ⟨e, herror, -⟩ | ⟨opened, recorded, hopened', -, hrecorded, hbrings⟩
  · rw [hopened] at herror
    cases herror
  · rw [hopened] at hopened'
    obtain rfl := Except.ok.inj hopened'
    have hunique : Relator.RightUnique (BringsIn world s tree files) :=
      fun step made made' hmade hmade' => hmade.unique hmade'
    refine ⟨recorded, hrecorded, hbrings.length_eq ▸ hk, ?_⟩
    exact hunique.forall₂ (List.forall₂_take k hbrings) hmade

/-- **A run that is told to end is the run that is left alone, cut after the step in which it was
told so**, unless it ends with its opening. -/
theorem cut_after_steps {k : Nat} (hplan : plan s.profile = .ok steps)
    (hnames : (s.profile.checks ++ s.profile.tools).Nodup) (hworld : Textual world)
    (hprepare : (Report.prepare s.reportDirectory).run.run tree = (.ok (), ready))
    (hready : Report.Ready s.reportDirectory place (reportFiles s.profile) ready)
    (hk : k ≤ steps.length) (h : Work.Runs (steady world) (run s) ({ tree }, []) o y)
    (htold : ToldAfter k y.2) :
    (∃ e, Unopened (steady world) s ({ tree }, []) e o y) ∨
      ∃ v ended, Cut world s steps tree k v ended o y := by
  have hobeyed : Obeyed y.2 := obeyed_of_runs (runs_heard_of_steady h) obeyed_nil
  rcases Work.runs_bind_iff.mp h with ⟨v, z, hsurvey, hconclude⟩ | ⟨e, hsurvey, rfl⟩
  · -- The survey has come to its end, and cannot have failed in its opening.
    rcases runs_survey_steady hplan hnames hworld hsurvey with
      ⟨e, -, heq, -⟩ | ⟨opened, x, v', w, begun, made, ended, hopened, heq, hopening, -, hzero, -,
        -, htaken, hask⟩
    · cases heq
    · obtain rfl := Except.ok.inj heq
      -- It was opened, took steps, and asked a last time whether to go on.
      have hheard : Work.Runs heard (conclude s v) z o y := runs_heard_of_steady hconclude
      have hpast : z.2 <+: y.2 := prefix_of_runs hheard
      obtain ⟨_, hcancelled, hinterrupted, -⟩ := runs_asking_iff.mp hask
      obtain rfl := Except.ok.inj hinterrupted
      have hreply := heard_of_steady (Asking.runs_cancelled_iff.mp hcancelled)
      obtain ⟨hyes, rfl⟩ := begun_of_toldAfter htaken hzero hreply hpast hobeyed hk htold
      have hz : .told ∈ z.2 := (told_mem_of_heard_cancelled hreply).mp hyes
      obtain ⟨htake, hskipped⟩ := htaken.sections
      -- From the end of the last step on the run asks for nothing but whether to go on.
      have hidle : Since Request.Idle ended.2 z.2 :=
        htaken.idle.trans (since_of_heard hreply trivial)
      obtain ⟨walk, steps', hsurveyed⟩ := runs_survey (runs_heard_of_steady hsurvey)
      obtain rfl := Except.ok.inj (hplan.symm.trans hsurveyed.planned)
      have hsteps := (names_of_brings hsurveyed.brings).trans (plan_eq_ok hplan).2
      rw [← show z.1.tree = tree from hsurveyed.learns.tree] at hprepare
      obtain ⟨hquiet, hreported⟩ := runs_conclude_told hz hsteps hprepare hready hheard
      refine .inr ⟨v, ended, ⟨z, hsurvey, hpast⟩, ?_, ?_, hskipped, hidle.trans hquiet, hyes,
        hreported⟩
      · rw [htake]
        exact Work.runs_bind_ok_iff.mpr ⟨opened, x, hopening, htaken.recorded⟩
      · intro o' y' h' hleft
        rw [htake]
        exact same_of_taken hplan hnames hworld hopened hk htaken.brings h' hleft
  · -- The survey has failed, and nothing in it can but its opening.
    rcases runs_survey_steady hplan hnames hworld hsurvey with
      ⟨e', -, heq, hopening⟩ | ⟨_, _, _, _, _, _, _, -, heq, -⟩
    · obtain rfl := Except.error.inj heq
      exact .inl ⟨e, hopening, rfl⟩
    · cases heq

/-- The summaries begin with the same sections, numbers and all. -/
theorem Cut.summaries_alike {k : Nat} {v : Survey} {ended : SweepState × History}
    {summary summary' : Summary} {y' : SweepState × History}
    (h : Cut world s steps tree k v ended (.ok summary) y)
    (h' : Work.Runs (steady world) (run s) ({ tree }, []) (.ok summary') y')
    (hleft : .told ∉ y'.2) : summary'.sections.take k = summary.sections.take k := by
  obtain ⟨recorded, hrecorded, hk, hsame⟩ := h.same _ _ h' hleft
  obtain ⟨more, hmore, -⟩ := hrecorded.listed summary' rfl
  obtain ⟨_, heq, hsections, -⟩ := h.reported.summary
  obtain rfl := Except.ok.inj heq
  rw [hmore, hsections, Report.take_withArtifacts, ← hsame, List.take_append_of_le_length,
    Report.take_withArtifacts]
  rwa [Report.length_withArtifacts]

/-- A file is to be scanned. -/
def readsFile : Request → Bool
  | .read _ _ => true
  | _ => false

/-- The sweep of the plugin that does nothing, told to end while its first check reads the file. -/
def toldRun : (Except SweepError Summary × SweepState) × History :=
  ((run bareSettings).run.run { tree := bareTree }).answer (obliging readsFile) []

/-- It comes to a summary, after having been told once one step was granted. -/
theorem exists_toldRun : ∃ summary st now,
    Work.Runs (steady (obligingReply [])) (run bareSettings) ({ tree := bareTree }, [])
      (.ok summary) (st, now) ∧ ToldAfter 1 now := by
  have hrun : Work.Runs (steady (obligingReply [])) (run bareSettings) ({ tree := bareTree }, [])
      toldRun.1.1 (toldRun.1.2, toldRun.2) :=
    Work.runs_answer (steady_obliging readsFile) (run bareSettings) { tree := bareTree } []
  have hends : toldRun.1.1.toBool = true ∧ toldRun.2.any tells = true ∧
      (untilTold toldRun.2).countP grants = 1 := by
    decide +kernel
  obtain ⟨hok, htold, hcount⟩ := hends
  rcases hsummary : toldRun.1.1 with e | summary <;> rw [hsummary] at hrun hok
  · cases hok
  · exact ⟨summary, _, _, hrun, any_tells_iff.mp htold, hcount⟩

/-- It is cut short after that check. -/
theorem cut_after_steps_bare :
    ∃ steps, plan bareSettings.profile = .ok steps ∧
      (bareSettings.profile.checks ++ bareSettings.profile.tools).Nodup ∧
      Textual (obligingReply []) ∧
      (Report.prepare bareSettings.reportDirectory).run.run bareTree = (.ok (), bareReady) ∧
      Report.Ready bareSettings.reportDirectory barePlace (reportFiles bareSettings.profile)
        bareReady ∧ 1 ≤ steps.length ∧
      ∃ o y v ended, Work.Runs (steady (obligingReply [])) (run bareSettings)
          ({ tree := bareTree }, []) o y ∧ ToldAfter 1 y.2 ∧
        Cut (obligingReply []) bareSettings steps bareTree 1 v ended o y := by
  obtain ⟨steps, hplan⟩ : ∃ steps, plan bareSettings.profile = .ok steps := ⟨_, rfl⟩
  have hnames : (bareSettings.profile.checks ++ bareSettings.profile.tools).Nodup := by
    decide +kernel
  have hworld : Textual (obligingReply []) := fun command heq => by cases heq
  have hprepare : (Report.prepare bareSettings.reportDirectory).run.run bareTree =
      (.ok (), bareReady) := rfl
  have hready : Report.Ready bareSettings.reportDirectory barePlace
      (reportFiles bareSettings.profile) bareReady := bareReady_ready
  have hlength : 1 ≤ steps.length := by
    rw [← List.length_map, (plan_eq_ok hplan).2]
    decide
  obtain ⟨summary, st, now, hrun, hafter⟩ := exists_toldRun
  rcases cut_after_steps hplan hnames hworld hprepare hready hlength hrun hafter with
    ⟨e, -, herror⟩ | ⟨v, ended, hcut⟩
  · cases herror
  · exact ⟨steps, hplan, hnames, hworld, hprepare, hready, hlength, _, _, v, ended, hrun, hafter,
      hcut⟩

/-! ### A name that comes twice -/

/-- The plugin that does nothing, swept twice for nonces. -/
def repeatedSettings : Settings :=
  { bareSettings with profile := { name := "nonces", checks := ["nonces", "nonces"] } }

/-- The section of the name has been recorded before. -/
def refusedAgain {α : Type} (name : String) : Except SweepError α → Bool
  | .error (.alreadyRecorded e) => e.name == name
  | _ => false

/-- **A step that comes twice is refused, and no report is written.**  The run is told to end while
its first step reads a file; the second step is skipped, but its section has a name that is taken,
and the run ends with that. -/
theorem repeated_step_is_refused :
    ∃ y, Work.Runs (steady (obligingReply [])) (run repeatedSettings) ({ tree := bareTree }, [])
        (.error (.alreadyRecorded ⟨"nonces"⟩)) y ∧
      ToldAfter 1 y.2 ∧
      ∀ file ∈ reportFiles repeatedSettings.profile, ∀ bytes,
        y.1.tree.read (repeatedSettings.reportDirectory.child file) ≠ .ok bytes := by
  have hrun := Work.runs_answer (steady_obliging readsFile) (run repeatedSettings)
    { tree := bareTree } []
  have hends : refusedAgain "nonces" (((run repeatedSettings).run.run { tree := bareTree }).answer
        (obliging readsFile) []).1.1 = true ∧
      (((run repeatedSettings).run.run { tree := bareTree }).answer
        (obliging readsFile) []).2.any tells = true ∧
      (untilTold (((run repeatedSettings).run.run { tree := bareTree }).answer
        (obliging readsFile) []).2).countP grants = 1 ∧
      ∀ file ∈ reportFiles repeatedSettings.profile,
        ((((run repeatedSettings).run.run { tree := bareTree }).answer
          (obliging readsFile) []).1.2.tree.read
            (repeatedSettings.reportDirectory.child file)).toBool = false := by
    decide +kernel
  obtain ⟨hrefused, htold, hcount, hnone⟩ := hends
  rcases ho : (((run repeatedSettings).run.run { tree := bareTree }).answer
    (obliging readsFile) []).1.1 with e | summary <;> rw [ho] at hrefused hrun
  · cases e with
    | alreadyRecorded e =>
      have hname : e = ⟨"nonces"⟩ := by
        rw [← beq_iff_eq.mp hrefused]
      rw [hname] at hrun
      refine ⟨_, hrun, ⟨any_tells_iff.mp htold, hcount⟩, fun file hfile bytes hread => ?_⟩
      have hfalse := hnone file hfile
      rw [hread] at hfalse
      cases hfalse
    | _ => cases hrefused
  · cases hrefused

end Sweep

end PluginSweep
