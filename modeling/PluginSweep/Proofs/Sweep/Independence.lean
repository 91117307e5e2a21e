/-
PluginSweep/Proofs/Sweep/Independence.lean

Steps do not influence each other.  All steps of a sweep share the files, the sources
that are kept and the ledger.  Nevertheless, where what comes of a tool depends on the
command alone, and what comes of reading a file on the file alone, a run that is left
alone records for a step the very section that it would record if the step were the
only one of the profile; it does so whatever comes of the questions of other steps; and
if the checks and the tools are put in another order, the sections are merely put in
another order (`Independent`, `steps_independent`).

Any two such runs have the same opening, so that they list the same files, and each
records for every step the section that the step has in its world
(`compare_left_alone`).  The section of a step depends on the questions of this step
alone, which is all that the three statements need.
-/
import Mathlib.Data.List.Nodup
import Mathlib.Data.List.Perm.Basic
import PluginSweep.Proofs.Sweep.Gate
import PluginSweep.Proofs.Sweep.Recorded

namespace PluginSweep

open Dialogue (Conduct)

/-! ### Other profiles -/

/-- The settings, with other checks and tools in the profile. -/
def Settings.withSteps (s : Settings) (checks tools : List String) : Settings :=
  { s with profile := { s.profile with checks, tools } }

/-- The settings, with only one step in the profile. -/
def Settings.withOnly (s : Settings) : Sweep.Step → Settings
  | .check check => s.withSteps [check.name] []
  | .tool name _ => s.withSteps [] [name]

namespace Sweep

open History

variable {s : Settings} {world world' : World} {tree : FileSystem} {files : List Candidate}
  {steps steps' : List Step} {checks tools : List String} {o o' : Except SweepError Summary}
  {y y' : SweepState × History}

theorem openingIn_withSteps :
    openingIn world (s.withSteps checks tools) tree = openingIn world s tree := rfl

theorem sectionIn_withSteps {step : Step} :
    sectionIn world (s.withSteps checks tools) tree files step =
      sectionIn world s tree files step := by
  cases step with
  | check check => rfl
  | tool name title => rfl

theorem exists_withOnly (step : Step) :
    ∃ checks tools, s.withOnly step = s.withSteps checks tools := by
  cases step with
  | check check => exact ⟨_, _, rfl⟩
  | tool name title => exact ⟨_, _, rfl⟩

theorem plan_withOnly {step : Step} (hstep : step.Known) :
    plan (s.withOnly step).profile = .ok [step] := by
  cases step with
  | check check =>
    have hfind : Check.find? check.name = some check := hstep
    have hcheck : checkStep check.name = .ok (.check check) := by rw [checkStep, hfind]
    simp [plan, Settings.withOnly, Settings.withSteps, hcheck]
  | tool name title =>
    have htitle : Tool.title? name = some title := hstep
    have htool : toolStep name = .ok (.tool name title) := by rw [toolStep, htitle]
    simp [plan, Settings.withOnly, Settings.withSteps, htool]

theorem mapM_eq_ok_iff {f : String → Except SweepError Step} {names : List String} :
    names.mapM f = .ok steps ↔ List.Forall₂ (fun name step => f name = .ok step) names steps := by
  induction names generalizing steps with
  | nil =>
    rw [List.forall₂_nil_left_iff]
    constructor
    · intro h
      exact (Except.ok.inj h).symm
    · rintro rfl
      rfl
  | cons name names ih =>
    rw [List.mapM_cons, List.forall₂_cons_left_iff]
    rcases hfirst : f name with e | step
    · constructor
      · intro h
        cases h
      · rintro ⟨step, rest, hstep, -, -⟩
        cases hstep
    · constructor
      · intro h
        rcases hrest : names.mapM f with e | rest <;> rw [hrest] at h
        · cases h
        · exact ⟨step, rest, rfl, ih.mp hrest, (Except.ok.inj h).symm⟩
      · rintro ⟨step', rest, hstep, hrest, rfl⟩
        obtain rfl := Except.ok.inj hstep
        rw [ih.mpr hrest]
        rfl

/-- Steps that are found for names are found for the names in another order. -/
theorem mapM_perm {f : String → Except SweepError Step} {names names' : List String}
    (hperm : names'.Perm names) (h : names.mapM f = .ok steps) :
    ∃ steps', names'.mapM f = .ok steps' ∧ steps'.Perm steps := by
  obtain ⟨steps', hsteps', hperm'⟩ := List.perm_comp_forall₂ hperm (mapM_eq_ok_iff.mp h)
  exact ⟨steps', mapM_eq_ok_iff.mpr hsteps', hperm'⟩

theorem plan_perm (hplan : plan s.profile = .ok steps) (hchecks : checks.Perm s.profile.checks)
    (htools : tools.Perm s.profile.tools) :
    ∃ steps', plan (s.withSteps checks tools).profile = .ok steps' ∧ steps'.Perm steps := by
  rw [plan] at hplan
  rcases hfound : s.profile.checks.mapM checkStep with e | checkSteps <;> rw [hfound] at hplan
  · cases hplan
  · rcases hfound' : s.profile.tools.mapM toolStep with e | toolSteps <;> rw [hfound'] at hplan
    · cases hplan
    · obtain rfl := Except.ok.inj hplan
      obtain ⟨checkSteps', hcheckSteps, hcheckPerm⟩ := mapM_perm hchecks hfound
      obtain ⟨toolSteps', htoolSteps, htoolPerm⟩ := mapM_perm htools hfound'
      refine ⟨checkSteps' ++ toolSteps', ?_, hcheckPerm.append htoolPerm⟩
      rw [plan, Settings.withSteps, hcheckSteps, htoolSteps]
      rfl

/-! ### Two runs side by side -/

/-- Either both runs have ended with their openings, for the same error, and have recorded nothing;
or both have recorded sections, and these are related. -/
def Compare (c c' : Conduct Request.Reply History) (s s' : Settings) (tree : FileSystem)
    (rel : List Section → List Section → Prop) (o : Except SweepError Summary)
    (y : SweepState × History) (o' : Except SweepError Summary) (y' : SweepState × History) :
    Prop :=
  (∃ e, Unopened c s ({ tree }, []) e o y ∧ Unopened c' s' ({ tree }, []) e o' y') ∨
    ∃ recorded recorded', Recorded c s ({ tree }, []) recorded o y ∧
      Recorded c' s' ({ tree }, []) recorded' o' y' ∧ rel recorded recorded'

/-- Two runs that are left alone, with profiles that differ in their steps only and in worlds that
are the same to their opening, list the same files, and record what their steps have in their
worlds. -/
theorem compare_left_alone (hworld : Textual world) (hworld' : Textual world')
    (hopening : openingIn world s tree = openingIn world' s tree)
    (hplan : plan s.profile = .ok steps)
    (hplan' : plan (s.withSteps checks tools).profile = .ok steps')
    (hnames : (s.profile.checks ++ s.profile.tools).Nodup) (hnames' : (checks ++ tools).Nodup)
    (h : Work.Runs (steady world) (run s) ({ tree }, []) o y) (hleft : .told ∉ y.2)
    (h' : Work.Runs (steady world') (run (s.withSteps checks tools)) ({ tree }, []) o' y')
    (hleft' : .told ∉ y'.2) {rel : List Section → List Section → Prop}
    (hrel : ∀ walk recorded recorded', candidates s tree = .ok walk →
      List.Forall₂ (BringsIn world s tree walk.files) steps recorded →
      List.Forall₂ (BringsIn world' s tree walk.files) steps' recorded' →
      rel recorded recorded') :
    Compare (steady world) (steady world') s (s.withSteps checks tools) tree rel o y o' y' := by
  rcases runs_run_left_alone hplan hnames hworld h hleft with
    ⟨e, hopened, hunopened⟩ | ⟨opened, recorded, hopened, ⟨walk, hwalk, hfiles⟩, hrecorded, hbrings⟩
  -- Each of the runs has been opened or not, and their openings are alike.
  all_goals
    rcases runs_run_left_alone hplan' hnames' hworld' h' hleft' with
      ⟨e', hopened', hunopened'⟩ |
      ⟨opened', recorded', hopened', -, hrecorded', hbrings'⟩
    all_goals rw [openingIn_withSteps, ← hopening, hopened] at hopened'
  · obtain rfl := Except.error.inj hopened'
    exact .inl ⟨e, hunopened, hunopened'⟩
  · cases hopened'
  · cases hopened'
  · obtain rfl := Except.ok.inj hopened'
    have hsame : List.Forall₂ (BringsIn world' s tree walk.files) steps' recorded' := by
      rw [hfiles]
      exact hbrings'.imp fun step made hmade => sectionIn_withSteps.symm.trans hmade
    exact .inr ⟨recorded, recorded', hrecorded, hrecorded',
      hrel walk recorded recorded' hwalk (hfiles ▸ hbrings) hsame⟩

/-! ### The section of one step -/

/-- The two worlds are the same to the opening of the sweep and to the step. -/
structure SameFor (world world' : World) (s : Settings) (tree : FileSystem) (step : Step) :
    Prop where
  site : ∀ site, s.probedSite = some site →
    world (.launch (site.command .isInstalled)) = world' (.launch (site.command .isInstalled))
  step : ∀ walk, candidates s tree = .ok walk → ∀ q, step.Asks s walk.files q → world q = world' q

/-- The section of a step bears the step's name. -/
theorem BringsIn.name {step : Step} {made : Section} (h : BringsIn world s tree files step made)
    (hstep : step.Known) : made.name = step.name := by
  -- The name is known of all runs of the step, and there is one that brings this section.
  obtain ⟨⟨o, st⟩, now, hrun, -⟩ : ∃ a now, Dialogue.Runs (steady world)
      ((stepSection s files step).run.run { tree }) [] a now ∧ .told ∉ now :=
    exists_runs_undisturbed _ List.not_mem_nil
  have honly : ((stepSection s files step).run.run { tree }).Only Request.Outward :=
    (only_stepSection step { tree }).mono fun _ => Step.Asks.outward
  have hvalue := eq_value_of_runs_steady hrun honly
  have ho : o = .ok made := (congrArg Prod.fst hvalue).trans h
  subst ho
  have hheard : Work.Runs heard (stepSection s files step) ({ tree }, []) (.ok made) (st, now) :=
    runs_heard_of_steady hrun
  exact (runs_stepSection hstep hheard).2.name

/-- Where sections are recorded that are brought by steps with different names, the section of a
name is that of the step. -/
theorem get?_of_brings {recorded : List Section} {step : Step}
    (hknown : ∀ step ∈ steps, step.Known) (hnames : (steps.map Step.name).Nodup)
    (hbrings : List.Forall₂ (BringsIn world s tree files) steps recorded) (hstep : step ∈ steps) :
    ∃ made, BringsIn world s tree files step made ∧
      Ledger.get? ⟨recorded⟩ step.name = some made := by
  induction hbrings with
  | nil => cases hstep
  | @cons first sec rest others hfirst _ ih =>
    have hname : sec.name = first.name := hfirst.name (hknown first List.mem_cons_self)
    obtain ⟨hnew, hdistinct⟩ := List.nodup_cons.mp hnames
    rcases List.mem_cons.mp hstep with rfl | hrest
    · exact ⟨sec, hfirst, List.find?_cons_of_pos (beq_iff_eq.mpr hname)⟩
    · obtain ⟨made, hmade, hget⟩ :=
        ih (fun other hother => hknown other (List.mem_cons_of_mem _ hother)) hdistinct hrest
      have hne : first.name ≠ step.name := fun heq => hnew (heq ▸ List.mem_map_of_mem hrest)
      refine ⟨made, hmade, ?_⟩
      rw [← hget, Ledger.get?, Ledger.get?]
      exact List.find?_cons_of_neg (by simpa [hname] using hne)

theorem BringsIn.unique {step : Step} {made made' : Section}
    (h : BringsIn world s tree files step made) (h' : BringsIn world s tree files step made') :
    made = made' :=
  Except.ok.inj (h.symm.trans h')

/-- The section of a step is the same in worlds that are the same to it. -/
theorem BringsIn.congr {walk : Walk} {step : Step} {made : Section}
    (hwalk : candidates s tree = .ok walk) (hsame : SameFor world world' s tree step)
    (h : BringsIn world s tree walk.files step made) :
    BringsIn world' s tree walk.files step made :=
  (sectionIn_congr (hsame.step walk hwalk)).symm.trans h

/-! ### Independence -/

/-- What independence of the steps is, for a run of a sweep in the world `world`. -/
structure Independent (world : World) (s : Settings) (steps : List Step) (tree : FileSystem)
    (o : Except SweepError Summary) (y : SweepState × History) : Prop where
  /-- A run with only one of the steps records nothing but the section that this run has recorded
  for it. -/
  alone : ∀ step ∈ steps, ∀ o' y',
    Work.Runs (steady world) (run (s.withOnly step)) ({ tree }, []) o' y' → .told ∉ y'.2 →
    Compare (steady world) (steady world) s (s.withOnly step) tree
      (fun recorded recorded' => ∃ made, Ledger.get? ⟨recorded⟩ step.name = some made ∧
        recorded' = [made]) o y o' y'
  /-- Whatever comes of the questions of the other steps, the section of a step is the same. -/
  others : ∀ step ∈ steps, ∀ world', Textual world' → SameFor world world' s tree step → ∀ o' y',
    Work.Runs (steady world') (run s) ({ tree }, []) o' y' → .told ∉ y'.2 →
    Compare (steady world) (steady world') s s tree
      (fun recorded recorded' => ∃ made, Ledger.get? ⟨recorded⟩ step.name = some made ∧
        Ledger.get? ⟨recorded'⟩ step.name = some made) o y o' y'
  /-- With the checks and the tools in another order, the sections are in another order. -/
  permuted : ∀ checks tools, checks.Perm s.profile.checks → tools.Perm s.profile.tools → ∀ o' y',
    Work.Runs (steady world) (run (s.withSteps checks tools)) ({ tree }, []) o' y' →
    .told ∉ y'.2 →
    Compare (steady world) (steady world) s (s.withSteps checks tools) tree
      (fun recorded recorded' => recorded'.Perm recorded) o y o' y'

/-- **Steps do not influence each other.**  The section that a run records for a step is the one
that it would record if the step were alone, whatever comes of the other steps, and in whatever
order they stand. -/
theorem steps_independent (hplan : plan s.profile = .ok steps)
    (hnames : (s.profile.checks ++ s.profile.tools).Nodup) (hworld : Textual world)
    (h : Work.Runs (steady world) (run s) ({ tree }, []) o y) (hleft : .told ∉ y.2) :
    Independent world s steps tree o y := by
  obtain ⟨hknown, hstepNames⟩ := plan_eq_ok hplan
  have hdistinct : (steps.map Step.name).Nodup := hstepNames ▸ hnames
  constructor
  · -- The step alone, in the same world.
    intro step hstep o' y' h' hleft'
    have hplan' := plan_withOnly (s := s) (hknown step hstep)
    obtain ⟨checks, tools, honly⟩ := exists_withOnly (s := s) step
    have hone : (checks ++ tools).Nodup := by
      rw [honly] at hplan'
      rw [show checks ++ tools = [step].map Step.name from (plan_eq_ok hplan').2.symm]
      exact List.nodup_singleton _
    rw [honly] at hplan' h' ⊢
    refine compare_left_alone hworld hworld rfl hplan hplan' hnames hone h hleft h' hleft' ?_
    intro walk recorded recorded' hwalk hbrings hbrings'
    obtain ⟨made, hmade, hget⟩ := get?_of_brings hknown hdistinct hbrings hstep
    obtain ⟨made', rest, hmade', hrest, rfl⟩ := List.forall₂_cons_left_iff.mp hbrings'
    obtain rfl := List.forall₂_nil_left_iff.mp hrest
    exact ⟨made, hget, by rw [hmade'.unique hmade]⟩
  · intro step hstep world' hworld' hsame o' y' h' hleft'
    have hopening : openingIn world s tree = openingIn world' s tree := openingIn_congr hsame.site
    have hown : s.withSteps s.profile.checks s.profile.tools = s := rfl
    rw [← hown] at h'
    refine compare_left_alone hworld hworld' hopening hplan hplan hnames hnames h hleft h' hleft' ?_
    intro walk recorded recorded' hwalk hbrings hbrings'
    obtain ⟨made, hmade, hget⟩ := get?_of_brings hknown hdistinct hbrings hstep
    obtain ⟨made', hmade', hget'⟩ := get?_of_brings hknown hdistinct hbrings' hstep
    obtain rfl := (hmade.congr hwalk hsame).unique hmade'
    exact ⟨made, hget, hget'⟩
  · intro checks tools hchecks htools o' y' h' hleft'
    obtain ⟨steps', hplan', hperm⟩ := plan_perm hplan hchecks htools
    have hnames' : (checks ++ tools).Nodup := (hchecks.append htools).nodup_iff.mpr hnames
    refine compare_left_alone hworld hworld rfl hplan hplan' hnames hnames' h hleft h' hleft' ?_
    intro walk recorded recorded' hwalk hbrings hbrings'
    obtain ⟨recorded₁, hrecorded₁, hperm₁⟩ := List.perm_comp_forall₂ hperm hbrings
    have hunique : Relator.RightUnique (BringsIn world s tree walk.files) :=
      fun step made made' hmade hmade' => hmade.unique hmade'
    rw [hunique.forall₂ hbrings' hrecorded₁]
    exact hperm₁

/-- The plugin that does nothing, swept in an obliging world, where the run comes to a summary. -/
theorem steps_independent_bare :
    ∃ steps, plan bareSettings.profile = .ok steps ∧
      (bareSettings.profile.checks ++ bareSettings.profile.tools).Nodup ∧
      Textual (obligingReply []) ∧
      ∃ summary y, Work.Runs (steady (obligingReply [])) (run bareSettings)
          ({ tree := bareTree }, []) (.ok summary) y ∧ .told ∉ y.2 ∧
        Independent (obligingReply []) bareSettings steps bareTree (.ok summary) y := by
  obtain ⟨steps, hplan⟩ : ∃ steps, plan bareSettings.profile = .ok steps := ⟨_, rfl⟩
  have hnames : (bareSettings.profile.checks ++ bareSettings.profile.tools).Nodup := by
    decide +kernel
  have hworld : Textual (obligingReply []) := fun command heq => by cases heq
  obtain ⟨summary, st, now, hrun, -, huntold, -⟩ := exists_bareRun
  have hleft : .told ∉ now := by
    rw [← any_tells_iff, huntold]
    exact Bool.false_ne_true
  exact ⟨steps, hplan, hnames, hworld, summary, (st, now), hrun, hleft,
    steps_independent hplan hnames hworld hrun hleft⟩

end Sweep

end PluginSweep
