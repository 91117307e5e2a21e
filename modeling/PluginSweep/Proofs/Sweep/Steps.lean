/-
PluginSweep/Proofs/Sweep/Steps.lean

The steps of a sweep in steady surroundings.  A survey opens, by making sure of the
site and collecting the files, takes the steps, and asks whether it has been told to
end (`survey_eq_opening`).  The opening is the same for all profiles that differ in
their steps only.

A step that is begun brings the section that it has in the world; one that is not is
recorded as skipped.  The steps that are begun come first, as many as the run is let
go on, and from then on nothing is done but asking and warning (`Taken`,
`runs_runSteps_steady`).
-/
import PluginSweep.Proofs.Sweep.Failure
import PluginSweep.Proofs.Sweep.Faithful
import PluginSweep.Proofs.Walk.Candidate

namespace PluginSweep

/-- Asking whether the run has been told to end, or giving a warning. -/
def Request.Idle : Request → Prop
  | .cancelled => True
  | .warn _ => True
  | _ => False

namespace Sweep

open History

variable {s : Settings} {world world' : World} {tree : FileSystem} {files : List Candidate}
  {x y : SweepState × History}

/-! ### The opening -/

/-- What comes before the steps: making sure of the site, and collecting the files. -/
def opening (s : Settings) : Sweeping (Option Site × List Candidate × Statistics) := do
  let site ← precondition s
  let collected ← collect s
  pure (site, collected)

/-- What comes after the opening: the steps, and asking whether the run has been told to end. -/
def finish (s : Settings) (steps : List Step) (opened : Option Site × List Candidate × Statistics) :
    Sweeping Survey := do
  let ledger ← runSteps s opened.2.1 steps {}
  pure ⟨opened.1, ledger, opened.2.2, ← asking Asking.cancelled⟩

theorem survey_eq_opening {steps : List Step} (hplan : plan s.profile = .ok steps) :
    survey s = opening s >>= finish s steps := by
  simp only [survey, opening, hplan, finish, bind_assoc, pure_bind]

theorem only_opening {p : Request → Prop}
    (hlaunch : ∀ site, s.probedSite = some site → p (.launch (site.command .isInstalled)))
    (hannounce : ∀ message, p (.announce message)) (hwarn : ∀ w, p (.warn w)) :
    Work.Only p (opening s) :=
  (only_precondition hlaunch hwarn).bind fun _ =>
    (only_collect hannounce hwarn).bind fun _ => Work.only_pure _

theorem only_opening_outward : Work.Only Request.Outward (opening s) :=
  only_opening (fun _ _ => trivial) (fun _ => trivial) fun _ => trivial

/-- What the opening brings in the world. -/
def openingIn (world : World) (s : Settings) (tree : FileSystem) :
    Except SweepError (Option Site × List Candidate × Statistics) :=
  (((opening s).run.run { tree }).value world).1

theorem openingIn_congr (hagree : ∀ site, s.probedSite = some site →
      world (.launch (site.command .isInstalled)) = world' (.launch (site.command .isInstalled))) :
    openingIn world s tree = openingIn world' s tree := by
  let p : Request → Prop := fun q => world q = world' q
  have honly : Work.Only p (opening s) := only_opening hagree (fun _ => rfl) fun _ => rfl
  exact congrArg Prod.fst (Dialogue.value_congr (honly { tree }) fun _ hq => hq)

/-- The work leaves the state of the sweep as it is. -/
def Stateless {α : Type} (w : Sweeping α) : Prop :=
  ∀ st, Work.Within heard (fun x => x.1 = st) (fun _ => True) w

theorem stateless_asking {α : Type} (work : Asking α) : Stateless (asking work) := by
  intro st x o y hx h
  obtain ⟨a, -, -, hst⟩ := runs_asking_iff.mp h
  exact ⟨hst.trans hx, fun _ _ => trivial⟩

theorem stateless_precondition : Stateless (precondition s) := by
  intro st
  rw [precondition]
  rcases s.probedSite with - | site
  · exact Work.within_pure _
  · refine (stateless_asking _ st).bind fun found => ?_
    rcases found with e | (_ | _)
    · exact Work.within_throw trivial
    · exact Work.within_throw trivial
    · exact Work.within_pure _

theorem stateless_collect : Stateless (collect s) := by
  intro st
  refine (stateless_asking _ st).bind fun _ => ?_
  have hget : Work.Within heard (fun x => x.1 = st) (fun _ => True)
      (get : Sweeping SweepState) := by
    intro x o y hx h
    obtain ⟨-, rfl⟩ := Work.runs_get_iff.mp h
    exact ⟨hx, fun _ _ => trivial⟩
  refine hget.bind fun now => ?_
  dsimp only
  split
  · refine (Work.within_pure _).bind fun walk => ?_
    refine (stateless_asking _ st).bind fun _ => ?_
    exact (stateless_asking _ st).bind fun _ => Work.within_pure _
  · refine (Work.within_throw trivial).bind fun walk => ?_
    refine (stateless_asking _ st).bind fun _ => ?_
    exact (stateless_asking _ st).bind fun _ => Work.within_pure _

/-- The opening leaves all as it is, and what it brings is a matter of the world. -/
theorem runs_opening_steady {past : History} {y : SweepState × History}
    {o : Except SweepError (Option Site × List Candidate × Statistics)}
    (h : Work.Runs (steady world) (opening s) ({ tree }, past) o y) :
    o = openingIn world s tree ∧ y.1 = { tree } ∧ y.2.countP grants = past.countP grants := by
  have hheard := runs_heard_of_steady h
  have honly := only_opening_outward (s := s) { tree }
  have hvalue := eq_value_of_runs_steady h honly
  have hstateless : Stateless (opening s) := fun st =>
    (stateless_precondition st).bind fun _ => (stateless_collect st).bind fun _ =>
      Work.within_pure _
  exact ⟨congrArg Prod.fst hvalue, (hstateless { tree } _ _ _ rfl hheard).1,
    countP_grants_of_runs_only hheard honly⟩

/-- The files are those of the walk. -/
theorem runs_opening_files {site : Option Site} {statistics : Statistics}
    (h : Work.Runs heard (opening s) x (.ok (site, files, statistics)) y) :
    ∃ walk, walk.files = files ∧ candidates s x.1.tree = .ok walk := by
  obtain ⟨site', z, hsite, hcollect⟩ := Work.runs_bind_ok_iff.mp h
  obtain ⟨⟨listed, statistics'⟩, z', hlisted, hend⟩ := Work.runs_bind_ok_iff.mp hcollect
  obtain ⟨heq, -⟩ := Work.runs_pure_iff.mp hend
  obtain ⟨-, hrest⟩ := Prod.mk.inj (Except.ok.inj heq)
  obtain ⟨rfl, -⟩ := Prod.mk.inj hrest
  obtain ⟨walk, hfiles, -, hwalk⟩ := runs_collect hlisted
  rw [(stateless_precondition _ _ _ _ rfl hsite).1] at hwalk
  exact ⟨walk, hfiles, hwalk⟩

theorem apart_of_walk {walk : Walk} (h : candidates s tree = .ok walk) : Apart walk.files :=
  fun _ hfile _ hother hpath => Walk.eq_of_path_eq h hfile hother hpath

/-! ### Steps that are begun, and steps that are not -/

/-- The section of a step that is not run any more. -/
def skippedSection (step : Step) : Section :=
  .ofFailure step.name step.title step.severity skippedText

/-- The section that the step has in the world. -/
def BringsIn (world : World) (s : Settings) (tree : FileSystem) (files : List Candidate)
    (step : Step) (made : Section) : Prop :=
  sectionIn world s tree files step = .ok made

/-- Recording a section asks nothing but for a warning, and leaves the state as it is. -/
theorem runs_record_ok {l l' : Ledger} {made : Section}
    (h : Work.Runs heard (record l made) x (.ok l') y) :
    l' = ⟨l.sections ++ [made]⟩ ∧ y.1 = x.1 ∧ Since (fun q => ∃ w, q = .warn w) x.2 y.2 := by
  let p : Request → Prop := fun q => ∃ w, q = .warn w
  have honly : Work.Only p (record l made) := only_record (fun w => ⟨w, rfl⟩) l made
  have hsince : Since p x.2 y.2 := since_of_runs_only h (honly x.1)
  obtain ⟨_, z, hwarn, hrest⟩ := Work.runs_bind_ok_iff.mp h
  have hst : z.1 = x.1 := (stateless_asking _ _ _ _ _ rfl hwarn).1
  rcases hdone : l.record made with e | l₁ <;> rw [hdone] at hrest
  · cases (Work.runs_throw_iff.mp hrest).1
  · obtain ⟨heq, rfl⟩ := Work.runs_pure_iff.mp hrest
    obtain rfl := Except.ok.inj heq
    exact ⟨(Ledger.record_eq_ok_iff.mp hdone).2, hst, hsince⟩

theorem idle_of_warns {past now : History} (h : Since (fun q => ∃ w, q = .warn w) past now) :
    Since Request.Idle past now := by
  refine h.mono ?_
  rintro q ⟨w, rfl⟩
  trivial

/-- A step is skipped once the run has been told to end; otherwise the run is let go on, and the
step brings the section that it has in the world. -/
theorem runs_takeStep_steady (hapart : Apart files) {step : Step} {made : Section}
    (hx : Faithful world tree files x.1)
    (h : Work.Runs (steady world) (takeStep s files step) x (.ok made) y) :
    (.told ∈ y.2 ∧ made = skippedSection step ∧ y.1 = x.1 ∧
      y.2.countP grants = x.2.countP grants ∧ Since Request.Idle x.2 y.2) ∨
    (.told ∉ x.2 ∧ BringsIn world s tree files step made ∧ Faithful world tree files y.1 ∧
      y.2.countP grants = x.2.countP grants + 1) := by
  obtain ⟨stop, asked, hask, hrest⟩ := runs_asking_bind_iff.mp h
  have hreply := heard_of_steady (Asking.runs_cancelled_iff.mp hask)
  have hcount := countP_grants_of_heard hreply
  cases stop with
  | true =>
    -- The run has been told to end.
    obtain ⟨heq, rfl⟩ := Work.runs_pure_iff.mp hrest
    obtain rfl := Except.ok.inj heq
    exact .inl ⟨(told_mem_of_heard_cancelled hreply).mp rfl, rfl, rfl, hcount,
      since_of_heard hreply trivial⟩
  | false =>
    -- It is let go on, and the question was granted once.
    have hnone : .told ∉ asked := fun htold =>
      Bool.false_ne_true ((told_mem_of_heard_cancelled hreply).mpr htold)
    obtain ⟨_, announced, hannounce, hsection⟩ := runs_asking_bind_iff.mp hrest
    obtain ⟨hmade, hfaithful⟩ := runs_stepSection_steady (x := (x.1, announced)) hapart hx hsection
    have hannounced := countP_grants_of_runs_only (runs_heard_of_steady hannounce)
      (Dialogue.only_inquire_iff.mpr trivial)
    have hsame := countP_grants_of_runs_only (runs_heard_of_steady hsection)
      ((only_stepSection step x.1).mono fun _ => Step.Asks.outward)
    refine .inr ⟨fun htold => hnone ((prefix_of_heard hreply).subset htold), hmade.symm, hfaithful,
      ?_⟩
    rw [hsame, hannounced, hcount]
    rfl

/-- Once the run has been told to end, all steps are skipped, and nothing is done but asking and
warning. -/
theorem runs_runSteps_told {steps : List Step} {l l' : Ledger} (hx : .told ∈ x.2)
    (h : Work.Runs heard (runSteps s files steps l) x (.ok l') y) :
    l' = ⟨l.sections ++ steps.map skippedSection⟩ ∧ y.1 = x.1 ∧ Since Request.Idle x.2 y.2 := by
  induction steps generalizing l x with
  | nil =>
    obtain ⟨heq, rfl⟩ := Work.runs_pure_iff.mp h
    obtain rfl := Except.ok.inj heq
    exact ⟨by simp, rfl, Since.refl _ _⟩
  | cons step rest ih =>
    obtain ⟨made, z₁, htake, hafter⟩ := Work.runs_bind_ok_iff.mp h
    obtain ⟨l₁, z₂, hrecord, hrest⟩ := Work.runs_bind_ok_iff.mp hafter
    obtain ⟨stop, asked, hask, hmade⟩ := runs_asking_bind_iff.mp htake
    have hreply := Asking.runs_cancelled_iff.mp hask
    have hasked : .told ∈ asked := (prefix_of_heard hreply).subset hx
    obtain rfl : stop = true := (told_mem_of_heard_cancelled hreply).mpr hasked
    obtain ⟨heq, rfl⟩ := Work.runs_pure_iff.mp hmade
    obtain rfl := Except.ok.inj heq
    obtain ⟨rfl, hst₂, hwarned⟩ := runs_record_ok hrecord
    have hz₂ : .told ∈ z₂.2 := (prefix_of_runs hrecord).subset hasked
    obtain ⟨rfl, hst, hidle⟩ := ih hz₂ hrest
    refine ⟨?_, hst.trans hst₂, ?_⟩
    · simp [skippedSection]
    · exact (since_of_heard hreply trivial).trans ((idle_of_warns hwarned).trans hidle)

/-- The steps have been taken from `x` on, and recorded after the ledger `l`: `begun` of them were
begun, and had been recorded at `z`; the others were skipped. -/
structure Taken (world : World) (s : Settings) (tree : FileSystem) (files : List Candidate)
    (steps : List Step) (l : Ledger) (x : SweepState × History) (l' : Ledger)
    (y : SweepState × History) (begun : Nat) (made : List Section) (z : SweepState × History) :
    Prop where
  within : begun ≤ steps.length
  brings : List.Forall₂ (BringsIn world s tree files) (steps.take begun) made
  ledger : l' = ⟨l.sections ++ made ++ (steps.drop begun).map skippedSection⟩
  recorded : Work.Runs (steady world) (runSteps s files (steps.take begun) l) x
    (.ok ⟨l.sections ++ made⟩) z
  /-- The run was let go on for each step that was begun, and not afterwards. -/
  counted : z.2.countP grants = x.2.countP grants + begun
  countedAll : y.2.countP grants = z.2.countP grants
  idle : Since Request.Idle z.2 y.2
  told : begun < steps.length → .told ∈ y.2

/-- **Steps are begun as long as the run is let go on, and the others are skipped.** -/
theorem runs_runSteps_steady (hapart : Apart files) {steps : List Step} {l l' : Ledger}
    (hx : Faithful world tree files x.1) (hobeyed : Obeyed x.2)
    (h : Work.Runs (steady world) (runSteps s files steps l) x (.ok l') y) :
    ∃ begun made z, Taken world s tree files steps l x l' y begun made z := by
  induction steps generalizing l x with
  | nil =>
    obtain ⟨heq, rfl⟩ := Work.runs_pure_iff.mp h
    obtain rfl := Except.ok.inj heq
    refine ⟨0, [], y, Nat.le_refl _, .nil, by simp, ?_, rfl, rfl, Since.refl _ _,
      fun hless => absurd hless (Nat.lt_irrefl _)⟩
    exact Work.runs_pure_iff.mpr ⟨by simp, rfl⟩
  | cons step rest ih =>
    obtain ⟨first, z₁, htake, hafter⟩ := Work.runs_bind_ok_iff.mp h
    obtain ⟨l₁, z₂, hrecord, hrest⟩ := Work.runs_bind_ok_iff.mp hafter
    have hheard := runs_heard_of_steady hrecord
    obtain ⟨rfl, hst₂, hwarned⟩ := runs_record_ok hheard
    have hobeyed₂ : Obeyed z₂.2 :=
      obeyed_of_runs hheard (obeyed_of_runs (runs_heard_of_steady htake) hobeyed)
    have hsame : z₂.2.countP grants = z₁.2.countP grants :=
      countP_grants_of_runs_only hheard (only_record (fun _ => trivial) l first z₁.1)
    rcases runs_takeStep_steady hapart hx htake with
      ⟨htold, rfl, -, hcount, hidle⟩ | ⟨-, hbrings, hfaithful, hcount⟩
    · -- The run has been told to end: neither this step nor any later one is begun.
      have hz₂ : .told ∈ z₂.2 := (prefix_of_runs hheard).subset htold
      have hheardRest := runs_heard_of_steady hrest
      obtain ⟨rfl, -, hidleRest⟩ := runs_runSteps_told hz₂ hheardRest
      have hpast := prefix_of_runs hheardRest
      refine ⟨0, [], x, Nat.zero_le _, .nil, by simp, ?_, rfl, ?_, ?_, fun _ => hpast.subset hz₂⟩
      · exact Work.runs_pure_iff.mpr ⟨by simp, rfl⟩
      · rw [countP_grants_of_told hz₂ hpast (obeyed_of_runs hheardRest hobeyed₂), hsame, hcount]
      · exact hidle.trans ((idle_of_warns hwarned).trans hidleRest)
    · -- The step is begun, and what is true of the others holds after it.
      obtain ⟨begun, made, z, htaken⟩ := ih (hst₂ ▸ hfaithful) hobeyed₂ hrest
      refine ⟨begun + 1, first :: made, z, Nat.succ_le_succ htaken.within,
        .cons hbrings htaken.brings, ?_, ?_, ?_, htaken.countedAll, htaken.idle,
        fun hless => htaken.told (Nat.lt_of_succ_lt_succ hless)⟩
      · rw [htaken.ledger]
        simp
      · have hrecorded := htaken.recorded
        rw [show (⟨l.sections ++ [first]⟩ : Ledger).sections ++ made =
          l.sections ++ first :: made by simp] at hrecorded
        exact Work.runs_bind_ok_iff.mpr ⟨first, z₁, htake,
          Work.runs_bind_ok_iff.mpr ⟨_, z₂, hrecord, hrecorded⟩⟩
      · rw [htaken.counted, hsame, hcount]
        omega

end Sweep

end PluginSweep
