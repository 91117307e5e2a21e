/-
PluginSweep/Proofs/Sweep/Faithful.lean

The sources that a sweep keeps do not show in its sections.  In a world, a file has
one text, whoever asks for it and when.  What is kept is `Faithful` if it is that
text; then it makes no difference to a piece of work how much is kept already
(`Steadfast`).  Every piece of work on a section is steadfast, by one lemma each, so
that a step has one section in a world: the one that it brings where nothing has been
read before (`sectionIn`, `runs_stepSection_steady`).

That section depends on nothing but the replies to the questions of the step
(`sectionIn_congr`).
-/
import PluginSweep.Proofs.Sweep.Questions
import PluginSweep.Proofs.Sweep.Survey

namespace PluginSweep.Sweep

open History

variable {world world' : World} {tree : FileSystem} {files : List Candidate} {s : Settings}

/-! ### Faithful sources -/

/-- The text of a file, as it is in the world. -/
def sourceIn (world : World) (tree : FileSystem) (file : Candidate) : Except OsError String :=
  decoded (world (.read file (tree.read file.path)))

/-- The tree is as it was, and all the sources that are kept are as they are in the world. -/
structure Faithful (world : World) (tree : FileSystem) (files : List Candidate)
    (st : SweepState) : Prop where
  same : st.tree = tree
  sources : ∀ file ∈ files, ∀ text,
    st.sources.lookup file.path = some text → text = sourceIn world tree file

/-- No two of the files have the same path. -/
def Apart (files : List Candidate) : Prop :=
  ∀ file ∈ files, ∀ other ∈ files, file.path = other.path → file = other

theorem faithful_initial : Faithful world tree files { tree } where
  same := rfl
  sources := fun _ _ _ h => by cases h

/-! ### Steadfast work -/

variable {α β : Type}

/-- In the world, the work brings one and the same, however much has been read before, and what it
reads is as in the world. -/
def Steadfast (world : World) (tree : FileSystem) (files : List Candidate)
    (work : StateT SweepState Asking α) : Prop :=
  ∃ a, ∀ st, Faithful world tree files st →
    ∃ st', (work.run st).value world = (a, st') ∧ Faithful world tree files st'

theorem steadfast_pure (a : α) : Steadfast world tree files (pure a) :=
  ⟨a, fun st hst => ⟨st, rfl, hst⟩⟩

theorem Steadfast.bind {work : StateT SweepState Asking α} {f : α → StateT SweepState Asking β}
    (hwork : Steadfast world tree files work) (hf : ∀ a, Steadfast world tree files (f a)) :
    Steadfast world tree files (work >>= f) := by
  obtain ⟨a, ha⟩ := hwork
  obtain ⟨b, hb⟩ := hf a
  refine ⟨b, fun st hst => ?_⟩
  obtain ⟨st₁, hvalue₁, hst₁⟩ := ha st hst
  obtain ⟨st₂, hvalue₂, hst₂⟩ := hb st₁ hst₁
  refine ⟨st₂, ?_, hst₂⟩
  rw [StateT.run_bind, Dialogue.value_bind, hvalue₁]
  exact hvalue₂

/-- Asking for anything that is not a source. -/
theorem steadfast_lift (work : Asking α) : Steadfast world tree files (StateT.lift work) := by
  refine ⟨work.value world, fun st hst => ⟨st, ?_, hst⟩⟩
  rw [StateT.run_lift, Dialogue.value_bind]
  rfl

/-- A file has the text that it has in the world, be it read now or kept. -/
theorem steadfast_source (hapart : Apart files) {file : Candidate} (hfile : file ∈ files) :
    Steadfast world tree files (source file) := by
  refine ⟨sourceIn world tree file, fun st hst => ?_⟩
  simp only [source, StateT.run_bind, StateT.run_get, pure_bind]
  rcases hknown : st.sources.lookup file.path with - | known
  · -- The file is read now, and what is kept in addition is its text.
    refine ⟨{ st with sources := (file.path, sourceIn world tree file) :: st.sources }, ?_, ?_⟩
    · rw [hst.same]
      rfl
    · refine ⟨hst.same, fun other hother text hlookup => ?_⟩
      by_cases hpath : other.path = file.path
      · obtain rfl := hapart other hother file hfile hpath
        rw [List.lookup_cons_self] at hlookup
        exact (Option.some.inj hlookup).symm
      · rw [List.lookup_cons, beq_false_of_ne hpath] at hlookup
        exact hst.sources other hother text hlookup
  · refine ⟨st, ?_, hst⟩
    rw [← hst.sources file hfile known hknown]
    rfl

/-! ### Sections -/

theorem steadfast_scanFiles (hapart : Apart files) (check : Check) (default : List String)
    {rest : List Candidate} (hrest : ∀ file ∈ rest, file ∈ files) (scan : Scan) :
    Steadfast world tree files (scanSources check default rest scan) := by
  induction rest generalizing scan with
  | nil => exact steadfast_pure scan
  | cons file rest ih =>
    have hothers := ih fun other hother => hrest other (List.mem_cons_of_mem _ hother)
    rw [scanSources, Check.scanFiles]
    split
    · exact hothers scan
    · refine (steadfast_source hapart (hrest file List.mem_cons_self)).bind fun text => ?_
      cases text with
      | error e => exact (steadfast_lift _).bind fun _ => hothers _
      | ok text => exact hothers _

theorem steadfast_scan (hapart : Apart files) (check : Check) (default : List String) :
    Steadfast world tree files
      (check.scan files default source fun w => StateT.lift (Asking.warn w)) :=
  (steadfast_scanFiles hapart check default (fun _ => id) {}).bind fun _ => steadfast_pure _

/-- Looking at the file for the removal brings the same notes, for the tree is the same. -/
theorem steadfast_uninstallNotes (root : Path) :
    Steadfast world tree files (uninstallNotes root) := by
  refine ⟨(((uninstallNotes root).run { tree }).value world).1, fun st hst => ⟨st, ?_, hst⟩⟩
  obtain ⟨tree', sources⟩ := st
  obtain rfl : tree' = tree := hst.same
  have hasked : ∀ (q : Request) (st : SweepState),
      ((liftM (Asking.request q) : StateT SweepState Asking q.Reply).run st).value world =
        (world q, st) := fun _ _ => rfl
  simp only [uninstallNotes, StateT.run_bind, StateT.run_get, pure_bind]
  split
  · rfl
  · rfl
  · simp only [StateT.run_bind, Dialogue.value_bind]
    rw [hasked (.preview _ _), hasked (.preview _ _)]
    rcases world (.preview (root.child uninstallFile)
      (tree'.read (root.child uninstallFile))) with e | bytes
    · rfl
    · rfl

theorem steadfast_checkSection (hapart : Apart files) (check : Check) :
    Steadfast world tree files (checkSection s files check) := by
  refine (steadfast_lift _).bind fun refusal => ?_
  cases refusal with
  | some e => exact steadfast_pure _
  | none =>
    refine (steadfast_scan hapart check _).bind fun scan => ?_
    dsimp only
    split
    · exact (steadfast_uninstallNotes _).bind fun notes => steadfast_pure _
    · exact steadfast_pure _

/-- **What has been read before makes no difference to a step.** -/
theorem steadfast_stepSection (hapart : Apart files) (step : Step) :
    Steadfast world tree files (stepSection s files step).run := by
  cases step with
  | check check =>
    rw [stepSection, ExceptT.run_lift, map_eq_pure_bind]
    exact (steadfast_checkSection hapart check).bind fun made => steadfast_pure _
  | tool name title =>
    rw [stepSection, asking, ExceptT.run_bind, ExceptT.run_lift, map_eq_pure_bind, bind_assoc]
    refine (steadfast_lift _).bind fun outcome => ?_
    cases outcome with
    | ok made => exact steadfast_pure _
    | error e => exact steadfast_pure _

/-! ### Steps -/

/-- The section that a step brings in the world, where nothing has been read before. -/
def sectionIn (world : World) (s : Settings) (tree : FileSystem) (files : List Candidate)
    (step : Step) : Except SweepError Section :=
  (((stepSection s files step).run.run { tree }).value world).1

/-- In steady surroundings a step brings its section, and all that is kept remains faithful. -/
theorem runs_stepSection_steady (hapart : Apart files) {step : Step} {x y : SweepState × History}
    {o : Except SweepError Section} (hx : Faithful world tree files x.1)
    (h : Work.Runs (steady world) (stepSection s files step) x o y) :
    o = sectionIn world s tree files step ∧ Faithful world tree files y.1 := by
  have honly : ((stepSection s files step).run.run x.1).Only Request.Outward :=
    (only_stepSection step x.1).mono fun _ => Step.Asks.outward
  have hsteadfast : Steadfast world tree files (stepSection s files step).run :=
    steadfast_stepSection hapart step
  obtain ⟨brought, hbrought⟩ := hsteadfast
  obtain ⟨st, hvalue, hst⟩ := hbrought x.1 hx
  obtain ⟨_, hinitial, -⟩ := hbrought _ faithful_initial
  have hrun : (o, y.1) = (brought, st) := (eq_value_of_runs_steady h honly).trans hvalue
  obtain ⟨ho, hy⟩ := Prod.mk.inj hrun
  have hsection : sectionIn world s tree files step = brought := congrArg Prod.fst hinitial
  rw [ho, hy, hsection]
  exact ⟨rfl, hst⟩

/-- **A section depends on nothing but the replies to the questions of its step.** -/
theorem sectionIn_congr {step : Step} (hagree : ∀ q, step.Asks s files q → world q = world' q) :
    sectionIn world s tree files step = sectionIn world' s tree files step :=
  congrArg Prod.fst (Dialogue.value_congr (only_stepSection step { tree }) hagree)

end PluginSweep.Sweep
