/-
PluginSweep/Proofs/Sweep/Entries.lean

What a survey hands to its ledger.  Every section that a step brings is made of an
entry of the step's name, in whatever surroundings (`yields_takeStep`), and a survey
leaves the tree as it is.  The names of steps come from two tables, and a ledger keeps
each name once, so what a survey records can be told from the names
(`Ledger.Regular`, `yields_survey`).
-/
import Mathlib.Data.List.Perm.Subperm
import PluginSweep.Proofs.Sweep.Survey

namespace PluginSweep.Sweep

open Dialogue (Conduct)

variable {α β σ : Type} {c : Conduct Request.Reply σ} {I : FileSystem → Prop} {P : α → Prop}
  {P' : β → Prop} {s : Settings} {files : List Candidate}

/-! ### Work that looks at the tree -/

/-- The work keeps what holds of the tree where it succeeds, and what it brings satisfies `P`. -/
abbrev Brought (c : Conduct Request.Reply σ) (I : FileSystem → Prop) (P : α → Prop)
    (w : Sweeping α) : Prop :=
  Work.Yields c (fun x : SweepState × σ => I x.1.tree) P w

theorem brought_asking (work : Asking α) : Brought c I (fun _ => True) (asking work) := by
  intro x a y hx h
  obtain ⟨-, -, -, hst⟩ := runs_asking_iff.mp h
  refine ⟨?_, trivial⟩
  show I y.1.tree
  rw [hst]
  exact hx

/-- To warn is to ask. -/
theorem brought_lift_warn (w : Warning) :
    Brought c I (fun _ => True) (ExceptT.lift (StateT.lift (Asking.warn w)) : Sweeping Unit) :=
  brought_asking _

/-- To ask for a source is to remember it, which is nothing to the tree. -/
theorem brought_lift_source (file : Candidate) :
    Brought c I (fun _ => True) (ExceptT.lift (source file)) := by
  intro x a y hx h
  obtain ⟨text, hrun, -⟩ := Work.runs_lift_iff.mp h
  refine ⟨?_, trivial⟩
  suffices htree : y.1.tree = x.1.tree by
    show I y.1.tree
    rwa [htree]
  simp only [source, StateT.run_bind, StateT.run_get, pure_bind] at hrun
  rcases hknown : x.1.sources.lookup file.path with - | known <;> rw [hknown] at hrun
  · obtain ⟨⟨contents, st⟩, t, hread, hrest⟩ := Dialogue.runs_bind_iff.mp hrun
    obtain ⟨-, rfl⟩ := Work.runs_stateT_lift_iff.mp hread
    rw [(Prod.mk.inj (Dialogue.runs_pure_iff.mp hrest).1).2]
  · rw [(Prod.mk.inj (Dialogue.runs_pure_iff.mp hrun).1).2]

theorem brought_lift_scanFiles (check : Check) (default : List String) (rest : List Candidate)
    (scan : Scan) : Brought c I (fun _ => True)
      (ExceptT.lift (scanSources check default rest scan) : Sweeping Scan) := by
  induction rest generalizing scan with
  | nil => exact Work.yields_lift_pure trivial
  | cons file rest ih =>
    rw [scanSources, Check.scanFiles]
    split
    · exact ih scan
    · refine (brought_lift_source file).lift_bind fun text _ => ?_
      cases text with
      | error e => exact (brought_lift_warn _).lift_bind fun _ _ => ih _
      | ok text => exact ih _

theorem brought_lift_uninstallNotes (root : Path) :
    Brought c I (fun _ => True) (ExceptT.lift (uninstallNotes root)) := by
  have hasked : ∀ path stored, Brought c I (fun _ => True)
      (ExceptT.lift (StateT.lift (Asking.request (Request.preview path stored))) :
        Sweeping Contents) := fun path stored => brought_asking _
  refine Work.yields_get.lift_bind fun st _ => ?_
  dsimp only
  split
  · exact Work.yields_lift_pure trivial
  · exact Work.yields_lift_pure trivial
  · refine (hasked _ _).lift_bind fun contents _ => ?_
    cases contents with
    | error e => exact Work.yields_lift_pure trivial
    | ok bytes => exact Work.yields_lift_pure trivial

/-! ### Sections are made of entries -/

theorem madeAs_scannedSection (check : Check) (scan : Scan) (notes : Except OsError (List String)) :
    MadeAs check.name (scannedSection check scan notes) := by
  cases notes with
  | error e => exact ⟨.failure check.name check.title check.severity _, rfl, rfl⟩
  | ok notes => exact ⟨.scan check scan.findings notes scan.skipped, rfl, rfl⟩

theorem brought_checkSection (check : Check) :
    Brought c I (MadeAs check.name) (ExceptT.lift (checkSection s files check)) := by
  have hasked : Brought c I (fun _ => True)
      (ExceptT.lift (StateT.lift (Asking.request (Request.begin check.name))) :
        Sweeping (Option OsError)) := brought_asking _
  refine hasked.lift_bind fun refusal _ => ?_
  cases refusal with
  | some e =>
    exact Work.yields_lift_pure ⟨.failure check.name check.title check.severity _, rfl, rfl⟩
  | none =>
    have hscan : Brought c I (fun _ => True)
        (ExceptT.lift (check.scan files s.profile.sourceExtensions source
          fun w => StateT.lift (Asking.warn w)) : Sweeping Scan) :=
      (brought_lift_scanFiles check _ files {}).lift_bind fun _ _ => Work.yields_lift_pure trivial
    refine hscan.lift_bind fun scan _ => ?_
    dsimp only
    split
    · refine (brought_lift_uninstallNotes _).lift_bind fun notes _ => ?_
      exact Work.yields_lift_pure (madeAs_scannedSection check scan notes)
    · exact Work.yields_lift_pure (madeAs_scannedSection check scan (.ok []))

/-- Every step brings a section that is made of an entry of its name. -/
theorem brought_takeStep {step : Step} (hstep : step.Known) :
    Brought c I (MadeAs step.name) (takeStep s files step) := by
  refine (brought_asking _).bind fun stop _ => ?_
  cases stop with
  | true =>
    exact Work.yields_pure ⟨.failure step.name step.title step.severity skippedText, rfl, rfl⟩
  | false =>
    refine (brought_asking _).bind fun _ _ => ?_
    cases step with
    | check check => exact brought_checkSection check
    | tool name title =>
      intro x made y hx h
      obtain ⟨outcome, now, hask, hrest⟩ := runs_asking_bind_iff.mp h
      rcases outcome with e | section'
      · cases (Work.runs_throw_iff.mp hrest).1
      · obtain ⟨heq, rfl⟩ := Work.runs_pure_iff.mp hrest
        obtain rfl := Except.ok.inj heq
        exact ⟨hx, madeAs_of_runs_toolSection hstep hask⟩

/-! ### What a survey records -/

/-- The names that steps may have. -/
def stepNames : List String :=
  Check.table.map (·.name) ++ Tool.titles.map Prod.fst

theorem Step.Known.name_mem {step : Step} (h : step.Known) : step.name ∈ stepNames := by
  cases step with
  | check check =>
    exact List.mem_append_left _ (List.mem_map_of_mem (List.mem_of_find?_eq_some h))
  | tool name title =>
    have hall : ∀ name ∈ [Tool.compatibility, Tool.codingStandards, Tool.lint],
        name ∈ Tool.titles.map Prod.fst := by
      decide
    refine List.mem_append_right _ (hall name ?_)
    rcases eq_of_title? h with rfl | rfl | rfl <;> simp

/-- Every section of the ledger is made of an entry with the name of a step, and there is one
section for each name. -/
structure Regular (l : Ledger) : Prop where
  made : ∀ sec ∈ l.sections, ∃ name ∈ stepNames, MadeAs name sec
  distinct : (l.sections.map (·.name)).Nodup

theorem Regular.name_mem {l : Ledger} (h : Regular l) {sec : Section} (hsec : sec ∈ l.sections) :
    sec.name ∈ stepNames := by
  obtain ⟨name, hname, hmade⟩ := h.made sec hsec
  rwa [hmade.name]

theorem regular_empty : Regular {} :=
  ⟨fun _ hsec => absurd hsec List.not_mem_nil, List.nodup_nil⟩

/-- There are no more sections than names. -/
theorem Regular.length_le {l : Ledger} (h : Regular l) :
    l.sections.length ≤ stepNames.length := by
  rw [← List.length_map (·.name)]
  refine (h.distinct.subperm fun name hname => ?_).length_le
  obtain ⟨sec, hsec, rfl⟩ := List.mem_map.mp hname
  exact h.name_mem hsec

theorem brought_record {l : Ledger} (hl : Regular l) {step : Step} (hstep : step.Known)
    {made : Section} (hmade : MadeAs step.name made) :
    Brought c I Regular (record l made) := by
  refine (brought_asking _).bind fun _ _ => ?_
  rcases hrecord : l.record made with e | l'
  · exact Work.yields_throw _
  · refine Work.yields_pure ?_
    obtain ⟨hnew, rfl⟩ := Ledger.record_eq_ok_iff.mp hrecord
    constructor
    · intro sec hsec
      rcases List.mem_append.mp hsec with hsec | hsec
      · exact hl.made sec hsec
      · rw [List.mem_singleton.mp hsec]
        exact ⟨step.name, hstep.name_mem, hmade⟩
    · rw [List.map_append, List.map_singleton]
      refine List.nodup_append.mpr ⟨hl.distinct, List.pairwise_singleton _ _, ?_⟩
      rintro name hname other hother rfl
      rw [List.mem_singleton.mp hother] at hname
      exact Ledger.get?_eq_none_iff.mp hnew hname

theorem brought_runSteps {steps : List Step} (hsteps : ∀ step ∈ steps, step.Known) {l : Ledger}
    (hl : Regular l) : Brought c I Regular (runSteps s files steps l) := by
  induction steps generalizing l with
  | nil => exact Work.yields_pure hl
  | cons step rest ih =>
    have hstep := hsteps step List.mem_cons_self
    refine (brought_takeStep hstep).bind fun made hmade => ?_
    refine (brought_record hl hstep hmade).bind fun l' hl' => ?_
    exact ih (fun other hother => hsteps other (List.mem_cons_of_mem _ hother)) hl'

/-- **A survey leaves the tree as it is and records a regular ledger**, in whatever
surroundings. -/
theorem brought_survey : Brought c I (fun v => Regular v.ledger) (survey s) := by
  have hprecondition : Brought c I (fun _ => True) (precondition s) := by
    rw [precondition]
    split
    · exact Work.yields_pure trivial
    · refine (brought_asking _).bind fun found _ => ?_
      cases found with
      | error e => exact Work.yields_throw _
      | ok there =>
        cases there with
        | true => exact Work.yields_pure trivial
        | false => exact Work.yields_throw _
  have hcollect : Brought c I (fun _ => True) (collect s) := by
    refine (brought_asking _).bind fun _ _ => Work.yields_get.bind fun st _ => ?_
    dsimp only
    rcases candidates s st.tree with e | walk
    · exact Work.yields_throw _
    · have hwalk : Brought c I (fun _ => True) (pure walk : Sweeping Walk) :=
        Work.yields_pure trivial
      refine hwalk.bind fun walk _ => ?_
      refine (brought_asking _).bind fun _ _ => (brought_asking _).bind fun _ _ => ?_
      exact Work.yields_pure trivial
  refine hprecondition.bind fun site _ => hcollect.bind fun found _ => ?_
  obtain ⟨files, statistics⟩ := found
  rcases hplan : plan s.profile with e | steps
  · exact Work.yields_throw _
  · refine (brought_runSteps (plan_eq_ok hplan).1 regular_empty).bind fun l hl => ?_
    exact (brought_asking _).bind fun _ _ => Work.yields_pure hl

end PluginSweep.Sweep
