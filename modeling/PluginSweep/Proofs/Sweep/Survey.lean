/-
PluginSweep/Proofs/Sweep/Survey.lean

What is true when the reports are begun.  In whatever surroundings, a survey that
comes to its end has made sure of the site, has listed the files of the walk, and
has recorded one section for every step of the profile, in their order
(`Surveyed`, `runs_survey`).  The section of a check that did not fail holds the
outcome of the check on the sources that the sweep has kept.

The argument goes along the definition: one lemma for a section, one for a step,
an induction over the steps, and then the parts of the survey one by one.  What
carries the induction is that sections stay true while more sources are learned
(`Brings.mono`).
-/
import Mathlib.Data.List.Forall2
import PluginSweep.Proofs.Ledger.Entries
import PluginSweep.Proofs.Sweep.Sources
import PluginSweep.Proofs.Sweep.Work

namespace PluginSweep.Sweep

open History
open Dialogue (Conduct)

variable {σ : Type} {c : Conduct Request.Reply σ} {s : Settings} {files : List Candidate}
  {x y : SweepState × History}

/-! ### Sections of checks -/

/-- The section is that of the check, and unless it has an error, it holds the outcome of the
check on the sources that are kept. -/
structure Checked (s : Settings) (files : List Candidate) (st : SweepState) (check : Check)
    (made : Section) : Prop where
  name : made.name = check.name
  known : made.error = none → ∀ file ∈ files,
    check.rulesFor file.extension s.profile.sourceExtensions ≠ [] →
      ∃ text, st.sources.lookup file.path = some text
  findings : made.error = none → ∀ table, Agrees table st →
    made.findings =
      (check.outcome s.profile.sourceExtensions (textsOf table) files).findings
  skipped : made.error = none → ∀ table, Agrees table st →
    made.skipped = (check.outcome s.profile.sourceExtensions (textsOf table) files).skipped

theorem checked_of_error {st : SweepState} {check : Check} {title error : String}
    {severity : Severity} :
    Checked s files st check (.ofFailure check.name title severity error) where
  name := rfl
  known := fun h => by cases h
  findings := fun h => by cases h
  skipped := fun h => by cases h

theorem Checked.mono {check : Check} {made : Section} (h : Checked s files x.1 check made)
    (hlearns : Learns files x y) : Checked s files y.1 check made where
  name := h.name
  known := by
    intro hok file hfile hrules
    obtain ⟨text, hkept⟩ := h.known hok file hfile hrules
    exact ⟨text, hlearns.kept _ _ hkept⟩
  findings := fun hok table htable => h.findings hok table (hlearns.agrees htable)
  skipped := fun hok table htable => h.skipped hok table (hlearns.agrees htable)

/-- Asking for anything that is not a source. -/
theorem learns_of_asking {α : Type} {work : Asking α} {o : Except SweepError α}
    (h : Work.Runs heard (asking work) x o y) : Learns files x y := by
  obtain ⟨a, hrun, -, hst⟩ := runs_asking_iff.mp h
  obtain ⟨st, past⟩ := x
  obtain ⟨st', now⟩ := y
  obtain rfl : st' = st := hst
  exact learns_of_past (prefix_of_runs hrun)

/-- A section that is recorded is the last one of the ledger. -/
theorem runs_record (files : List Candidate) {l l' : Ledger} {made : Section}
    (h : Work.Runs heard (record l made) x (.ok l') y) :
    Learns files x y ∧ l'.sections = l.sections ++ [made] := by
  obtain ⟨u, z, hwarn, hrest⟩ := Work.runs_bind_ok_iff.mp h
  have hlearns : Learns files x z := learns_of_asking hwarn
  rcases hdone : l.record made with e | l₁ <;> rw [hdone] at hrest
  · cases (Work.runs_throw_iff.mp hrest).1
  · obtain ⟨heq, rfl⟩ := Work.runs_pure_iff.mp hrest
    obtain rfl := Except.ok.inj heq
    rw [(Ledger.record_eq_ok_iff.mp hdone).2]
    exact ⟨hlearns, rfl⟩

/-- Looking at the file for the removal changes nothing. -/
theorem runs_uninstallNotes {root : Path} {notes : Except OsError (List String)}
    (h : Dialogue.Runs heard ((uninstallNotes root).run x.1) x.2 (notes, y.1) y.2) :
    Learns files x y := by
  obtain ⟨st, past⟩ := x
  obtain ⟨st', now⟩ := y
  have hprefix := prefix_of_runs h
  suffices hst : st' = st by
    subst hst
    exact learns_of_past hprefix
  simp only [uninstallNotes, StateT.run_bind, StateT.run_get, pure_bind] at h
  split at h
  · exact (Prod.mk.inj (Dialogue.runs_pure_iff.mp h).1).2
  · exact (Prod.mk.inj (Dialogue.runs_pure_iff.mp h).1).2
  · obtain ⟨⟨contents, st₁⟩, t, hread, hrest⟩ := Dialogue.runs_bind_iff.mp h
    obtain ⟨-, rfl⟩ := Work.runs_stateT_lift_iff.mp hread
    cases contents with
    | error e => exact (Prod.mk.inj (Dialogue.runs_pure_iff.mp hrest).1).2
    | ok bytes => exact (Prod.mk.inj (Dialogue.runs_pure_iff.mp hrest).1).2

theorem runs_checkSection {check : Check} {made : Section}
    (h : Dialogue.Runs heard ((checkSection s files check).run x.1) x.2 (made, y.1) y.2) :
    Learns files x y ∧ Checked s files y.1 check made := by
  obtain ⟨st, past⟩ := x
  obtain ⟨st', now⟩ := y
  simp only [checkSection, StateT.run_bind, Dialogue.runs_bind_iff] at h
  obtain ⟨⟨refusal, st₁⟩, now₁, hbegin, h⟩ := h
  obtain ⟨hbegun, rfl⟩ := Work.runs_stateT_lift_iff.mp hbegin
  have hstart : Learns files (st₁, past) (st₁, now₁) := learns_of_past (prefix_of_runs hbegun)
  cases refusal with
  | some e =>
    -- The check cannot be begun.
    obtain ⟨heq, rfl⟩ := Dialogue.runs_pure_iff.mp h
    obtain ⟨rfl, rfl⟩ := Prod.mk.inj heq
    exact ⟨hstart, checked_of_error⟩
  | none =>
    -- It is begun: its files are scanned, and for one check the notes are taken.
    obtain ⟨⟨scan, st₂⟩, now₂, hscan, h⟩ := Dialogue.runs_bind_iff.mp h
    obtain ⟨hscanned, hknown, houtcome⟩ := runs_scan (x := (st₁, now₁)) (y := (st₂, now₂)) hscan
    -- Taking notes changes nothing that is known of the files.
    have hmade : ∃ notes, Learns files (st₂, now₂) (st', now) ∧
        made = scannedSection check scan notes := by
      dsimp only at h
      split at h
      · obtain ⟨⟨notes, st₃⟩, now₃, hnotes, hrest⟩ := Dialogue.runs_bind_iff.mp h
        obtain ⟨heq, rfl⟩ := Dialogue.runs_pure_iff.mp hrest
        obtain ⟨rfl, rfl⟩ := Prod.mk.inj heq
        exact ⟨notes, runs_uninstallNotes (x := (_, _)) (y := (_, _)) hnotes, rfl⟩
      · obtain ⟨heq, rfl⟩ := Dialogue.runs_pure_iff.mp h
        obtain ⟨rfl, rfl⟩ := Prod.mk.inj heq
        exact ⟨.ok [], learns_of_past (List.prefix_refl _), rfl⟩
    obtain ⟨notes, hnoted, rfl⟩ := hmade
    have hchecked : Checked s files st₂ check (scannedSection check scan notes) := by
      cases notes with
      | error e => exact checked_of_error
      | ok notes =>
        exact ⟨rfl, fun _ => hknown, fun _ table htable => by rw [houtcome table htable]; rfl,
          fun _ table htable => by rw [houtcome table htable]; rfl⟩
    exact ⟨hstart.trans (hscanned.trans hnoted), hchecked.mono hnoted⟩

/-! ### Steps -/

/-- The step is one that the tables know. -/
def Step.Known : Step → Prop
  | .check c => Check.find? c.name = some c
  | .tool name title => Tool.title? name = some title

theorem eq_of_title? {name title : String} (h : Tool.title? name = some title) :
    name = Tool.compatibility ∨ name = Tool.codingStandards ∨ name = Tool.lint := by
  by_contra hnone
  obtain ⟨hcompatibility, hothers⟩ := not_or.mp hnone
  obtain ⟨hcoding, hlint⟩ := not_or.mp hothers
  rw [Tool.title?, Tool.titles, List.lookup_cons, beq_false_of_ne hcompatibility,
    List.lookup_cons, beq_false_of_ne hcoding, List.lookup_cons, beq_false_of_ne hlint] at h
  cases h

/-- What is no check against a standard is the syntax check. -/
theorem eq_lint_of_standardsOf? {name title : String} (hname : Tool.title? name = some title)
    (hstandards : standardsOf? s name = none) : name = Tool.lint := by
  rcases eq_of_title? hname with rfl | rfl | rfl
  · rw [standardsOf?, if_pos rfl] at hstandards
    cases hstandards
  · rw [standardsOf?, if_neg (by decide), if_pos rfl] at hstandards
    cases hstandards
  · rfl

/-- The section is made of an entry of the name. -/
def MadeAs (name : String) (made : Section) : Prop :=
  ∃ e : Entry, e.name = name ∧ made = e.made

theorem MadeAs.name {name : String} {made : Section} (h : MadeAs name made) :
    made.name = name := by
  obtain ⟨e, rfl, rfl⟩ := h
  exact e.made_name

/-- Only a section that did not fail and holds no output of a tool has findings. -/
theorem MadeAs.bare {name : String} {made : Section} (h : MadeAs name made)
    (hkind : made.error ≠ none ∨ made.rawOutput ≠ none) : made.findings = [] := by
  obtain ⟨e, -, rfl⟩ := h
  cases e with
  | scan check findings notes skipped =>
    rcases hkind with herror | houtput
    · exact absurd rfl herror
    · exact absurd rfl houtput
  | output name title result => rfl
  | failure name title severity error => rfl

/-- Whatever comes of a tool, its section is made of an entry of the step's name. -/
theorem madeAs_of_runs_toolSection {name title : String} (hname : Tool.title? name = some title)
    {t u : σ} {made : Section}
    (h : Dialogue.Runs c (toolSection s files name title) t (.ok made) u) : MadeAs name made := by
  rw [toolSection] at h
  dsimp only at h
  split at h
  · obtain ⟨launched, v, -, hrest⟩ := Dialogue.runs_bind_iff.mp h
    match launched with
    | .ok r =>
      obtain rfl := Except.ok.inj (Dialogue.runs_pure_iff.mp hrest).1
      exact ⟨.output name (toolTitle s name title) r, rfl, rfl⟩
    | .error (.failure f) =>
      obtain rfl := Except.ok.inj (Dialogue.runs_pure_iff.mp hrest).1
      exact ⟨.failure name title (toolSeverity name) f.message, rfl, rfl⟩
    | .error .undecodable => cases (Dialogue.runs_pure_iff.mp hrest).1
  · rename_i hstandards
    obtain rfl : name = Tool.lint := eq_lint_of_standardsOf? hname hstandards
    obtain ⟨linted, v, -, hrest⟩ := Dialogue.runs_bind_iff.mp h
    match linted with
    | .ok o =>
      obtain rfl := Except.ok.inj (Dialogue.runs_pure_iff.mp hrest).1
      exact ⟨.scan { name := Tool.lint, title, severity := .critical }
        (o.failing.map fun path => ⟨Tool.lint, path, none, "syntax error"⟩) [] o.unchecked,
        rfl, rfl⟩
    | .error (.failure f) =>
      obtain rfl := Except.ok.inj (Dialogue.runs_pure_iff.mp hrest).1
      exact ⟨.failure Tool.lint title (toolSeverity Tool.lint) f.message, rfl, rfl⟩
    | .error .undecodable => cases (Dialogue.runs_pure_iff.mp hrest).1

/-- The section is what the step brings. -/
def Brings (s : Settings) (files : List Candidate) (st : SweepState) : Step → Section → Prop
  | .check check, made => Checked s files st check made
  | .tool name _, made => made.name = name

theorem Brings.mono {step : Step} {made : Section} (h : Brings s files x.1 step made)
    (hlearns : Learns files x y) : Brings s files y.1 step made := by
  cases step with
  | check check => exact Checked.mono h hlearns
  | tool name title => exact h

theorem Brings.name {st : SweepState} {step : Step} {made : Section}
    (h : Brings s files st step made) : made.name = step.name := by
  cases step with
  | check check => exact Checked.name h
  | tool name title => exact h

theorem exists_section {st : SweepState} {steps : List Step} {made : List Section}
    (h : List.Forall₂ (Brings s files st) steps made) {step : Step} (hstep : step ∈ steps) :
    ∃ sec ∈ made, Brings s files st step sec := by
  induction h with
  | nil => cases hstep
  | cons hbrings _ ih =>
    rcases List.mem_cons.mp hstep with rfl | hstep
    · exact ⟨_, List.mem_cons_self .., hbrings⟩
    · obtain ⟨sec, hsec, hbrings⟩ := ih hstep
      exact ⟨sec, List.mem_cons_of_mem _ hsec, hbrings⟩

theorem exists_step {st : SweepState} {steps : List Step} {made : List Section}
    (h : List.Forall₂ (Brings s files st) steps made) {sec : Section} (hsec : sec ∈ made) :
    ∃ step ∈ steps, Brings s files st step sec := by
  induction h with
  | nil => cases hsec
  | cons hbrings _ ih =>
    rcases List.mem_cons.mp hsec with rfl | hsec
    · exact ⟨_, List.mem_cons_self .., hbrings⟩
    · obtain ⟨step, hstep, hbrings⟩ := ih hsec
      exact ⟨step, List.mem_cons_of_mem _ hstep, hbrings⟩

/-- The sections of a survey bear the names of the steps. -/
theorem names_of_brings {st : SweepState} {steps : List Step} {made : List Section}
    (h : List.Forall₂ (Brings s files st) steps made) :
    made.map (·.name) = steps.map Step.name := by
  induction h with
  | nil => rfl
  | cons hfirst _ ih => rw [List.map_cons, List.map_cons, hfirst.name, ih]

/-- A step that is not run brings its section all the same. -/
theorem brings_skipped {st : SweepState} (step : Step) :
    Brings s files st step (.ofFailure step.name step.title step.severity skippedText) := by
  cases step with
  | check check => exact checked_of_error
  | tool name title => rfl

theorem runs_stepSection {step : Step} (hstep : step.Known) {made : Section}
    (h : Work.Runs heard (stepSection s files step) x (.ok made) y) :
    Learns files x y ∧ Brings s files y.1 step made := by
  cases step with
  | check check =>
    obtain ⟨made', hrun, heq⟩ := Work.runs_lift_iff.mp h
    obtain rfl := Except.ok.inj heq
    exact runs_checkSection hrun
  | tool name title =>
    obtain ⟨outcome, z, hask, hrest⟩ := Work.runs_bind_ok_iff.mp h
    obtain ⟨outcome', hrun, heq, hz⟩ := runs_asking_iff.mp hask
    obtain rfl := Except.ok.inj heq
    cases outcome with
    | error e => cases (Work.runs_throw_iff.mp hrest).1
    | ok made' =>
      obtain ⟨heq, rfl⟩ := Work.runs_pure_iff.mp hrest
      obtain rfl := Except.ok.inj heq
      exact ⟨learns_of_asking hask, (madeAs_of_runs_toolSection hstep hrun).name⟩

theorem runs_takeStep {step : Step} (hstep : step.Known) {made : Section}
    (h : Work.Runs heard (takeStep s files step) x (.ok made) y) :
    Learns files x y ∧ Brings s files y.1 step made := by
  obtain ⟨stop, z, hask, hafter⟩ := Work.runs_bind_ok_iff.mp h
  have hasked : Learns files x z := learns_of_asking hask
  cases stop with
  | true =>
    obtain ⟨heq, rfl⟩ := Work.runs_pure_iff.mp hafter
    obtain rfl := Except.ok.inj heq
    exact ⟨hasked, brings_skipped step⟩
  | false =>
    obtain ⟨u, z', hannounce, hsection⟩ := Work.runs_bind_ok_iff.mp hafter
    obtain ⟨hlearns, hbrings⟩ := runs_stepSection hstep hsection
    exact ⟨hasked.trans ((learns_of_asking hannounce).trans hlearns), hbrings⟩

/-- The sections of the steps are recorded in the order of the steps. -/
theorem runs_runSteps {steps : List Step} (hsteps : ∀ step ∈ steps, step.Known)
    {l l' : Ledger} (h : Work.Runs heard (runSteps s files steps l) x (.ok l') y) :
    Learns files x y ∧ ∃ made, l'.sections = l.sections ++ made ∧
      List.Forall₂ (Brings s files y.1) steps made := by
  induction steps generalizing x l with
  | nil =>
    obtain ⟨heq, rfl⟩ := Work.runs_pure_iff.mp h
    obtain rfl := Except.ok.inj heq
    exact ⟨learns_of_past (List.prefix_refl _), [], (List.append_nil _).symm, .nil⟩
  | cons step rest ih =>
    have hstep := hsteps step (List.mem_cons_self ..)
    have hothers : ∀ other ∈ rest, other.Known :=
      fun other hother => hsteps other (List.mem_cons_of_mem _ hother)
    obtain ⟨first, z₁, htake, hafter⟩ := Work.runs_bind_ok_iff.mp h
    obtain ⟨htaken, hbrings⟩ := runs_takeStep hstep htake
    obtain ⟨l₁, z₂, hrecord, hrest⟩ := Work.runs_bind_ok_iff.mp hafter
    obtain ⟨hrecorded, hsections⟩ := runs_record files hrecord
    obtain ⟨hlearns, others, happend, hforall⟩ := ih hothers hrest
    have hall := hrecorded.trans hlearns
    refine ⟨htaken.trans hall, first :: others, ?_, .cons (hbrings.mono hall) hforall⟩
    rw [happend, hsections, List.append_assoc]
    rfl

/-! ### The plan -/

theorem checkStep_eq_ok {name : String} {step : Step} (h : checkStep name = .ok step) :
    step.Known ∧ step.name = name := by
  rw [checkStep] at h
  rcases hfound : Check.find? name with - | check <;> rw [hfound] at h
  · cases h
  · obtain rfl := Except.ok.inj h
    have hname : check.name = name := by
      rw [Check.find?] at hfound
      have heq := List.find?_some hfound
      exact beq_iff_eq.mp heq
    subst hname
    exact ⟨hfound, rfl⟩

theorem toolStep_eq_ok {name : String} {step : Step} (h : toolStep name = .ok step) :
    step.Known ∧ step.name = name := by
  rw [toolStep] at h
  rcases hfound : Tool.title? name with - | title <;> rw [hfound] at h
  · cases h
  · obtain rfl := Except.ok.inj h
    exact ⟨hfound, rfl⟩

theorem known_of_mapM {f : String → Except SweepError Step}
    (hf : ∀ {name step}, f name = .ok step → step.Known ∧ step.name = name)
    {names : List String} {steps : List Step} (h : names.mapM f = .ok steps) :
    (∀ step ∈ steps, step.Known) ∧ steps.map Step.name = names := by
  induction names generalizing steps with
  | nil =>
    obtain rfl := Except.ok.inj h
    simp
  | cons name names ih =>
    rw [List.mapM_cons] at h
    rcases hfirst : f name with e | step <;> rw [hfirst] at h
    · cases h
    · rcases hrest : names.mapM f with e | rest <;> rw [hrest] at h
      · cases h
      · obtain rfl := Except.ok.inj h
        obtain ⟨hstep, hname⟩ := hf hfirst
        obtain ⟨hknown, hnames⟩ := ih hrest
        refine ⟨fun other hother => ?_, by rw [List.map_cons, hname, hnames]⟩
        rcases List.mem_cons.mp hother with rfl | hother
        · exact hstep
        · exact hknown other hother

/-- A plan has the checks of the profile and then its tools, all of them known. -/
theorem plan_eq_ok {p : Profile} {steps : List Step} (h : plan p = .ok steps) :
    (∀ step ∈ steps, step.Known) ∧ steps.map Step.name = p.checks ++ p.tools := by
  rw [plan] at h
  rcases hchecks : p.checks.mapM checkStep with e | checks <;> rw [hchecks] at h
  · cases h
  · rcases htools : p.tools.mapM toolStep with e | tools <;> rw [htools] at h
    · cases h
    · obtain rfl := Except.ok.inj h
      obtain ⟨hcheckKnown, hcheckNames⟩ := known_of_mapM checkStep_eq_ok hchecks
      obtain ⟨htoolKnown, htoolNames⟩ := known_of_mapM toolStep_eq_ok htools
      refine ⟨fun step hstep => ?_, by rw [List.map_append, hcheckNames, htoolNames]⟩
      rcases List.mem_append.mp hstep with hstep | hstep
      · exact hcheckKnown step hstep
      · exact htoolKnown step hstep

/-! ### The whole survey -/

/-- The site is one at which the tool has found a site, unless there is nothing to try out. -/
theorem runs_precondition (files : List Candidate) {site : Option Site}
    (h : Work.Runs heard (precondition s) x (.ok site) y) :
    Learns files x y ∧ site = s.probedSite ∧
      ∀ probed, site = some probed → ∃ out err,
        .asked (.launch (probed.command .isInstalled)) (.exited 0 out err) ∈ y.2 := by
  rw [precondition] at h
  rcases hprobed : s.probedSite with - | probed <;> rw [hprobed] at h
  · obtain ⟨heq, rfl⟩ := Work.runs_pure_iff.mp h
    obtain rfl := Except.ok.inj heq
    exact ⟨learns_of_past (List.prefix_refl _), rfl, fun probed heq => by cases heq⟩
  · obtain ⟨found, z, hask, hrest⟩ := Work.runs_bind_ok_iff.mp h
    obtain ⟨found', hrun, heq, -⟩ := runs_asking_iff.mp hask
    obtain rfl := Except.ok.inj heq
    match found with
    | .ok true =>
      obtain ⟨heq, rfl⟩ := Work.runs_pure_iff.mp hrest
      obtain rfl := Except.ok.inj heq
      refine ⟨learns_of_asking hask, rfl, fun probed' heq => ?_⟩
      obtain rfl := Option.some.inj heq
      obtain ⟨out, err, hreply⟩ := Site.runs_isInstalled_true hrun
      exact ⟨out, err, asked_mem_of_heard hreply⟩
    | .ok false => cases (Work.runs_throw_iff.mp hrest).1
    | .error e => cases (Work.runs_throw_iff.mp hrest).1

/-- The files are those of the walk over the tree as it is at the start. -/
theorem runs_collect {listed : List Candidate} {statistics : Statistics}
    (h : Work.Runs heard (collect s) x (.ok (listed, statistics)) y) :
    ∃ walk, walk.files = listed ∧ Learns walk.files x y ∧
      candidates s x.1.tree = .ok walk := by
  obtain ⟨_, z₁, hannounce, hread⟩ := Work.runs_bind_ok_iff.mp h
  obtain ⟨_, z₂, hget, hlist⟩ := Work.runs_bind_ok_iff.mp hread
  obtain ⟨hgot, rfl⟩ := Work.runs_get_iff.mp hget
  obtain rfl := Except.ok.inj hgot
  have hstart : ∀ files, Learns files x _ := fun _ => learns_of_asking hannounce
  dsimp only at hlist
  rw [(hstart []).tree] at hlist
  rcases hdone : candidates s x.1.tree with e | walk <;> rw [hdone] at hlist
  · obtain ⟨walk, z₃, hthrow, -⟩ := Work.runs_bind_ok_iff.mp hlist
    cases (Work.runs_throw_iff.mp hthrow).1
  · obtain ⟨_, z₃, hpure, hwarned⟩ := Work.runs_bind_ok_iff.mp hlist
    obtain ⟨hwalk, rfl⟩ := Work.runs_pure_iff.mp hpure
    obtain rfl := Except.ok.inj hwalk
    obtain ⟨_, z₄, hwarn, hcounted⟩ := Work.runs_bind_ok_iff.mp hwarned
    obtain ⟨_, z₅, hcount, hend⟩ := Work.runs_bind_ok_iff.mp hcounted
    obtain ⟨hresult, rfl⟩ := Work.runs_pure_iff.mp hend
    obtain ⟨rfl, -⟩ := Prod.mk.inj (Except.ok.inj hresult)
    exact ⟨_, rfl, (hstart _).trans ((learns_of_asking hwarn).trans (learns_of_asking hcount)), rfl⟩

/-- What is true when the reports are begun. -/
structure Surveyed (s : Settings) (walk : Walk) (steps : List Step) (x : SweepState × History)
    (v : Survey) (y : SweepState × History) : Prop where
  walked : candidates s x.1.tree = .ok walk
  planned : plan s.profile = .ok steps
  learns : Learns walk.files x y
  brings : List.Forall₂ (Brings s walk.files y.1) steps v.ledger.sections
  site : v.site = s.probedSite
  installed : ∀ probed, v.site = some probed → ∃ out err,
    .asked (.launch (probed.command .isInstalled)) (.exited 0 out err) ∈ y.2

/-- **A survey that comes to its end** has listed the files, made sure of the site, and recorded
the sections of all steps. -/
theorem runs_survey {v : Survey} (h : Work.Runs heard (survey s) x (.ok v) y) :
    ∃ walk steps, Surveyed s walk steps x v y := by
  obtain ⟨site, z₁, hsite, hlist⟩ := Work.runs_bind_ok_iff.mp h
  obtain ⟨⟨listed, statistics⟩, z₂, hcollect, hplanned⟩ := Work.runs_bind_ok_iff.mp hlist
  rcases hplan : plan s.profile with e | steps <;> simp only [hplan] at hplanned
  · obtain ⟨steps, z₃, hthrow, -⟩ := Work.runs_bind_ok_iff.mp hplanned
    cases (Work.runs_throw_iff.mp hthrow).1
  · obtain ⟨_, z₃, hpure, hrun⟩ := Work.runs_bind_ok_iff.mp hplanned
    obtain ⟨hsame, rfl⟩ := Work.runs_pure_iff.mp hpure
    obtain rfl := Except.ok.inj hsame
    obtain ⟨ledger, z₄, hsteps, hend⟩ := Work.runs_bind_ok_iff.mp hrun
    obtain ⟨interrupted, z₅, hask, hdone⟩ := Work.runs_bind_ok_iff.mp hend
    obtain ⟨hresult, rfl⟩ := Work.runs_pure_iff.mp hdone
    obtain rfl := Except.ok.inj hresult
    obtain ⟨walk, rfl, hcollected, hwalk⟩ := runs_collect hcollect
    obtain ⟨hfound, hprobed, hinstalled⟩ := runs_precondition walk.files hsite
    obtain ⟨hlearned, made, hsections, hforall⟩ := runs_runSteps (plan_eq_ok hplan).1 hsteps
    have hasked : Learns walk.files z₄ _ := learns_of_asking hask
    -- What is learned of the files in one part is kept in the others.
    have hrest := hcollected.trans (hlearned.trans hasked)
    refine ⟨walk, _, ?_, hplan, hfound.trans hrest, ?_, hprobed, ?_⟩
    · rw [← hfound.tree]
      exact hwalk
    · rw [show ledger.sections = made from hsections]
      exact hforall.imp fun _ _ hbrings => hbrings.mono hasked
    · intro probed heq
      obtain ⟨out, err, hmem⟩ := hinstalled probed heq
      exact ⟨out, err, hrest.past.subset hmem⟩

/-- The survey asks last whether the run has been told to end, and keeps the reply. -/
theorem runs_survey_asks {σ : Type} {c : Conduct Request.Reply σ} {x y : SweepState × σ}
    {v : Survey} (h : Work.Runs c (survey s) x (.ok v) y) :
    ∃ before, c before .cancelled v.interrupted y.2 := by
  obtain ⟨site, z₁, -, hlist⟩ := Work.runs_bind_ok_iff.mp h
  obtain ⟨⟨listed, statistics⟩, z₂, -, hplanned⟩ := Work.runs_bind_ok_iff.mp hlist
  rcases hplan : plan s.profile with e | steps <;> simp only [hplan] at hplanned
  · obtain ⟨steps, z₃, hthrow, -⟩ := Work.runs_bind_ok_iff.mp hplanned
    cases (Work.runs_throw_iff.mp hthrow).1
  · obtain ⟨_, z₃, -, hrun⟩ := Work.runs_bind_ok_iff.mp hplanned
    obtain ⟨ledger, z₄, -, hend⟩ := Work.runs_bind_ok_iff.mp hrun
    obtain ⟨interrupted, z₅, hask, hdone⟩ := Work.runs_bind_ok_iff.mp hend
    obtain ⟨hresult, rfl⟩ := Work.runs_pure_iff.mp hdone
    obtain rfl := Except.ok.inj hresult
    obtain ⟨_, hcancelled, heq, -⟩ := runs_asking_iff.mp hask
    obtain rfl := Except.ok.inj heq
    exact ⟨z₄.2, Asking.runs_cancelled_iff.mp hcancelled⟩

end PluginSweep.Sweep
