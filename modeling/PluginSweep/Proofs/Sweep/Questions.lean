/-
PluginSweep/Proofs/Sweep/Questions.lean

What a sweep asks before its reports are begun.  A check asks to be begun, reads
files that some rule of it applies to and shows the file for the removal; a tool
starts its own commands; no step asks anything else (`Step.Asks`,
`only_stepSection`).  Up to the reports a sweep never looks into the state of a
plugin, sets nothing of a site, and leaves the lock alone (`only_survey_early`).

There is one lemma for each piece of work, in the order of the definitions.
-/
import PluginSweep.Proofs.Request.Steady
import PluginSweep.Proofs.Request.Garbled
import PluginSweep.Sweep

namespace PluginSweep

/-! ### Kinds of questions -/

/-- The command is part of trying a plugin out: it looks into the state of the plugin, switches it
on or off, or sets a flag of the site. -/
def Command.tries : Command → Bool
  | .site _ _ (.isActive _) => true
  | .site _ _ (.activate ..) => true
  | .site _ _ (.deactivate ..) => true
  | .site _ _ (.setFlag ..) => true
  | _ => false

/-- The request is no part of trying a plugin out, under the lock of a site. -/
def Request.Early : Request → Prop
  | .launch command => command.tries = false
  | .lock _ => False
  | _ => True

/-- The request is part of trying a plugin out: it starts a command for that, or warns. -/
def Request.Trying : Request → Prop
  | .launch command => command.tries = true
  | .warn _ => True
  | _ => False

theorem Asking.only_warnAll {p : Request → Prop} (hwarn : ∀ w, p (.warn w))
    (warnings : List Warning) : (Asking.warnAll warnings).Only p := by
  induction warnings with
  | nil => exact Dialogue.only_pure _
  | cons w rest ih => exact (Dialogue.only_inquire_iff.mpr (hwarn w)).bind fun _ => ih

/-- The syntax check starts the checker for the files, and warns of those that are left out. -/
theorem Lint.only_run {p : Request → Prop} {seconds : Int} {binary : String}
    {files : List Candidate} (hlaunch : ∀ file ∈ files, p (.launch (Lint.command binary file)))
    (hwarn : ∀ w, p (.warn w)) : (Lint.run seconds binary files).Only p := by
  have hcheck : ∀ (rest : List Candidate) (_ : ∀ file ∈ rest, file ∈ files)
      (progress : Lint.Progress),
      (Lint.checkFiles seconds binary rest progress).Only p := by
    intro rest
    induction rest with
    | nil => exact fun _ progress => Dialogue.only_pure _
    | cons file rest ih =>
      intro hrest progress
      have hothers := fun other hother => hrest other (List.mem_cons_of_mem file hother)
      refine (Asking.only_launch (hlaunch file (hrest file List.mem_cons_self))).bind
        fun outcome => ?_
      match outcome with
      | .ok r => exact ih hothers _
      | .error (.failure f) =>
        exact (Dialogue.only_inquire_iff.mpr (hwarn _)).bind fun _ => ih hothers _
      | .error .undecodable => exact Dialogue.only_pure _
  exact (hcheck files (fun _ => id) {}).bind fun _ => Dialogue.only_pure _

namespace Sweep

variable {s : Settings} {files : List Candidate}

/-- The question is one that the step may ask when it is run. -/
def Step.Asks (s : Settings) (files : List Candidate) : Step → Request → Prop
  | .check c, .begin name => name = c.name
  | .check c, .read file _ =>
    file ∈ files ∧ c.rulesFor file.extension s.profile.sourceExtensions ≠ []
  | .check c, .preview _ _ => c.name = Check.uninstallName
  | .tool t _, .launch command =>
    (∃ standards, standardsOf? s t = some standards ∧ command = .standards standards) ∨
      (standardsOf? s t = none ∧ ∃ file ∈ files, command = Lint.command "php" file)
  | _, .warn _ => True
  | _, _ => False

theorem Step.Asks.outward {step : Step} {q : Request} (h : step.Asks s files q) : q.Outward := by
  cases step <;> cases q <;> trivial

theorem Step.Asks.early {step : Step} {q : Request} (h : step.Asks s files q) : q.Early := by
  cases step <;> cases q <;> first | trivial | exact h.elim | skip
  rename_i command
  rcases h with ⟨standards, -, rfl⟩ | ⟨-, file, -, rfl⟩
  · rfl
  · rfl

theorem Step.Asks.startsNothing {check : Check} {q : Request}
    (h : (Step.check check).Asks s files q) : q.StartsNothing := by
  cases q <;> trivial

/-! ### Single pieces of work -/

theorem only_asking {α : Type} {work : Asking α} {p : Request → Prop} (h : work.Only p) :
    Work.Only p (asking work) :=
  Work.only_lift fun st => Work.only_stateT_lift h st

theorem only_record {p : Request → Prop} (hwarn : ∀ w, p (.warn w)) (l : Ledger)
    (made : Section) : Work.Only p (record l made) := by
  refine (only_asking (Asking.only_warnAll hwarn _)).bind fun _ => ?_
  rcases l.record made with e | l'
  · exact Work.only_throw _
  · exact Work.only_pure _

/-! ### Checks and tools -/

theorem only_source {p : Request → Prop} {file : Candidate}
    (hread : ∀ stored, p (.read file stored)) (st : SweepState) :
    ((source file).run st).Only p := by
  simp only [source, StateT.run_bind, StateT.run_get, pure_bind]
  rcases st.sources.lookup file.path with - | known
  · refine (Work.only_stateT_lift (Dialogue.only_inquire_iff.mpr (hread _)) st).bind fun _ => ?_
    exact Dialogue.only_pure _
  · exact Dialogue.only_pure _

theorem only_scanFiles (check : Check) {rest : List Candidate} (hrest : ∀ file ∈ rest, file ∈ files)
    (scan : Scan) (st : SweepState) :
    ((check.scanFiles s.profile.sourceExtensions source
      (fun w => StateT.lift (Asking.warn w)) rest scan).run st).Only
        ((Step.check check).Asks s files) := by
  induction rest generalizing scan st with
  | nil => exact Dialogue.only_pure _
  | cons file rest ih =>
    have hothers := fun other hother => hrest other (List.mem_cons_of_mem file hother)
    rw [Check.scanFiles]
    split
    · exact ih hothers _ _
    · rename_i hrules
      have hasks : ∀ stored, (Step.check check).Asks s files (.read file stored) :=
        fun _ => ⟨hrest file List.mem_cons_self, fun hnone => hrules (List.isEmpty_iff.mpr hnone)⟩
      refine Work.only_stateT_bind (only_source hasks) (fun text st => ?_) st
      cases text with
      | ok t => exact ih hothers _ _
      | error e =>
        exact Work.only_stateT_bind
          (Work.only_stateT_lift (Dialogue.only_inquire_iff.mpr trivial))
          (fun _ => ih hothers _) st

theorem only_uninstallNotes {p : Request → Prop}
    (hpreview : ∀ path stored, p (.preview path stored)) (root : Path) (st : SweepState) :
    ((uninstallNotes root).run st).Only p := by
  simp only [uninstallNotes, StateT.run_bind, StateT.run_get, pure_bind]
  split
  · exact Dialogue.only_pure _
  · exact Dialogue.only_pure _
  · refine (Work.only_stateT_lift (Dialogue.only_inquire_iff.mpr (hpreview _ _)) st).bind
      fun out => ?_
    rcases out with ⟨e | bytes, st'⟩
    · exact Dialogue.only_pure _
    · exact Dialogue.only_pure _

theorem only_checkSection (check : Check) (st : SweepState) :
    ((checkSection s files check).run st).Only ((Step.check check).Asks s files) := by
  have hbegin : (Step.check check).Asks s files (.begin check.name) := rfl
  refine Work.only_stateT_bind (Work.only_stateT_lift (Dialogue.only_inquire_iff.mpr hbegin))
    (fun refusal st => ?_) st
  cases refusal with
  | some e => exact Dialogue.only_pure _
  | none =>
    refine Work.only_stateT_bind (fun st => ?_) (fun scan st => ?_) st
    · refine Work.only_stateT_bind (only_scanFiles check (fun _ => id) {}) (fun _ _ => ?_) st
      exact Dialogue.only_pure _
    · split
      · rename_i hname
        exact Work.only_stateT_bind (only_uninstallNotes (fun _ _ => hname) _)
          (fun _ _ => Dialogue.only_pure _) st
      · exact Dialogue.only_pure _

theorem only_toolSection (tool title : String) :
    (toolSection s files tool title).Only ((Step.tool tool title).Asks s files) := by
  rw [toolSection]
  dsimp only
  split
  · rename_i check hcheck
    refine (Asking.only_launch (.inl ⟨check, hcheck, rfl⟩)).bind fun outcome => ?_
    match outcome with
    | .ok r => exact Dialogue.only_pure _
    | .error (.failure f) => exact Dialogue.only_pure _
    | .error .undecodable => exact Dialogue.only_pure _
  · rename_i hnone
    have hlaunch : ∀ file ∈ files,
        (Step.tool tool title).Asks s files (.launch (Lint.command "php" file)) :=
      fun file hfile => .inr ⟨hnone, file, hfile, rfl⟩
    refine (Lint.only_run hlaunch fun _ => trivial).bind fun outcome => ?_
    match outcome with
    | .ok o => exact Dialogue.only_pure _
    | .error (.failure f) => exact Dialogue.only_pure _
    | .error .undecodable => exact Dialogue.only_pure _

/-- **A step asks what it needs, and nothing else.** -/
theorem only_stepSection (step : Step) :
    Work.Only (step.Asks s files) (stepSection s files step) := by
  cases step with
  | check check => exact Work.only_lift fun st => only_checkSection check st
  | tool name title =>
    refine (only_asking (only_toolSection name title)).bind fun made => ?_
    cases made with
    | ok made => exact Work.only_pure _
    | error e => exact Work.only_throw _

/-! ### The survey -/

theorem only_takeStep (step : Step) : Work.Only Request.Early (takeStep s files step) := by
  refine (only_asking (Dialogue.only_inquire_iff.mpr trivial)).bind fun stop => ?_
  cases stop with
  | true => exact Work.only_pure _
  | false =>
    refine (only_asking (Dialogue.only_inquire_iff.mpr trivial)).bind fun _ => ?_
    exact fun st => (only_stepSection step st).mono fun _ => Step.Asks.early

theorem only_runSteps (steps : List Step) (l : Ledger) :
    Work.Only Request.Early (runSteps s files steps l) := by
  induction steps generalizing l with
  | nil => exact Work.only_pure _
  | cons step rest ih =>
    refine (only_takeStep step).bind fun made => ?_
    exact (only_record (fun _ => trivial) l made).bind fun l' => ih l'

/-- Making sure of the site starts one command, and may warn. -/
theorem only_precondition {p : Request → Prop}
    (hlaunch : ∀ site, s.probedSite = some site → p (.launch (site.command .isInstalled)))
    (hwarn : ∀ w, p (.warn w)) : Work.Only p (precondition s) := by
  rw [precondition]
  rcases hprobed : s.probedSite with - | site
  · exact Work.only_pure _
  · refine (only_asking ?_).bind fun found => ?_
    · refine (Asking.only_launch (hlaunch site hprobed)).bind fun outcome => ?_
      match outcome with
      | .ok r => exact Dialogue.only_pure _
      | .error (.failure f) =>
        exact (Dialogue.only_inquire_iff.mpr (hwarn _)).bind fun _ => Dialogue.only_pure _
      | .error .undecodable => exact Dialogue.only_pure _
    · match found with
      | .ok true => exact Work.only_pure _
      | .ok false => exact Work.only_throw _
      | .error e => exact Work.only_throw _

/-- Collecting the files says so, and may warn. -/
theorem only_collect {p : Request → Prop} (hannounce : ∀ message, p (.announce message))
    (hwarn : ∀ w, p (.warn w)) : Work.Only p (collect s) := by
  refine (only_asking (Dialogue.only_inquire_iff.mpr (hannounce _))).bind fun _ => ?_
  refine Work.only_get.bind fun st => ?_
  dsimp only
  split
  · refine (Work.only_pure _).bind fun walk => ?_
    refine (only_asking (Asking.only_warnAll hwarn _)).bind fun _ => ?_
    exact (only_asking (Asking.only_warnAll hwarn _)).bind fun _ => Work.only_pure _
  · refine (Work.only_throw _).bind fun walk => ?_
    refine (only_asking (Asking.only_warnAll hwarn _)).bind fun _ => ?_
    exact (only_asking (Asking.only_warnAll hwarn _)).bind fun _ => Work.only_pure _

/-- **Before the reports, a sweep does nothing that is part of trying the plugin out.** -/
theorem only_survey_early (s : Settings) : Work.Only Request.Early (survey s) := by
  refine (only_precondition (fun _ _ => rfl) fun _ => trivial).bind fun site => ?_
  refine (only_collect (fun _ => trivial) fun _ => trivial).bind fun collected => ?_
  have hsteps : ∀ steps : List Step, Work.Only Request.Early (do
      let ledger ← runSteps s collected.1 steps {}
      pure (Survey.mk site ledger collected.2 (← asking Asking.cancelled))) := by
    intro steps
    refine (only_runSteps steps {}).bind fun ledger => ?_
    exact (only_asking (Dialogue.only_inquire_iff.mpr trivial)).bind fun _ => Work.only_pure _
  dsimp only
  split
  · exact (Work.only_pure _).bind hsteps
  · exact (Work.only_throw _).bind hsteps

end Sweep

end PluginSweep
