/-
PluginSweep/Proofs/Sweep/Failure.lean

How a survey may fail.  Checks that cannot be begun, files that cannot be read and
tools that do not run are recorded, and the survey goes on.  What is left are two ways
to fail: there is no site, or a tool has written bytes that are no text; and a survey
during which a tool has written such bytes always fails (`soundly_survey`).

`Soundly E P w` says of work `w` what is needed for that, in a form that can be put
together: the tree stays as it is, failures lie in `E`, what the work brings has the
property `P`, and it fails by `undecodable` exactly if what a tool wrote was no text.
There is one lemma for each piece of work of the survey, and the induction is on the
steps, none of whose names is recorded already.
-/
import PluginSweep.Proofs.Request.Garbled
import PluginSweep.Proofs.Sweep.Harmless
import PluginSweep.Proofs.Sweep.Survey

namespace PluginSweep

open History

/-! ### Tools that write no text -/

section Tools

variable {past now : History} {seconds : Int} {binary : String}

theorem garbled_warn {w : Warning} {u : Unit}
    (h : Dialogue.Runs heard (Asking.warn w) past u now) : Garbled now ↔ Garbled past :=
  garbled_of_runs_only h (Dialogue.only_inquire_iff.mpr trivial)

theorem Lint.garbled_checkFiles {files : List Candidate} {p : Lint.Progress}
    {o : Except LaunchError Lint.Progress}
    (h : Dialogue.Runs heard (Lint.checkFiles seconds binary files p) past o now) :
    Garbled now ↔ Garbled past ∨ o = .error .undecodable := by
  induction files generalizing p past with
  | nil =>
    obtain ⟨rfl, rfl⟩ := Dialogue.runs_pure_iff.mp h
    simp
  | cons file rest ih =>
    obtain ⟨launched, between, hlaunch, hrest⟩ := Dialogue.runs_bind_iff.mp h
    have hlaunched : Garbled between ↔ Garbled past ∨ launched = .error .undecodable :=
      garbled_of_runs_launch hlaunch
    match launched with
    | .error .undecodable =>
      obtain ⟨rfl, rfl⟩ := Dialogue.runs_pure_iff.mp hrest
      simpa using hlaunched
    | .error (.failure f) =>
      -- The file is left out with a warning, and the next one follows.
      obtain ⟨_, warned, hwarn, hgo⟩ := Dialogue.runs_bind_iff.mp hrest
      rw [ih hgo, garbled_warn hwarn, hlaunched]
      simp
    | .ok r =>
      rw [ih hrest, hlaunched]
      simp

theorem Lint.Progress.result_ne_undecodable (p : Lint.Progress) :
    p.result ≠ .error .undecodable := by
  rw [result]
  split
  · exact fun heq => by cases heq
  · exact fun heq => by cases heq

theorem Lint.garbled_run {files : List Candidate} {o : Except LaunchError LintOutcome}
    (h : Dialogue.Runs heard (Lint.run seconds binary files) past o now) :
    Garbled now ↔ Garbled past ∨ o = .error .undecodable := by
  obtain ⟨checked, between, hcheck, hrest⟩ := Dialogue.runs_bind_iff.mp h
  obtain ⟨rfl, rfl⟩ := Dialogue.runs_pure_iff.mp hrest
  rw [Lint.garbled_checkFiles hcheck]
  cases checked with
  | ok p =>
    have hresult : (Except.ok p).bind Lint.Progress.result ≠ .error .undecodable :=
      p.result_ne_undecodable
    simp [hresult]
  | error e =>
    have hbind : (Except.error e : Except LaunchError Lint.Progress).bind Lint.Progress.result =
      .error e := rfl
    simp [hbind]

theorem Site.garbled_isInstalled {site : Site} {o : Except LaunchError Bool}
    (h : Dialogue.Runs heard site.isInstalled past o now) :
    Garbled now ↔ Garbled past ∨ ∃ e, o = .error e := by
  obtain ⟨launched, between, hlaunch, hrest⟩ := Dialogue.runs_bind_iff.mp h
  have hlaunched : Garbled between ↔ Garbled past ∨ launched = .error .undecodable :=
    garbled_of_runs_launch hlaunch
  match launched with
  | .ok r =>
    obtain ⟨rfl, rfl⟩ := Dialogue.runs_pure_iff.mp hrest
    simpa using hlaunched
  | .error (.failure f) =>
    obtain ⟨_, warned, hwarn, hend⟩ := Dialogue.runs_bind_iff.mp hrest
    obtain ⟨rfl, rfl⟩ := Dialogue.runs_pure_iff.mp hend
    rw [garbled_warn hwarn, hlaunched]
    simp
  | .error .undecodable =>
    obtain ⟨rfl, rfl⟩ := Dialogue.runs_pure_iff.mp hrest
    simpa using hlaunched

/-- A tool has a section, unless what it wrote is no text. -/
theorem Sweep.garbled_toolSection {s : Settings} {files : List Candidate} {tool title : String}
    {o : Except LaunchError Section}
    (h : Dialogue.Runs heard (toolSection s files tool title) past o now) :
    Garbled now ↔ Garbled past ∨ ∃ e, o = .error e := by
  rw [toolSection] at h
  dsimp only at h
  split at h
  · -- A tool that is launched once.
    obtain ⟨launched, between, hlaunch, hrest⟩ := Dialogue.runs_bind_iff.mp h
    have hlaunched : Garbled between ↔ Garbled past ∨ launched = .error .undecodable :=
      garbled_of_runs_launch hlaunch
    rcases launched with (f | _) | r
    · obtain ⟨rfl, rfl⟩ := Dialogue.runs_pure_iff.mp hrest
      simpa using hlaunched
    · obtain ⟨rfl, rfl⟩ := Dialogue.runs_pure_iff.mp hrest
      simpa using hlaunched
    · obtain ⟨rfl, rfl⟩ := Dialogue.runs_pure_iff.mp hrest
      simpa using hlaunched
  · -- The syntax check, which launches one for each file.
    obtain ⟨linted, between, hlint, hrest⟩ := Dialogue.runs_bind_iff.mp h
    have hlinted : Garbled between ↔ Garbled past ∨ linted = .error .undecodable :=
      Lint.garbled_run hlint
    rcases linted with (f | _) | r
    · obtain ⟨rfl, rfl⟩ := Dialogue.runs_pure_iff.mp hrest
      simpa using hlinted
    · obtain ⟨rfl, rfl⟩ := Dialogue.runs_pure_iff.mp hrest
      simpa using hlinted
    · obtain ⟨rfl, rfl⟩ := Dialogue.runs_pure_iff.mp hrest
      simpa using hlinted

end Tools

namespace Sweep

variable {α β : Type} {s : Settings} {files : List Candidate}
  {E : SweepError → Prop} {P : α → Prop}

/-! ### Sound work -/

/-- The work leaves the tree alone, fails in no way outside `E`, brings only what has the property
`P`, and fails by `undecodable` exactly if a tool has written bytes that are no text. -/
structure Soundly (E : SweepError → Prop) (P : α → Prop) (w : Sweeping α) : Prop where
  tree : ∀ x o y, Work.Runs heard w x o y → y.1.tree = x.1.tree
  garbled : ∀ x o y, Work.Runs heard w x o y →
    (Garbled y.2 ↔ Garbled x.2 ∨ o = .error .undecodable)
  fails : ∀ x e y, Work.Runs heard w x (.error e) y → E e
  brings : ∀ x a y, Work.Runs heard w x (.ok a) y → P a

theorem soundly_pure {a : α} (ha : P a) : Soundly E P (pure a : Sweeping α) where
  tree := by
    intro x o y h
    obtain ⟨-, rfl⟩ := Work.runs_pure_iff.mp h
    rfl
  garbled := by
    intro x o y h
    obtain ⟨rfl, rfl⟩ := Work.runs_pure_iff.mp h
    simp
  fails := by
    intro x e y h
    cases (Work.runs_pure_iff.mp h).1
  brings := by
    intro x a' y h
    obtain rfl := Except.ok.inj (Work.runs_pure_iff.mp h).1
    exact ha

theorem soundly_throw {e : SweepError} (he : E e) (hne : e ≠ .undecodable) :
    Soundly E P (throw e : Sweeping α) where
  tree := by
    intro x o y h
    obtain ⟨-, rfl⟩ := Work.runs_throw_iff.mp h
    rfl
  garbled := by
    intro x o y h
    obtain ⟨rfl, rfl⟩ := Work.runs_throw_iff.mp h
    have heq : (Except.error e : Except SweepError α) ≠ .error .undecodable :=
      fun heq => hne (Except.error.inj heq)
    simp [heq]
  fails := by
    intro x e' y h
    obtain rfl := Except.error.inj (Work.runs_throw_iff.mp h).1
    exact he
  brings := by
    intro x a y h
    cases (Work.runs_throw_iff.mp h).1

theorem Soundly.bind {Q : β → Prop} {w : Sweeping α} {f : α → Sweeping β} (hw : Soundly E P w)
    (hf : ∀ a, P a → Soundly E Q (f a)) : Soundly E Q (w >>= f) where
  tree := by
    intro x o y h
    rcases Work.runs_bind_iff.mp h with ⟨a, z, hrun, hrest⟩ | ⟨e, hrun, -⟩
    · have hfa := hf a (hw.brings _ _ _ hrun)
      exact (hfa.tree _ _ _ hrest).trans (hw.tree _ _ _ hrun)
    · exact hw.tree _ _ _ hrun
  garbled := by
    intro x o y h
    rcases Work.runs_bind_iff.mp h with ⟨a, z, hrun, hrest⟩ | ⟨e, hrun, rfl⟩
    · have hfa := hf a (hw.brings _ _ _ hrun)
      -- The first work has not failed, so nothing in it was garbled.
      rw [hfa.garbled _ _ _ hrest, hw.garbled _ _ _ hrun]
      simp
    · rw [hw.garbled _ _ _ hrun]
      simp
  fails := by
    intro x e y h
    rcases Work.runs_bind_iff.mp h with ⟨a, z, hrun, hrest⟩ | ⟨e', hrun, heq⟩
    · exact (hf a (hw.brings _ _ _ hrun)).fails _ _ _ hrest
    · obtain rfl := Except.error.inj heq
      exact hw.fails _ _ _ hrun
  brings := by
    intro x b y h
    obtain ⟨a, z, hrun, hrest⟩ := Work.runs_bind_ok_iff.mp h
    exact (hf a (hw.brings _ _ _ hrun)).brings _ _ _ hrest

/-- What the work brings has every property that it has whenever the work comes to its end. -/
theorem Soundly.of_brings {Q : α → Prop} {w : Sweeping α} (hw : Soundly E P w)
    (hQ : ∀ x a y, Work.Runs heard w x (.ok a) y → Q a) : Soundly E Q w where
  tree := hw.tree
  garbled := hw.garbled
  fails := hw.fails
  brings := hQ

/-- Work that fails in fewer ways. -/
theorem Soundly.mono {E' : SweepError → Prop} {w : Sweeping α} (hw : Soundly E P w)
    (hE : ∀ e, E e → E' e) : Soundly E' P w where
  tree := hw.tree
  garbled := hw.garbled
  fails := fun x e y h => hE e (hw.fails x e y h)
  brings := hw.brings

theorem soundly_get : Soundly E (fun _ => True) (get : Sweeping SweepState) where
  tree := by
    intro x o y h
    obtain ⟨-, rfl⟩ := Work.runs_get_iff.mp h
    rfl
  garbled := by
    intro x o y h
    obtain ⟨rfl, rfl⟩ := Work.runs_get_iff.mp h
    simp
  fails := by
    intro x e y h
    cases (Work.runs_get_iff.mp h).1
  brings := fun _ _ _ _ => trivial

theorem soundly_asking {work : Asking α} (hwork : work.Only Request.StartsNothing) :
    Soundly E (fun _ => True) (asking work) where
  tree := by
    intro x o y h
    obtain ⟨_, -, -, hst⟩ := runs_asking_iff.mp h
    rw [hst]
  garbled := by
    intro x o y h
    obtain ⟨_, hrun, rfl, -⟩ := runs_asking_iff.mp h
    rw [garbled_of_runs_only hrun hwork]
    simp
  fails := by
    intro x e y h
    obtain ⟨_, -, heq, -⟩ := runs_asking_iff.mp h
    cases heq
  brings := fun _ _ _ _ => trivial

theorem soundly_cancelled : Soundly E (fun _ => True) (asking Asking.cancelled) :=
  soundly_asking (Dialogue.only_inquire_iff.mpr trivial)

theorem soundly_announce (message : String) :
    Soundly E (fun _ => True) (asking (Asking.announce message)) :=
  soundly_asking (Dialogue.only_inquire_iff.mpr trivial)

theorem soundly_warnAll (warnings : List Warning) :
    Soundly E (fun _ => True) (asking (Asking.warnAll warnings)) :=
  soundly_asking (Asking.only_warnAll (fun _ => trivial) warnings)

/-- Work that starts tools and is given up exactly if one of them wrote no text. -/
theorem soundly_asking_bind {ε : Type} {work : Asking (Except ε α)}
    {f : Except ε α → Sweeping β} {Q : β → Prop}
    (hwork : ∀ {past o now}, Dialogue.Runs heard work past o now →
      (Garbled now ↔ Garbled past ∨ ∃ e, o = .error e))
    (hok : ∀ a, Soundly E Q (f (.ok a)))
    (herror : ∀ e, f (.error e) = throw .undecodable) (hE : E .undecodable) :
    Soundly E Q (asking work >>= f) := by
  -- Either the work has brought something, or all ends by `undecodable`.
  have hcases : ∀ x o y, Work.Runs heard (asking work >>= f) x o y →
      (∃ a z, z.1 = x.1 ∧ (Garbled z.2 ↔ Garbled x.2) ∧ Work.Runs heard (f (.ok a)) z o y) ∨
        (y.1 = x.1 ∧ Garbled y.2 ∧ o = .error .undecodable) := by
    intro x o y h
    obtain ⟨outcome, now, hrun, hrest⟩ := runs_asking_bind_iff.mp h
    have hgarbled := hwork hrun
    cases outcome with
    | ok a => exact .inl ⟨a, (x.1, now), rfl, by simpa using hgarbled, hrest⟩
    | error e =>
      rw [herror] at hrest
      obtain ⟨rfl, rfl⟩ := Work.runs_throw_iff.mp hrest
      exact .inr ⟨rfl, hgarbled.mpr (.inr ⟨e, rfl⟩), rfl⟩
  constructor
  · intro x o y h
    rcases hcases x o y h with ⟨a, z, hst, -, hrest⟩ | ⟨hst, -, -⟩
    · rw [(hok a).tree _ _ _ hrest, hst]
    · rw [hst]
  · intro x o y h
    rcases hcases x o y h with ⟨a, z, -, hgarbled, hrest⟩ | ⟨-, hgarbled, rfl⟩
    · rw [(hok a).garbled _ _ _ hrest, hgarbled]
    · simp [hgarbled]
  · intro x e y h
    rcases hcases x _ y h with ⟨a, z, -, -, hrest⟩ | ⟨-, -, heq⟩
    · exact (hok a).fails _ _ _ hrest
    · obtain rfl := Except.error.inj heq
      exact hE
  · intro x b y h
    rcases hcases x _ y h with ⟨a, z, -, -, hrest⟩ | ⟨-, -, heq⟩
    · exact (hok a).brings _ _ _ hrest
    · cases heq

/-! ### Steps -/

/-- The section of a check starts no command, and it always comes about. -/
theorem soundly_check (check : Check) :
    Soundly E (fun _ => True) (ExceptT.lift (checkSection s files check) : Sweeping Section) where
  tree := by
    intro x o y h
    obtain ⟨made, hrun, -⟩ := Work.runs_lift_iff.mp h
    exact (runs_checkSection hrun).1.tree
  garbled := by
    intro x o y h
    obtain ⟨made, hrun, rfl⟩ := Work.runs_lift_iff.mp h
    have hasks : ((checkSection s files check).run x.1).Only ((Step.check check).Asks s files) :=
      only_checkSection check x.1
    have honly := hasks.mono fun _ => Step.Asks.startsNothing
    rw [garbled_of_runs_only hrun honly]
    simp
  fails := by
    intro x e y h
    obtain ⟨_, -, heq⟩ := Work.runs_lift_iff.mp h
    cases heq
  brings := fun _ _ _ _ => trivial

/-- A step brings a section of its name; it fails only if a tool wrote no text. -/
theorem soundly_takeStep {step : Step} (hstep : step.Known) (hE : E .undecodable) :
    Soundly E (fun made => made.name = step.name) (takeStep s files step) := by
  -- That the section bears the name is known of every step; here is only how a step may fail.
  have hany : Soundly E (fun _ => True) (takeStep s files step) := by
    apply soundly_cancelled.bind
    rintro (_ | _) -
    · apply (soundly_announce step.title).bind
      intro _ _
      cases step with
      | check check => exact soundly_check check
      | tool name title =>
        exact soundly_asking_bind garbled_toolSection (fun _ => soundly_pure trivial)
          (fun _ => rfl) hE
    · exact soundly_pure trivial
  exact hany.of_brings fun x made y h => (runs_takeStep hstep h).2.name

/-- A section of a new name is recorded after those that are there. -/
theorem soundly_record {l : Ledger} {made : Section} (hnew : l.get? made.name = none) :
    Soundly E (fun l' => l'.sections = l.sections ++ [made]) (record l made) := by
  have hrecorded : l.record made = .ok ⟨l.sections ++ [made]⟩ :=
    Ledger.record_eq_ok_iff.mpr ⟨hnew, rfl⟩
  apply (soundly_warnAll _).bind
  intro _ _
  rw [hrecorded]
  exact soundly_pure rfl

/-- **All steps are taken and recorded**, if their names are new and different; only a tool that
writes no text is in the way. -/
theorem soundly_runSteps (hE : E .undecodable) {steps : List Step}
    (hknown : ∀ step ∈ steps, step.Known) {l : Ledger}
    (hnew : (l.sections.map (·.name) ++ steps.map Step.name).Nodup) :
    Soundly E (fun l' => l'.sections.map (·.name) = l.sections.map (·.name) ++ steps.map Step.name)
      (runSteps s files steps l) := by
  -- The names recorded and the names to come are, taken together, the same all along.
  induction steps generalizing l with
  | nil => exact soundly_pure (List.append_nil _).symm
  | cons step rest ih =>
    apply (soundly_takeStep (hknown step List.mem_cons_self) hE).bind
    intro made hmade
    have hget : l.get? made.name = none := by
      rw [hmade]
      rw [Ledger.get?_eq_none_iff]
      rw [List.map_cons, List.nodup_append] at hnew
      exact fun hmem => hnew.2.2 _ hmem _ List.mem_cons_self rfl
    apply (soundly_record hget).bind
    intro l' hl'
    have hnames : l'.sections.map (·.name) ++ rest.map Step.name =
        l.sections.map (·.name) ++ (step :: rest).map Step.name := by
      rw [hl', List.map_append, List.map_singleton, hmade, List.append_assoc]
      rfl
    rw [← hnames]
    exact ih (fun other hother => hknown other (List.mem_cons_of_mem _ hother)) (hnames ▸ hnew)

/-! ### The survey -/

/-- The survey has failed: there is no site, or a tool has written no text. -/
def SurveyFailed (e : SweepError) : Prop :=
  (∃ root, e = .noSite root) ∨ e = .undecodable

theorem soundly_precondition :
    Soundly SurveyFailed (fun _ => True) (precondition s) := by
  rw [precondition]
  cases s.probedSite with
  | none => exact soundly_pure trivial
  | some site =>
    refine soundly_asking_bind Site.garbled_isInstalled (fun found => ?_) (fun _ => rfl) (.inr rfl)
    cases found with
    | true => exact soundly_pure trivial
    | false => exact soundly_throw (.inl ⟨_, rfl⟩) SweepError.noConfusion

/-- The files of a plugin can always be listed. -/
theorem candidates_ne_error (hroot : FileSystem.admits s.target.root = true) (tree : FileSystem)
    (e : OsError) : candidates s tree ≠ .error e := by
  rw [candidates, FileSystem.walk, if_pos hroot]
  exact fun heq => by cases heq

theorem soundly_collect (hlist : ∀ tree e, candidates s tree = .error e → E (.refused e)) :
    Soundly E (fun _ => True) (collect s) := by
  apply (soundly_announce _).bind
  intro _ _
  apply soundly_get.bind
  intro st _
  dsimp only
  rcases hwalk : candidates s st.tree with e | walk
  · -- No file is counted if they cannot be listed.
    have hrefused : Soundly E (fun _ => False) (throw (.refused e) : Sweeping Walk) :=
      soundly_throw (hlist st.tree e hwalk) SweepError.noConfusion
    exact hrefused.bind fun _ hnone => hnone.elim
  · apply (soundly_pure (P := fun _ => True) trivial).bind
    intro listed _
    apply (soundly_warnAll _).bind
    intro _ _
    apply (soundly_warnAll _).bind
    intro _ _
    exact soundly_pure trivial

/-- What follows the precondition fails only if a tool has written no text, or if the files cannot
be listed. -/
theorem soundly_afterPrecondition (hE : E .undecodable)
    (hlist : ∀ tree e, candidates s tree = .error e → E (.refused e)) {steps : List Step}
    (hplan : plan s.profile = .ok steps) (hnames : (s.profile.checks ++ s.profile.tools).Nodup)
    (site : Option Site) :
    Soundly E
      (fun v : Survey => v.ledger.sections.map (·.name) = s.profile.checks ++ s.profile.tools) (do
      let (files, statistics) ← collect s
      let steps ← match plan s.profile with
        | .ok steps => pure steps
        | .error e => throw e
      let ledger ← runSteps s files steps {}
      pure ⟨site, ledger, statistics, ← asking Asking.cancelled⟩) := by
  obtain ⟨hknown, hstepNames⟩ := plan_eq_ok hplan
  apply (soundly_collect hlist).bind
  rintro ⟨listed, statistics⟩ -
  rw [hplan]
  apply (soundly_pure (P := fun taken => taken = steps) rfl).bind
  rintro taken rfl
  have hnew : (({} : Ledger).sections.map (·.name) ++ taken.map Step.name).Nodup := by
    rw [hstepNames]
    exact hnames
  apply (soundly_runSteps hE hknown hnew).bind
  intro ledger hledger
  apply soundly_cancelled.bind
  intro interrupted _
  exact soundly_pure (hledger.trans hstepNames)

/-- **A survey fails only if there is no site or a tool has written no text**, and it has one
section for every check and every tool of the profile. -/
theorem soundly_survey (hroot : FileSystem.admits s.target.root = true) {steps : List Step}
    (hplan : plan s.profile = .ok steps) (hnames : (s.profile.checks ++ s.profile.tools).Nodup) :
    Soundly SurveyFailed
      (fun v => v.ledger.sections.map (·.name) = s.profile.checks ++ s.profile.tools)
      (survey s) := by
  apply soundly_precondition.bind
  intro site _
  refine soundly_afterPrecondition (.inr rfl) (fun tree e heq => ?_) hplan hnames site
  exact absurd heq (candidates_ne_error hroot tree e)

end Sweep

end PluginSweep
