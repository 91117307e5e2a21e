/-
PluginSweep/Proofs/Sweep/Snapshot.lean

One snapshot for all checks.  Files may change while a sweep runs, and reading one may
succeed now and fail later.  The scans of a sweep do not notice: each path is read once at
most, and what was read then is what every scan sees.

The invariant (`Kept`) ties what a sweep keeps to what has happened: the sources are the
readings of the history, last first, and no path is among them twice.  It is proved for
every piece of work in the order of the definitions, and so holds wherever a run ends
(`kept_of_run`).  From it a run that has recorded its sections has one snapshot
(`Snapshot`): every reading brought what the snapshot has, and every check that was
completed found what it finds in the snapshot (`scans_share_snapshot`).

The preview of the file for the removal is no part of this.  It is read when it is shown,
and what it shows may differ from what the scans saw (`shown_though_refused`).
-/
import Mathlib.Data.List.Nodup
import PluginSweep.Proofs.Check.Batch
import PluginSweep.Proofs.Probe.Questions
import PluginSweep.Proofs.Sweep.Recorded

namespace PluginSweep

open History

/-! ### Readings -/

/-- The request looks into no file. -/
def Request.Blind : Request → Prop
  | .read .. => False
  | .preview .. => False
  | _ => True

theorem Request.Trying.blind {q : Request} (h : q.Trying) : q.Blind := by
  cases q with
  | read | preview => exact h
  | _ => trivial

/-- What a scan has read, if the event is that it has. -/
def Event.reading? : Event → Option (Path × Except OsError String)
  | .asked (.read file _) contents => some (file.path, Sweep.decoded contents)
  | _ => none

/-- What the scans have read, first things first. -/
def History.readings (past : History) : List (Path × Except OsError String) :=
  past.filterMap Event.reading?

/-- The file has been shown. -/
def History.Shown (path : Path) (past : History) : Prop :=
  ∃ stored contents, .asked (.preview path stored) contents ∈ past

theorem History.readings_of_since {past now : History} (h : Since Request.Blind past now) :
    readings now = readings past ∧ ∀ path, Shown path now → Shown path past := by
  obtain ⟨after, rfl, hafter⟩ := h
  constructor
  · rw [readings, List.filterMap_append]
    have hnone : after.filterMap Event.reading? = [] := by
      rw [List.filterMap_eq_nil_iff]
      intro event hmem
      match event with
      | .told => rfl
      | .asked (.read file stored) contents => exact (hafter _ _ hmem).elim
      | .asked (.preview ..) _ | .asked (.launch _) _ | .asked (.begin _) _
      | .asked .cancelled _ | .asked (.announce _) _ | .asked (.print _) _
      | .asked (.warn _) _ | .asked (.lock _) _ => rfl
    rw [hnone, List.append_nil]
    rfl
  · rintro path ⟨stored, contents, hmem⟩
    rcases List.mem_append.mp hmem with hpast | hmem
    · exact ⟨stored, contents, hpast⟩
    · exact (hafter _ _ hmem).elim

/-- A reply adds at most one reading: its own. -/
theorem History.readings_of_heard {past now : History} {question : Request} {reply : question.Reply}
    (h : heard past question reply now) :
    readings now = readings past ++ (Event.asked question reply).reading?.toList := by
  obtain ⟨n, -, rfl⟩ := h
  have hnone : (List.replicate n Event.told).filterMap Event.reading? = [] := by
    rw [List.filterMap_replicate]
    rfl
  rw [readings, List.filterMap_append, List.filterMap_append, hnone, List.append_nil]
  apply congrArg (readings past ++ ·)
  show List.filterMap Event.reading? [_] = _
  rw [List.filterMap_cons]
  cases (Event.asked question reply).reading? <;> rfl

/-- A file that is read is the last reading. -/
theorem History.readings_of_read {past now : History} {file : Candidate}
    {stored contents : Contents} (h : heard past (.read file stored) contents now) :
    readings now = readings past ++ [(file.path, Sweep.decoded contents)] ∧
      ∀ path, Shown path now → Shown path past := by
  refine ⟨readings_of_heard h, ?_⟩
  rintro path ⟨stored', contents', hmem⟩
  rcases mem_or_eq_of_heard h hmem with hpast | hasked
  · exact ⟨stored', contents', hpast⟩
  · cases hasked

/-- Showing a file is no reading. -/
theorem History.readings_of_preview {past now : History} {path : Path} {stored contents : Contents}
    (h : heard past (.preview path stored) contents now) :
    readings now = readings past ∧
      ∀ path', Shown path' now → path' = path ∨ Shown path' past := by
  refine ⟨(readings_of_heard h).trans (List.append_nil _), ?_⟩
  rintro path' ⟨stored', contents', hmem⟩
  rcases mem_or_eq_of_heard h hmem with hpast | hasked
  · exact .inr ⟨stored', contents', hpast⟩
  · cases hasked
    exact .inl rfl

theorem Asking.only_locking {α : Type} {p : Request → Prop} (hlock : ∀ step, p (.lock step))
    (l : Locking α) : (Asking.locking l).Only p := by
  induction l with
  | done a => exact Dialogue.only_pure a
  | ask step next ih => exact (Dialogue.only_inquire_iff.mpr (hlock step)).bind fun r => ih r

namespace Sweep

variable {α β : Type} {s : Settings} {files : List Candidate} {root : Path}
  {x y : SweepState × History}

/-! ### The invariant -/

/-- The sources that are kept are what the scans have read, which is no path twice; and no other
file has been shown than the one for the removal. -/
structure Kept (root : Path) (x : SweepState × History) : Prop where
  sources : x.1.sources = (readings x.2).reverse
  once : ((readings x.2).map Prod.fst).Nodup
  shown : ∀ path, Shown path x.2 → path = root.child uninstallFile

/-- What keeps the sources and looks into no file keeps the invariant. -/
theorem Kept.of_since (h : Kept root x) (hsources : y.1.sources = x.1.sources)
    (hsince : Since Request.Blind x.2 y.2) : Kept root y := by
  obtain ⟨hreadings, hshown⟩ := readings_of_since hsince
  refine ⟨?_, ?_, fun path hpath => h.shown path (hshown path hpath)⟩
  · rw [hsources, hreadings]
    exact h.sources
  · rw [hreadings]
    exact h.once

/-- A path that is looked up has been read. -/
theorem Kept.mem_readings (h : Kept root x) {path : Path} {text : Except OsError String}
    (hlookup : x.1.sources.lookup path = some text) : (path, text) ∈ readings x.2 := by
  obtain ⟨before, after, hsplit, -⟩ := List.lookup_eq_some_iff.mp hlookup
  rw [← List.mem_reverse, ← h.sources, hsplit]
  simp

/-- Work of a check that keeps the invariant. -/
def Keeping (root : Path) (d : StateT SweepState Asking α) : Prop :=
  ∀ ⦃x a y⦄, Kept root x → Dialogue.Runs heard (d.run x.1) x.2 (a, y.1) y.2 → Kept root y

/-- Work of a sweep that keeps the invariant, however it ends. -/
abbrev Keeps (root : Path) (w : Sweeping α) : Prop :=
  Work.Within heard (Kept root) (fun _ => True) w

theorem keeping_pure (a : α) : Keeping root (pure a : StateT SweepState Asking α) := by
  intro x b y hx h
  obtain ⟨heq, hpast⟩ := Dialogue.runs_pure_iff.mp h
  obtain ⟨-, hst⟩ := Prod.mk.inj heq
  obtain rfl : y = x := Prod.ext hst hpast
  exact hx

theorem Keeping.bind {d : StateT SweepState Asking α} {f : α → StateT SweepState Asking β}
    (hd : Keeping root d) (hf : ∀ a, Keeping root (f a)) : Keeping root (d >>= f) := by
  intro x b y hx h
  rw [StateT.run_bind] at h
  obtain ⟨⟨a, st⟩, now, hfirst, hrest⟩ := Dialogue.runs_bind_iff.mp h
  exact hf a (hd (y := (st, now)) hx hfirst) hrest

theorem keeping_lift {work : Asking α} (hwork : work.Only Request.Blind) :
    Keeping root (StateT.lift work) := by
  intro x a y hx h
  obtain ⟨hrun, hst⟩ := Work.runs_stateT_lift_iff.mp h
  exact hx.of_since (congrArg SweepState.sources hst) (since_of_runs_only hrun hwork)

/-! ### Checks -/

/-- **A source is read only if its path has not been read before.** -/
theorem keeping_source (file : Candidate) : Keeping root (source file) := by
  rintro ⟨st, past⟩ text ⟨st', now⟩ hx h
  simp only [source, StateT.run_bind, StateT.run_get, pure_bind] at h
  rcases hknown : st.sources.lookup file.path with - | known
  · -- The file is read now; its path is none of those read before, since it is not looked up.
    rw [hknown] at h
    obtain ⟨⟨contents, st₁⟩, t, hread, h⟩ := Dialogue.runs_bind_iff.mp h
    obtain ⟨hreply, rfl⟩ := Work.runs_stateT_lift_iff.mp hread
    obtain ⟨hreadings, hshown⟩ := readings_of_read (Asking.runs_request_iff.mp hreply)
    obtain ⟨heq, rfl⟩ := Dialogue.runs_pure_iff.mp h
    obtain ⟨-, rfl⟩ := Prod.mk.inj heq
    refine ⟨?_, ?_, fun path hpath => hx.shown path (hshown path hpath)⟩
    · show (file.path, decoded contents) :: st₁.sources = _
      rw [hreadings, List.reverse_append, ← hx.sources]
      rfl
    · -- Its path is new, or it would have been known.
      have hnew : file.path ∉ (readings past).map Prod.fst := by
        intro hmem
        obtain ⟨⟨path, text⟩, hentry, rfl⟩ := List.mem_map.mp hmem
        rw [← List.mem_reverse, ← hx.sources] at hentry
        have hne := List.lookup_eq_none_iff.mp hknown _ hentry
        simp at hne
      rw [hreadings, List.map_append, List.nodup_append]
      refine ⟨hx.once, by simp, ?_⟩
      rintro path hpath other hother rfl
      rw [List.mem_singleton.mp hother] at hpath
      exact hnew hpath
  · -- It is known, and nothing is read.
    rw [hknown] at h
    obtain ⟨heq, rfl⟩ := Dialogue.runs_pure_iff.mp h
    obtain ⟨-, rfl⟩ := Prod.mk.inj heq
    exact hx

theorem keeping_warn (w : Warning) : Keeping root (StateT.lift (Asking.warn w)) :=
  keeping_lift (Dialogue.only_inquire_iff.mpr trivial)

theorem keeping_scanFiles (check : Check) (default : List String) (rest : List Candidate)
    (scan : Scan) : Keeping root (scanSources check default rest scan) := by
  induction rest generalizing scan with
  | nil => exact keeping_pure scan
  | cons file rest ih =>
    rw [scanSources, Check.scanFiles]
    split
    · exact ih scan
    · apply (keeping_source file).bind
      intro text
      cases text with
      | ok t => exact ih _
      | error e => exact (keeping_warn _).bind fun _ => ih _

theorem keeping_uninstallNotes (root : Path) : Keeping root (uninstallNotes root) := by
  rintro ⟨st, past⟩ notes ⟨st', now⟩ hx h
  simp only [uninstallNotes, StateT.run_bind, StateT.run_get, pure_bind] at h
  split at h
  · obtain ⟨heq, rfl⟩ := Dialogue.runs_pure_iff.mp h
    obtain ⟨-, rfl⟩ := Prod.mk.inj heq
    exact hx
  · obtain ⟨heq, rfl⟩ := Dialogue.runs_pure_iff.mp h
    obtain ⟨-, rfl⟩ := Prod.mk.inj heq
    exact hx
  · -- The file is looked at once more.
    obtain ⟨⟨contents, st₁⟩, t, hread, hrest⟩ := Dialogue.runs_bind_iff.mp h
    obtain ⟨hreply, rfl⟩ := Work.runs_stateT_lift_iff.mp hread
    obtain ⟨hreadings, hshown⟩ := readings_of_preview (Asking.runs_request_iff.mp hreply)
    have hend : st' = st₁ ∧ now = t := by
      cases contents with
      | error e =>
        obtain ⟨heq, hnow⟩ := Dialogue.runs_pure_iff.mp hrest
        exact ⟨(Prod.mk.inj heq).2, hnow⟩
      | ok bytes =>
        obtain ⟨heq, hnow⟩ := Dialogue.runs_pure_iff.mp hrest
        exact ⟨(Prod.mk.inj heq).2, hnow⟩
    obtain ⟨rfl, rfl⟩ := hend
    refine ⟨?_, ?_, fun path hpath => ?_⟩
    · show st'.sources = _
      rw [hreadings]
      exact hx.sources
    · show ((readings now).map Prod.fst).Nodup
      rw [hreadings]
      exact hx.once
    · rcases hshown path hpath with rfl | hbefore
      · rfl
      · exact hx.shown path hbefore

theorem keeping_checkSection (check : Check) :
    Keeping s.target.root (checkSection s files check) := by
  have hbegin : (Asking.request (.begin check.name)).Only Request.Blind :=
    Dialogue.only_inquire_iff.mpr trivial
  refine (keeping_lift hbegin).bind fun refusal => ?_
  cases refusal with
  | some e => exact keeping_pure _
  | none =>
    refine Keeping.bind ?_ fun scan => ?_
    · exact (keeping_scanFiles check _ files {}).bind fun _ => keeping_pure _
    · split
      · exact (keeping_uninstallNotes _).bind fun _ => keeping_pure _
      · exact keeping_pure _

/-! ### The survey -/

theorem keeps_lift {d : StateT SweepState Asking α} (hd : Keeping root d) :
    Keeps root (ExceptT.lift d : Sweeping α) := by
  intro x o y hx h
  obtain ⟨a, hrun, -⟩ := Work.runs_lift_iff.mp h
  exact ⟨hd hx hrun, fun _ _ => trivial⟩

theorem keeps_asking {work : Asking α} (hwork : work.Only Request.Blind) :
    Keeps root (asking work) :=
  keeps_lift (keeping_lift hwork)

theorem keeps_warn (w : Warning) : Keeps root (asking (Asking.warn w)) :=
  keeps_lift (keeping_warn w)

theorem keeps_announce (message : String) : Keeps root (asking (Asking.announce message)) := by
  have hblind : (Asking.announce message).Only Request.Blind :=
    Dialogue.only_inquire_iff.mpr trivial
  exact keeps_asking hblind

theorem keeps_cancelled : Keeps root (asking Asking.cancelled) := by
  have hblind : Asking.cancelled.Only Request.Blind := Dialogue.only_inquire_iff.mpr trivial
  exact keeps_asking hblind

theorem keeps_of_stateless {w : Sweeping α} (hstate : Stateless w)
    (honly : Work.Only Request.Blind w) : Keeps root w := by
  intro x o y hx h
  refine ⟨hx.of_since ?_ (since_of_runs_only h (honly x.1)), fun _ _ => trivial⟩
  rw [(hstate x.1 x o y rfl h).1]

theorem keeps_stepSection (step : Step) : Keeps s.target.root (stepSection s files step) := by
  cases step with
  | check check => exact keeps_lift (keeping_checkSection check)
  | tool name title =>
    have hblind : (toolSection s files name title).Only Request.Blind := by
      refine (only_toolSection name title).mono fun q hq => ?_
      cases q with
      | read | preview => exact hq
      | _ => trivial
    refine (keeps_asking hblind).bind fun made => ?_
    cases made with
    | ok made => exact Work.within_pure _
    | error e => exact Work.within_throw trivial

theorem keeps_takeStep (step : Step) : Keeps s.target.root (takeStep s files step) := by
  refine keeps_cancelled.bind fun stop => ?_
  cases stop with
  | true => exact Work.within_pure _
  | false => exact (keeps_announce _).bind fun _ => keeps_stepSection step

theorem keeps_record (l : Ledger) (made : Section) : Keeps root (record l made) := by
  refine (keeps_asking (Asking.only_warnAll (fun _ => trivial) _)).bind fun _ => ?_
  rcases l.record made with e | l'
  · exact Work.within_throw trivial
  · exact Work.within_pure _

/-- The steps keep the invariant, one after the other. -/
theorem keeps_runSteps (steps : List Step) (l : Ledger) :
    Keeps s.target.root (runSteps s files steps l) := by
  induction steps generalizing l with
  | nil => exact Work.within_pure _
  | cons step rest ih =>
    refine (keeps_takeStep step).bind fun made => ?_
    exact (keeps_record l made).bind fun l' => ih l'

theorem keeps_survey (s : Settings) : Keeps s.target.root (survey s) := by
  refine (keeps_of_stateless stateless_precondition
    (only_precondition (fun _ _ => trivial) fun _ => trivial)).bind fun site => ?_
  refine (keeps_of_stateless stateless_collect
    (only_collect (fun _ => trivial) fun _ => trivial)).bind fun collected => ?_
  have hsteps : ∀ steps : List Step, Keeps s.target.root (do
      let ledger ← runSteps s collected.1 steps {}
      pure (Survey.mk site ledger collected.2 (← asking Asking.cancelled))) := by
    intro steps
    refine (keeps_runSteps steps {}).bind fun ledger => ?_
    exact keeps_cancelled.bind fun _ => Work.within_pure _
  dsimp only
  split
  · exact (Work.within_pure _).bind hsteps
  · exact (Work.within_throw trivial).bind hsteps

/-! ### The reports and the trial -/

theorem keeps_changing (work : StateM FileSystem α) : Keeps root (changing work) := by
  intro x o y hx h
  obtain ⟨-, rfl⟩ := runs_changing_iff.mp h
  exact ⟨hx.of_since rfl (Since.refl _ _), fun _ _ => trivial⟩

theorem keeps_filing (work : FileWork α) : Keeps root (filing work) := by
  refine (keeps_changing _).bind fun o => ?_
  cases o with
  | ok a => exact Work.within_pure a
  | error e => exact Work.within_throw trivial

/-- Nothing is read while the plugin is tried out. -/
theorem only_lockedProbe_blind (s : Settings) (site : Site) (key : String) :
    (lockedProbe s site key).Only Request.Blind := by
  have hlock : ∀ step, Request.Blind (.lock step) := fun _ => trivial
  refine (Asking.only_locking hlock _).bind fun taken => ?_
  match taken with
  | .error (.busy f) => exact Dialogue.only_pure _
  | .error (.refused e) => exact Dialogue.only_pure _
  | .ok held =>
    refine ((Probe.only_run _).mono fun _ => Request.Trying.blind).bind fun outcome => ?_
    refine (Asking.only_locking hlock _).bind fun _ => ?_
    match outcome with
    | .ok result => exact Dialogue.only_pure _
    | .error (.failure f) => exact Dialogue.only_pure _
    | .error (.notRestored ..) => exact Dialogue.only_pure _
    | .error .undecodable => exact Dialogue.only_pure _

theorem keeps_addProbeSection (summary : Summary) (made : Section) :
    Keeps root (addProbeSection s summary made) :=
  (keeps_filing _).bind fun _ => Work.within_pure _

theorem keeps_reportProbe (summary : Summary)
    (o : Except SweepError (Except StepFailure ProbeResult)) :
    Keeps root (reportProbe s summary o) := by
  unfold reportProbe
  split
  · exact keeps_addProbeSection _ _
  · exact (keeps_warn _).bind fun _ => keeps_addProbeSection _ _
  · refine (keeps_addProbeSection _ _).bind fun _ => ?_
    exact (keeps_filing _).bind fun _ => Work.within_throw trivial
  · exact Work.within_throw trivial

theorem keeps_get : Keeps root (get : Sweeping SweepState) := by
  intro x o y hx h
  obtain ⟨-, rfl⟩ := Work.runs_get_iff.mp h
  exact ⟨hx, fun _ _ => trivial⟩

theorem keeps_tryOut (site : Option Site) (summary : Summary) :
    Keeps root (tryOut s site summary) := by
  unfold tryOut
  split
  · rename_i site _
    refine keeps_cancelled.bind fun stop => ?_
    cases stop with
    | true => exact Work.within_pure _
    | false =>
      refine (keeps_announce _).bind fun _ => keeps_get.bind fun st => ?_
      have hkey : ∀ key, Keeps root
          (asking (lockedProbe s site key) >>= fun o => reportProbe s summary o) := fun key =>
        (keeps_asking (only_lockedProbe_blind s site key)).bind fun o => keeps_reportProbe _ _
      dsimp only
      split
      · exact (Work.within_pure _).bind hkey
      · exact (Work.within_throw trivial).bind hkey
  · exact Work.within_pure _

theorem keeps_conclude (v : Survey) : Keeps root (conclude s v) := by
  refine Work.Within.bind ?_ fun _ => Work.Within.bind ?_ fun summary => ?_
  · unfold warnSkipped
    split
    · exact keeps_warn _
    · exact Work.within_pure _
  · refine (keeps_filing _).bind fun _ => (keeps_changing _).bind fun written => ?_
    dsimp only
    split
    · exact Work.within_pure _
    · exact Work.within_throw trivial
  · exact (keeps_tryOut _ _).bind fun _ => (keeps_filing _).bind fun _ => Work.within_pure _

theorem keeps_run (s : Settings) : Keeps s.target.root (run s) :=
  (keeps_survey s).bind keeps_conclude

/-- **Wherever a sweep ends, what it keeps is what its scans have read**, which is no path
twice. -/
theorem kept_of_run {tree : FileSystem} {o : Except SweepError Summary}
    (h : Work.Runs heard (run s) ({ tree }, []) o y) : Kept s.target.root y := by
  have hstart : Kept s.target.root ({ tree }, []) :=
    ⟨rfl, List.nodup_nil, fun path hshown => by
      obtain ⟨_, _, hmem⟩ := hshown
      cases hmem⟩
  exact (keeps_run s _ _ _ hstart h).1

/-! ### One snapshot -/

/-- What the check brings when every file is as in the snapshot. -/
def scanOf (check : Check) (default : List String) (snapshot : Path → Except OsError String)
    (files : List Candidate) : Scan :=
  Id.run (check.scan files default (fun file => pure (snapshot file.path)) fun _ => pure ())

theorem scanOf_eq_outcome (check : Check) (default : List String)
    (snapshot : Path → Except OsError String) (files : List Candidate) :
    scanOf check default snapshot files = check.outcome default (textsOf snapshot) files := by
  let silent : Candidate → Id Unit := fun _ => pure ()
  have hread : ∀ file : Candidate, (pure (snapshot file.path) : Id (Except OsError String)) =
      (do silent file; pure (textsOf snapshot file)) := fun _ => rfl
  rw [scanOf, Check.scan_eq_pure_outcome hread]
  rfl

/-- The section is that of the check, and the check was completed. -/
def Completes (check : Check) (made : Section) : Prop :=
  Check.find? made.name = some check ∧ made.error = none

/-- All rules of the check are for files with the extensions of the profile. -/
def UsesProfile (s : Settings) (check : Check) : Prop :=
  ∀ r ∈ check.rules, r.extensions.getD s.profile.sourceExtensions = s.profile.sourceExtensions

/-- The run has one snapshot: that is what its scans have read, and what its sections are
about. -/
structure Snapshot (s : Settings) (files : List Candidate) (recorded : List Section)
    (now : History) (snapshot : Path → Except OsError String) : Prop where
  /-- Whenever a scan read a file, it got what the snapshot has. -/
  read : ∀ file stored contents, .asked (.read file stored) contents ∈ now →
    decoded contents = snapshot file.path
  /-- The files that a completed check is about were read. -/
  covered : ∀ made ∈ recorded, ∀ check, Completes check made →
    ∀ file ∈ files, check.concerns s.profile.sourceExtensions file = true →
      ∃ stored contents, .asked (.read file stored) contents ∈ now
  /-- A completed check has found what it finds in the snapshot. -/
  scanned : ∀ made ∈ recorded, ∀ check, Completes check made →
    let scan := scanOf check s.profile.sourceExtensions snapshot files
    made.findings = scan.findings ∧ made.skipped = scan.skipped
  /-- Completed checks for the same files have left out the same. -/
  alike : ∀ made₁ ∈ recorded, ∀ made₂ ∈ recorded, ∀ check₁ check₂, Completes check₁ made₁ →
    Completes check₂ made₂ → UsesProfile s check₁ → UsesProfile s check₂ →
      made₁.skipped = made₂.skipped

theorem Check.rules_ne_nil {name : String} {check : Check} (h : Check.find? name = some check) :
    check.rules ≠ [] := by
  have hall : ∀ check ∈ Check.table, check.rules.isEmpty = false := by decide +kernel
  rw [← List.isEmpty_eq_false_iff]
  exact hall check (List.mem_of_find?_eq_some h)

/-- A check all of whose rules are for the files of the profile is about these files. -/
theorem concerns_of_usesProfile {check : Check} (hrules : check.rules ≠ [])
    (h : UsesProfile s check) (file : Candidate) :
    check.concerns s.profile.sourceExtensions file =
      s.profile.sourceExtensions.contains file.extension := by
  have happlies : ∀ r ∈ check.rules, r.appliesTo file.extension s.profile.sourceExtensions =
      s.profile.sourceExtensions.contains file.extension := by
    intro r hr
    rw [Rule.appliesTo, h r hr]
  rw [Check.concerns, Bool.eq_iff_iff, List.any_eq_true]
  constructor
  · rintro ⟨r, hr, hyes⟩
    rw [← happlies r hr]
    exact hyes
  · intro hyes
    obtain ⟨r, hr⟩ := List.exists_mem_of_ne_nil _ hrules
    exact ⟨r, hr, (happlies r hr).trans hyes⟩

/-- No tool has the name of a check. -/
theorem find?_of_title? {name title : String} (h : Tool.title? name = some title) :
    Check.find? name = none := by
  rcases eq_of_title? h with rfl | rfl | rfl
  · rfl
  · rfl
  · rfl

/-- The section of a completed check was brought by the check. -/
theorem checked_of_completes {st : SweepState} {steps : List Step} {recorded : List Section}
    (hbrings : List.Forall₂ (Brings s files st) steps recorded)
    (hknown : ∀ step ∈ steps, step.Known) {made : Section} (hmade : made ∈ recorded)
    {check : Check} (h : Completes check made) : Checked s files st check made := by
  obtain ⟨step, hstep, hmadeBy⟩ := exists_step hbrings hmade
  have hfound : Check.find? step.name = some check := hmadeBy.name ▸ h.1
  cases step with
  | check other =>
    obtain rfl : other = check := Option.some.inj ((hknown _ hstep).symm.trans hfound)
    exact hmadeBy
  | tool name title =>
    rw [show (Step.tool name title).name = name from rfl,
      find?_of_title? (hknown _ hstep)] at hfound
    cases hfound

/-- What the scans have read by the end of a run. -/
def snapshotOf (now : History) (path : Path) : Except OsError String :=
  ((readings now).lookup path).getD (.ok "")

/-- What a scan has read is what the snapshot has, since no path was read twice. -/
theorem snapshotOf_of_mem {now : History} (honce : ((readings now).map Prod.fst).Nodup)
    {path : Path} {text : Except OsError String} (hmem : (path, text) ∈ readings now) :
    snapshotOf now path = text := by
  rw [snapshotOf]
  rcases hlookup : (readings now).lookup path with - | other
  · have hne := List.lookup_eq_none_iff.mp hlookup _ hmem
    simp at hne
  · obtain ⟨before, after, hsplit, -⟩ := List.lookup_eq_some_iff.mp hlookup
    have hother : (path, other) ∈ readings now := by
      rw [hsplit]
      simp
    have hsame := List.inj_on_of_nodup_map honce hother hmem rfl
    exact (Prod.mk.inj hsame).2

/-- The sections that a survey has recorded are about the snapshot of the run. -/
theorem snapshot_of_survey {tree : FileSystem} {v : Survey} {z : SweepState × History}
    (hsurvey : Work.Runs heard (survey s) ({ tree }, []) (.ok v) z) {now : History}
    (hnow : z.2 <+: now) (honce : ((readings now).map Prod.fst).Nodup) :
    ∃ walk, candidates s tree = .ok walk ∧
      v.ledger.sections.map (·.name) = s.profile.checks ++ s.profile.tools ∧
      Snapshot s walk.files v.ledger.sections now (snapshotOf now) := by
  have hstart : Kept s.target.root ({ tree }, []) :=
    ⟨rfl, List.nodup_nil, fun path hshown => by
      obtain ⟨_, _, hmem⟩ := hshown
      cases hmem⟩
  have hkept : Kept s.target.root z := (keeps_survey s _ _ _ hstart hsurvey).1
  obtain ⟨walk, steps, hsurveyed⟩ := runs_survey hsurvey
  obtain ⟨hknown, hnames⟩ := plan_eq_ok hsurveyed.planned
  -- What is kept after the survey is in the snapshot of the whole run.
  have hagrees : Agrees (snapshotOf now) z.1 := by
    intro path text hlookup
    apply snapshotOf_of_mem honce
    exact (hnow.filterMap _).subset (hkept.mem_readings hlookup)
  have hchecked : ∀ made ∈ v.ledger.sections, ∀ check, Completes check made →
      Checked s walk.files z.1 check made :=
    fun made hmade check h => checked_of_completes hsurveyed.brings hknown hmade h
  have hscanned : ∀ made ∈ v.ledger.sections, ∀ check, Completes check made →
      let scan := scanOf check s.profile.sourceExtensions (snapshotOf now) walk.files
      made.findings = scan.findings ∧ made.skipped = scan.skipped := by
    intro made hmade check h
    dsimp only
    rw [scanOf_eq_outcome]
    have hmadeBy := hchecked made hmade check h
    exact ⟨hmadeBy.findings h.2 _ hagrees, hmadeBy.skipped h.2 _ hagrees⟩
  refine ⟨walk, hsurveyed.walked, (names_of_brings hsurveyed.brings).trans hnames,
    ⟨?_, ?_, hscanned, ?_⟩⟩
  · intro file stored contents hmem
    refine (snapshotOf_of_mem honce ?_).symm
    exact List.mem_filterMap.mpr ⟨_, hmem, rfl⟩
  · intro made hmade check h file hfile hconcerns
    have hrules : check.rulesFor file.extension s.profile.sourceExtensions ≠ [] := by
      rw [← List.isEmpty_eq_false_iff, Check.isEmpty_rulesFor, hconcerns]
      rfl
    obtain ⟨text, hlookup⟩ := (hchecked made hmade check h).known h.2 file hfile hrules
    have hnone : Remembered walk.files ({ tree }, []) := fun _ _ hnil => by cases hnil
    obtain ⟨other, hother, hpath, stored, contents, hmem, -⟩ :=
      hsurveyed.learns.remembered hnone _ _ hlookup
    obtain rfl := Walk.eq_of_path_eq hsurveyed.walked hother hfile hpath
    exact ⟨stored, contents, hnow.subset hmem⟩
  · intro made₁ hmade₁ made₂ hmade₂ check₁ check₂ h₁ h₂ huses₁ huses₂
    rw [(hscanned made₁ hmade₁ check₁ h₁).2, (hscanned made₂ hmade₂ check₂ h₂).2,
      scanOf_eq_outcome, scanOf_eq_outcome, Check.skipped_outcome, Check.skipped_outcome,
      funext (concerns_of_usesProfile (Check.rules_ne_nil h₁.1) huses₁),
      funext (concerns_of_usesProfile (Check.rules_ne_nil h₂.1) huses₂)]

/-- **The scans of a run share one snapshot of the files**, whatever becomes of the files while it
goes on: no path is read twice for a scan, each scan has seen what the one reading of a file
brought, and a completed check has found what it finds in the snapshot.  The only file that a
check looks into beside its scan is the one for the removal, to show it. -/
theorem scans_share_snapshot {tree : FileSystem} {o : Except SweepError Summary}
    (h : Work.Runs heard (run s) ({ tree }, []) o y) :
    ((readings y.2).map Prod.fst).Nodup ∧
      (∀ path, Shown path y.2 → path = s.target.root.child uninstallFile) ∧
      ((∃ e, o = .error e ∧ Work.Runs heard (survey s) ({ tree }, []) (.error e) y) ∨
        ∃ walk recorded snapshot, candidates s tree = .ok walk ∧
          Recorded heard s ({ tree }, []) recorded o y ∧
          recorded.map (·.name) = s.profile.checks ++ s.profile.tools ∧
          Snapshot s walk.files recorded y.2 snapshot) := by
  have hkept := kept_of_run h
  refine ⟨hkept.once, hkept.shown, ?_⟩
  rcases Work.runs_bind_iff.mp h with ⟨v, z, hsurvey, hconclude⟩ | ⟨e, hsurvey, rfl⟩
  · right
    obtain ⟨walk, hwalk, hnames, hsnapshot⟩ :=
      snapshot_of_survey hsurvey (prefix_of_runs hconclude) hkept.once
    exact ⟨walk, _, _, hwalk, recorded_of_runs hsurvey hconclude, hnames, hsnapshot⟩
  · left
    exact ⟨e, rfl, hsurvey⟩

/-! ### A file that is refused to the scans -/

/-- A plugin with nothing but the file for its removal. -/
def removalTree : FileSystem where
  entries := [(["p"], .directory), (["p", "uninstall.php"], .file (Text.encode "<?php\n"))]
  cwd := []
  homes := []

/-- That file, as the scans see it. -/
def removalFile : Candidate :=
  ⟨⟨"/", ["p", "uninstall.php"]⟩, "uninstall.php", ".php"⟩

/-- The settings under which two checks look at it. -/
def removalSettings : Settings where
  target := ⟨⟨"/", ["p"]⟩, "p"⟩
  profile := { name := "removal", checks := ["missing-abspath-guards", Check.uninstallName] }
  reportDirectory := ⟨"/", ["r"]⟩
  exclusions := []
  seconds := 120
  time := ""
  lockDirectory := ⟨"/", []⟩

/-- Surroundings that oblige, but for files that are to be scanned. -/
def refusingReads (question : Request) (past : History) : question.Reply × History :=
  match question with
  | .read file stored =>
    (.error (.stated "Permission denied"),
      past ++ [.asked (.read file stored) (.error (.stated "Permission denied"))])
  | question => obliging (fun _ => false) question past

theorem heard_refusingReads (question : Request) (past : History) :
    heard past question (refusingReads question past).1 (refusingReads question past).2 := by
  unfold refusingReads
  split
  · exact ⟨0, trivial, by simp⟩
  · exact heard_obliging _ _ _

/-- The sweep of that plugin where the scans are refused the file. -/
def removalRun : (Except SweepError Summary × SweepState) × History :=
  ((run removalSettings).run.run { tree := removalTree }).answer refusingReads []

/-- The section says that the file could not be read, and shows its text. -/
def contradictsItself (made : Section) : Bool :=
  made.skipped.contains "uninstall.php: Permission denied" && made.notes.contains "<?php"

/-- The event is that the file is shown with a text. -/
def showsRemoval : Event → Bool
  | .asked (.preview path _) (.ok _) => path == removalFile.path
  | _ => false

theorem removalRun_ends : readings removalRun.2 =
      [(removalFile.path, .error (.stated "Permission denied"))] ∧
    removalRun.2.any showsRemoval = true ∧
    (removalRun.1.1.toOption.map fun summary => summary.sections.any contradictsItself) =
      some true := by
  decide +kernel

/-- It comes to a summary with a section that contradicts itself, after a single reading. -/
theorem exists_removalRun : ∃ summary st now,
    Work.Runs heard (run removalSettings) ({ tree := removalTree }, []) (.ok summary) (st, now) ∧
    readings now = [(removalFile.path, .error (.stated "Permission denied"))] ∧
    now.any showsRemoval = true ∧ summary.sections.any contradictsItself = true := by
  have hrun : Work.Runs heard (run removalSettings) ({ tree := removalTree }, []) removalRun.1.1
      (removalRun.1.2, removalRun.2) :=
    Work.runs_answer heard_refusingReads (run removalSettings) { tree := removalTree } []
  obtain ⟨hread, hshown, hsection⟩ := removalRun_ends
  rcases hsummary : removalRun.1.1 with e | summary <;> rw [hsummary] at hrun hsection
  · cases hsection
  · exact ⟨summary, _, _, hrun, hread, hshown, Option.some.inj hsection⟩

/-- Both checks are completed, after a single reading, and have one snapshot. -/
theorem scans_share_snapshot_refused :
    ∃ o y, Work.Runs heard (run removalSettings) ({ tree := removalTree }, []) o y ∧
      readings y.2 = [(removalFile.path, .error (.stated "Permission denied"))] ∧
      ((readings y.2).map Prod.fst).Nodup ∧
      ∃ (walk : Walk) (recorded : List Section) (snapshot : Path → Except OsError String),
        Snapshot removalSettings walk.files recorded y.2 snapshot ∧
          recorded.map (·.name) = ["missing-abspath-guards", Check.uninstallName] := by
  obtain ⟨summary, st, now, hrun, hread, -, -⟩ := exists_removalRun
  obtain ⟨honce, -, hfailed | ⟨walk, recorded, snapshot, -, -, hnames, hsnapshot⟩⟩ :=
    scans_share_snapshot hrun
  · obtain ⟨e, herror, -⟩ := hfailed
    cases herror
  · exact ⟨_, (st, now), hrun, hread, honce, walk, recorded, snapshot, hsnapshot, hnames⟩

/-- **A check can show a file that was refused to its scan.**  Two readings of one candidate, both
by checks, bring a refusal and a text, and both stand in one section. -/
theorem shown_though_refused :
    ∃ summary y, Work.Runs heard (run removalSettings) ({ tree := removalTree }, [])
        (.ok summary) y ∧
      (∃ walk, candidates removalSettings removalTree = .ok walk ∧ removalFile ∈ walk.files) ∧
      (removalFile.path, .error (.stated "Permission denied")) ∈ readings y.2 ∧
      (∃ stored bytes, .asked (.preview removalFile.path stored) (.ok bytes) ∈ y.2) ∧
      ∃ made ∈ summary.sections, "uninstall.php: Permission denied" ∈ made.skipped ∧
        "<?php" ∈ made.notes := by
  obtain ⟨summary, st, now, hrun, hread, hshown, hsection⟩ := exists_removalRun
  refine ⟨summary, (st, now), hrun, ?_, ?_, ?_, ?_⟩
  · have hlisted : ((candidates removalSettings removalTree).toOption.map Walk.files) =
        some [removalFile] := by
      decide +kernel
    rcases hwalk : candidates removalSettings removalTree with e | walk <;> rw [hwalk] at hlisted
    · cases hlisted
    · have hfiles : walk.files = [removalFile] := Option.some.inj hlisted
      exact ⟨walk, rfl, hfiles ▸ List.mem_singleton.mpr rfl⟩
  · exact hread ▸ List.mem_singleton.mpr rfl
  · obtain ⟨event, hmem, hshows⟩ := List.any_eq_true.mp hshown
    cases event with
    | told => cases hshows
    | asked question reply =>
      cases question with
      | preview path stored =>
        cases reply with
        | error e => cases hshows
        | ok bytes =>
          obtain rfl : path = removalFile.path := beq_iff_eq.mp hshows
          exact ⟨stored, bytes, hmem⟩
      | _ => cases hshows
  · obtain ⟨made, hmade, hboth⟩ := List.any_eq_true.mp hsection
    obtain ⟨hskipped, hnotes⟩ := Bool.and_eq_true_iff.mp hboth
    exact ⟨made, hmade, List.contains_iff_mem.mp hskipped, List.contains_iff_mem.mp hnotes⟩

end Sweep

end PluginSweep
