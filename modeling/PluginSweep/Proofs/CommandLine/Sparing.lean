/-
PluginSweep/Proofs/CommandLine/Sparing.lean

What a command line does to the files that are there.  Only a sweep that has been
prepared changes the tree at all (`leaves_prepare`, `leaves_report`), and it does so
as a sweep by itself does.  So whatever the words are, whatever the tools and reads
come to and whenever the run is told to end, every file is left but those that are
right in the directory for the reports and have the name of one
(`run_leaves_unreserved`).  On the disk one more file may be lost, that of the lock.

That directory may be the plugin itself, since it is chosen by the name of the plugin:
then a file of the plugin with such a name is gone (`reserved_file_is_lost`).
-/
import PluginSweep.Proofs.CommandLine.Interruption
import PluginSweep.Proofs.CommandLine.ReportBase
import PluginSweep.Proofs.Lock.Disk
import PluginSweep.Proofs.Sweep.Sparing

namespace PluginSweep.CommandLine

open History
open Dialogue (Conduct)

namespace Session

variable {α β σ : Type} {c : Conduct Request.Reply σ} {env : Environment} {o : SweepOptions}
  {s : Settings} {loc : Location} {bytes : List UInt8} {fs fs' : FileSystem}

/-! ### Work that changes no file -/

/-- The work leaves the files as they are, however it ends. -/
def Leaves (c : Conduct Request.Reply σ) (w : Session α) : Prop :=
  ∀ x o y, Work.Runs c w x o y → y.1 = x.1

theorem leaves_of_shows {w : Session α} (h : Shows c w) : Leaves c w :=
  fun x o y hrun => (h x.1 x o y rfl hrun).1

theorem leaves_pure (a : α) : Leaves c (pure a : Session α) :=
  fun _ _ _ h => congrArg Prod.fst (Work.runs_pure_iff.mp h).2

theorem leaves_throw (e : Ending) : Leaves c (throw e : Session α) :=
  fun _ _ _ h => congrArg Prod.fst (Work.runs_throw_iff.mp h).2

theorem leaves_get : Leaves c (get : Session FileSystem) :=
  fun _ _ _ h => congrArg Prod.fst (Work.runs_get_iff.mp h).2

theorem Leaves.bind {w : Session α} {f : α → Session β} (hw : Leaves c w)
    (hf : ∀ a, Leaves c (f a)) : Leaves c (w >>= f) := by
  intro x o y h
  rcases Work.runs_bind_iff.mp h with ⟨a, z, hrun, hrest⟩ | ⟨e, hrun, -⟩
  · exact (hf a z o y hrest).trans (hw x _ z hrun)
  · exact hw x _ y hrun

section

variable [Console]

theorem leaves_stop (text : String) : Leaves c (stop text : Session α) :=
  fun _ _ _ h => (runs_stop h).1

/-- Preparing a sweep is looking at the tree. -/
theorem leaves_prepare (env : Environment) (o : SweepOptions) : Leaves c (prepare env o) := by
  have htarget : Leaves c (target o.plugin) := by
    apply leaves_get.bind
    intro tree
    split
    · exact leaves_pure _
    · exact leaves_throw _
    · exact leaves_stop _
  apply htarget.bind
  intro target
  apply leaves_get.bind
  intro tree
  split
  · exact leaves_pure _
  · exact leaves_throw _

/-- Reporting is showing. -/
theorem leaves_report (s : Settings) (outcome : Except SweepError Summary) :
    Leaves c (report s outcome) := by
  intro x o y h
  cases outcome with
  | ok summary => exact (runs_report_ok h).1
  | error e =>
    unfold report at h
    split at h
    · exact leaves_stop _ x o y h
    · exact leaves_stop _ x o y h
    · exact leaves_throw _ x o y h
    · cases ‹Except.error e = .ok _›

theorem leaves_showRules (p : Profile) : Leaves c (showRules p) :=
  (leaves_of_shows (shows_showTable _)).bind fun _ => leaves_of_shows (shows_say _)

/-! ### Sweeps in a session -/

omit [Console] in
/-- What surroundings reply that print the announcements, they reply as well where they only hear
them, if the run has been told to end in both histories or in neither. -/
theorem exists_heard_of_shown {past past' now : History} {question : Request}
    {reply : question.Reply} (h : shown past question reply now)
    (htold : .told ∈ past ↔ .told ∈ past') :
    ∃ now', heard past' question reply now' ∧ (.told ∈ now ↔ .told ∈ now') := by
  -- One question was asked, though not always this one, after any number of orders.
  obtain ⟨n, hhonest, asked, hnow⟩ : ∃ n,
      Honest (past ++ List.replicate n .told) question reply ∧
      ∃ asked : (q : Request) × q.Reply,
        now = past ++ List.replicate n .told ++ [.asked asked.1 asked.2] := by
    cases question with
    | announce message =>
      obtain ⟨text, n, -, hnow⟩ := h
      exact ⟨n, trivial, ⟨.print text, ()⟩, hnow⟩
    | _ =>
      obtain ⟨n, hhonest, hnow⟩ := h
      exact ⟨n, hhonest, ⟨_, reply⟩, hnow⟩
  have hsame : .told ∈ past ++ List.replicate n .told ↔
      .told ∈ past' ++ List.replicate n .told := by
    rw [List.mem_append, List.mem_append, htold]
  refine ⟨_, ⟨n, ?_, rfl⟩, ?_⟩
  · cases question with
    | cancelled => exact Iff.trans hhonest hsame
    | _ => trivial
  · subst hnow
    rw [List.mem_append, List.mem_append (s := past' ++ _), hsame]
    simp

omit [Console] in
/-- A run with announcements that are printed is one with announcements that are heard. -/
theorem exists_runs_heard_of_shown {w : Work SweepError SweepState Request Request.Reply α}
    {x y : SweepState × History} {outcome : Except SweepError α}
    (h : Work.Runs shown w x outcome y) :
    ∃ now, Work.Runs heard w x outcome (y.1, now) := by
  obtain ⟨now, hrun, -⟩ := h.simulated (fun past past' : History => .told ∈ past ↔ .told ∈ past')
    exists_heard_of_shown Iff.rfl
  exact ⟨now, hrun⟩

/-- A sweep that cannot be announced leaves the files of the session as they are. -/
theorem runs_sweep_error {e : Ending} {x y : FileSystem × σ}
    (h : Work.Runs c (sweep s) x (.error e) y) : y.1 = x.1 := by
  rcases Work.runs_bind_iff.mp h with ⟨tree, z, hget, hask⟩ | ⟨e, hget, -⟩
  · obtain ⟨-, rfl⟩ := Work.runs_get_iff.mp hget
    rcases Work.runs_bind_iff.mp hask with ⟨result, z', hasked, hrest⟩ | ⟨e, hasked, -⟩
    · have hsame := leaves_of_shows (shows_asking _) _ _ _ hasked
      cases result with
      | error e => rw [(Work.runs_throw_iff.mp hrest).2, hsame]
      | ok made =>
        -- A sweep that has been announced gives its outcome to the session.
        rcases Work.runs_bind_iff.mp hrest with ⟨_, z'', -, hend⟩ | ⟨e, hset, -⟩
        · cases (Work.runs_pure_iff.mp hend).1
        · cases (Work.runs_set_iff.mp hset).1
    · exact leaves_of_shows (shows_asking _) _ _ _ hasked
  · cases (Work.runs_get_iff.mp hget).1

/-- A sweep in a session leaves every file that is not reserved for its reports. -/
theorem runs_sweep_spares (hprofile : s.profile ∈ Profile.table) {x y : FileSystem × History}
    {outcome : Except Ending (Except SweepError Summary)}
    (hfile : x.1.node? loc = some (.file bytes))
    (hfree : ¬ Report.Reserved s.reportDirectory x.1 loc)
    (h : Work.Runs heard (sweep s) x outcome y) : y.1.node? loc = some (.file bytes) := by
  cases outcome with
  | error e => rwa [runs_sweep_error h]
  | ok swept =>
    obtain ⟨st, hrun, htree⟩ := runs_sweep_ok h
    obtain ⟨now, hheard⟩ := exists_runs_heard_of_shown hrun
    rw [htree]
    exact Sweep.runs_run_spares hprofile hfile hfree hheard

/-! ### Whole sessions -/

/-- No sweep for which the words ask has the location reserved for its reports, in the tree as it
is found. -/
def Unreserved (env : Environment) (words : List String) (fs : FileSystem) (loc : Location) :
    Prop :=
  ∀ o target s, Console.parse words = .ok (.sweep o) → Target.resolve fs o.plugin = .ok target →
    settings env fs o target = .ok s → ¬ Report.Reserved s.reportDirectory fs loc

theorem runs_attempt_spares (hprofile : o.profile ∈ Profile.table) {x y : FileSystem × History}
    {outcome : Except Ending (Settings × Except SweepError Summary)}
    (hfile : x.1.node? loc = some (.file bytes))
    (hfree : ∀ target s, Target.resolve x.1 o.plugin = .ok target →
      settings env x.1 o target = .ok s → ¬ Report.Reserved s.reportDirectory x.1 loc)
    (h : Work.Runs heard (attempt env o) x outcome y) :
    y.1.node? loc = some (.file bytes) := by
  rcases Work.runs_bind_iff.mp h with ⟨s, z, hprepare, hrest⟩ | ⟨e, hprepare, -⟩
  · obtain ⟨rfl, hresolve, hsettings⟩ := runs_prepare_resolved hprepare
    obtain ⟨-, -, -, hsame, -⟩ := settings_eq_ok hsettings
    rcases Work.runs_bind_iff.mp hrest with ⟨_, z', hsay, hswept⟩ | ⟨e, hsay, -⟩
    · have hsaid := leaves_of_shows (shows_say _) _ _ _ hsay
      -- The sweep is run in the tree in which it was prepared.
      have hspares : ∀ outcome y', Work.Runs heard (sweep s) z' outcome y' →
          y'.1.node? loc = some (.file bytes) := by
        intro outcome y' hrun
        apply runs_sweep_spares (by rw [hsame]; exact hprofile) _ _ hrun
        · rwa [hsaid]
        · rw [hsaid]
          exact hfree _ s hresolve hsettings
      rcases Work.runs_bind_iff.mp hswept with ⟨swept, z'', hsweep, hend⟩ | ⟨e, hsweep, -⟩
      · rw [(Work.runs_pure_iff.mp hend).2]
        exact hspares _ _ hsweep
      · exact hspares _ _ hsweep
    · rwa [leaves_of_shows (shows_say _) _ _ _ hsay]
  · rwa [leaves_prepare env o _ _ _ hprepare]

/-- A session leaves every file that is not reserved for the reports of its sweep. -/
theorem runs_perform_spares {words : List String} {invocation : Invocation}
    (hwords : Console.parse words = .ok invocation) {x y : FileSystem × History}
    {outcome : Except Ending Unit} (hfile : x.1.node? loc = some (.file bytes))
    (hfree : Unreserved env words x.1 loc)
    (h : Work.Runs heard (perform env invocation) x outcome y) :
    y.1.node? loc = some (.file bytes) := by
  cases invocation with
  | help => rwa [leaves_pure _ _ _ _ h]
  | version =>
    have hsay : Leaves heard (say ("[bold cyan]wpqa[/] v" ++ version)) :=
      leaves_of_shows (shows_say _)
    rwa [hsay _ _ _ h]
  | rules p => rwa [leaves_showRules p _ _ _ h]
  | sweep o =>
    have hattempt : ∀ outcome y', Work.Runs heard (attempt env o) x outcome y' →
        y'.1.node? loc = some (.file bytes) := fun outcome y' =>
      runs_attempt_spares (Console.builtIn hwords) hfile
        fun target s => hfree o target s hwords
    rcases Work.runs_bind_iff.mp h with ⟨⟨s, swept⟩, z, hrun, hreport⟩ | ⟨e, hrun, -⟩
    · rw [leaves_report s swept _ _ _ hreport]
      exact hattempt _ _ hrun
    · exact hattempt _ _ hrun

/-- What a command line leaves in the tree of the session. -/
theorem runs_run_spares {words : List String} {past now : History} {ending : Ending}
    (hfile : fs.node? loc = some (.file bytes)) (hfree : Unreserved env words fs loc)
    (h : Dialogue.Runs heard ((run env words).run fs) past (ending, fs') now) :
    fs'.node? loc = some (.file bytes) := by
  unfold run at h
  split at h
  · obtain ⟨heq, -⟩ := Dialogue.runs_pure_iff.mp h
    obtain ⟨-, rfl⟩ := Prod.mk.inj heq
    exact hfile
  · rename_i invocation hwords
    obtain ⟨⟨outcome, fs₁⟩, now₁, hperform, hend⟩ := Dialogue.runs_bind_iff.mp h
    obtain ⟨heq, rfl⟩ := Dialogue.runs_pure_iff.mp hend
    obtain ⟨-, rfl⟩ := Prod.mk.inj heq
    have hrun : Work.Runs heard (perform env invocation) (fs, past) outcome (fs', now) := hperform
    apply runs_perform_spares hwords _ _ hrun
    · exact hfile
    · exact hfree

/-- **A command line leaves every file that is not reserved for reports**, with the bytes that it
has, whatever the words are, whatever the surroundings reply and however it ends.  Reserved are,
where a sweep is asked for, the files right in the directory for its reports that have the name of
a report.  On the disk it leaves them as well, but for a file to which the path of a lock file leads
that was opened. -/
theorem run_leaves_unreserved {words : List String} {past asked : History} {ending : Ending}
    (hfile : fs.node? loc = some (.file bytes)) (hfree : Unreserved env words fs loc)
    (h : Dialogue.Runs heard ((run env words).run fs) past (ending, fs') (past ++ asked)) :
    fs'.node? loc = some (.file bytes) ∧ ∀ process disk, Disk process fs' asked disk →
      ¬ asked.LockOpenedAt fs' loc → disk.node? loc = some (.file bytes) := by
  have hleft := runs_run_spares hfile hfree h
  exact ⟨hleft, fun process disk hdisk hlock => hdisk.file hleft hlock⟩

end

/-! ### A file with the name of a report -/

/-- The bytes of a note. -/
def notes : List UInt8 := [109, 105, 110, 101]

/-- A plugin with a file of notes that has the name of a report. -/
def annotatedTree : FileSystem where
  entries := [(["p"], .directory), (["p", "10-notes.txt"], .file notes)]
  cwd := []
  homes := []

/-- What is asked for in the sweep of that plugin, with the reports where they are by default. -/
def annotatedOptions : SweepOptions where
  plugin := "/p"
  profile := .minimal

/-- The file is not in the directory for the reports then. -/
theorem unreserved_annotated :
    Unreserved bareEnvironment ["minimal", "/p"] annotatedTree ["p", "10-notes.txt"] := by
  rintro o target s hwords htarget hsettings ⟨made, d, name, hmade, hlocate, -, hloc⟩
  have hparsed : Console.parse ["minimal", "/p"] = .ok (.sweep annotatedOptions) := by
    decide +kernel
  cases hparsed.symm.trans hwords
  have hresolved : Target.resolve annotatedTree "/p" = .ok ⟨⟨"/", ["p"]⟩, "p"⟩ := by
    decide +kernel
  cases hresolved.symm.trans htarget
  have hplace : (settings bareEnvironment annotatedTree annotatedOptions
      ⟨⟨"/", ["p"]⟩, "p"⟩).toOption.map (·.reportDirectory) =
        some ⟨"/", ["qa-reports", "p"]⟩ := by
    decide +kernel
  rw [hsettings] at hplace
  rw [show s.reportDirectory = _ from Option.some.inj hplace] at hmade hlocate
  have hmadeAt : (((FileSystem.ensurePath ⟨"/", ["qa-reports", "p"]⟩).run.run
      annotatedTree).2.locate ⟨"/", ["qa-reports", "p"]⟩).toOption.map Prod.fst =
        some ["qa-reports", "p"] := by
    decide +kernel
  rw [hmade, hlocate] at hmadeAt
  obtain rfl : d = _ := Option.some.inj hmadeAt
  simp at hloc

/-- The session in which that plugin is swept. -/
def annotatedSession : (Ending × FileSystem) × History :=
  ((run bareEnvironment ["minimal", "/p"]).run annotatedTree).answer (obliging fun _ => false) []

/-- The file is left in the tree, and on the disk, which is the same since no lock is taken. -/
theorem run_leaves_unreserved_annotated :
    ∃ ending fs' asked,
      Dialogue.Runs heard ((run bareEnvironment ["minimal", "/p"]).run annotatedTree) []
        (ending, fs') ([] ++ asked) ∧
      fs'.node? ["p", "10-notes.txt"] = some (.file notes) ∧
      ∃ disk, Disk 0 fs' asked disk ∧ disk.node? ["p", "10-notes.txt"] = some (.file notes) := by
  have hrun : Dialogue.Runs heard ((run bareEnvironment ["minimal", "/p"]).run annotatedTree) []
      annotatedSession.1 annotatedSession.2 :=
    Dialogue.runs_answer (heard_obliging fun _ => false) _ _
  have hlockless : annotatedSession.2.all (fun event => !event.locks) = true := by
    decide +kernel
  -- What the session comes to is not to be evaluated again.
  generalize annotatedSession = session at hrun hlockless
  obtain ⟨⟨ending, fs'⟩, asked⟩ := session
  obtain ⟨hleft, hdisk⟩ := run_leaves_unreserved rfl unreserved_annotated
    (show Dialogue.Runs heard _ [] (ending, fs') ([] ++ asked) from hrun)
  have hsame := disk_of_lockless 0 fs' hlockless
  refine ⟨ending, fs', asked, hrun, hleft, fs', hsame, hdisk 0 fs' hsame ?_⟩
  rintro ⟨file, handle, hmem, -⟩
  cases List.all_eq_true.mp hlockless _ hmem

/-- The session that sweeps the plugin with the reports on every plugin beside the plugins. -/
def besideSession : (Ending × FileSystem) × History :=
  ((run bareEnvironment ["minimal", "/p", "--report-dir", "/"]).run annotatedTree).answer
    (obliging fun _ => false) []

/-- The directory for the reports is the plugin itself then: the session ends well, and a file of
the plugin is gone. -/
theorem reserved_file_is_lost :
    Target.resolve annotatedTree "/p" = .ok ⟨⟨"/", ["p"]⟩, "p"⟩ ∧
    annotatedTree.node? ["p", "10-notes.txt"] = some (.file notes) ∧
    ∃ fs' now,
      Dialogue.Runs heard
        ((run bareEnvironment ["minimal", "/p", "--report-dir", "/"]).run annotatedTree) []
        (.exit 0, fs') now ∧
      fs'.node? ["p", "10-notes.txt"] = none := by
  have hrun : Dialogue.Runs heard
      ((run bareEnvironment ["minimal", "/p", "--report-dir", "/"]).run annotatedTree) []
      besideSession.1 besideSession.2 :=
    Dialogue.runs_answer (heard_obliging fun _ => false) _ _
  have hend : besideSession.1.1 = .exit 0 ∧
      besideSession.1.2.node? ["p", "10-notes.txt"] = none := by
    decide +kernel
  -- What the session comes to is not to be evaluated again.
  generalize besideSession = session at hrun hend
  obtain ⟨⟨ending, fs'⟩, now⟩ := session
  obtain ⟨rfl, hgone⟩ : ending = .exit 0 ∧ fs'.node? ["p", "10-notes.txt"] = none := hend
  exact ⟨by decide +kernel, rfl, fs', now, hrun, hgone⟩

end Session

end PluginSweep.CommandLine
