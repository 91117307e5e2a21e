/-
PluginSweep/Proofs/Sweep/Again.lean

A sweep over what a sweep has left behind.  A survey that finds the same plugin in two
trees (`SamePlugin`) comes to the same in both: what it looks at are the files that it
lists, and the file for the removal (`matches_survey`).  It may only be warned of more
directories, so warnings must make no difference to the surroundings (`Unmoved`).

Where the plugin is not to be tried out, nothing but the reports follows, and these can be
written once more (`runs_conclude_again`).  So the sweep comes to the same summary and
leaves every place of the tree as it is (`runs_run_again`).
-/
import PluginSweep.Proofs.Report.Furnished
import PluginSweep.Proofs.Sweep.Filing

namespace PluginSweep.Sweep

open Dialogue (Conduct)

variable {α σ : Type} {c : Conduct Request.Reply σ} {s : Settings} {fs tree : FileSystem}
  {files : List Candidate} {root : Path}

/-! ### The same plugin in two trees -/

/-- The tree shows of the file for the removal what `fs` shows. -/
structure SameRemoval (root : Path) (tree fs : FileSystem) : Prop where
  test : ((FileSystem.testFile (root.child uninstallFile)).run.run tree).1 =
    ((FileSystem.testFile (root.child uninstallFile)).run.run fs).1
  read : fs.isFile (root.child uninstallFile) = true →
    tree.read (root.child uninstallFile) = fs.read (root.child uninstallFile)

/-- A sweep lists the same files in both trees, and reads the same in them. -/
structure SamePlugin (s : Settings) (tree fs : FileSystem) : Prop where
  files : (candidates s tree).map Walk.files = (candidates s fs).map Walk.files
  read : ∀ walk, candidates s fs = .ok walk → ∀ file ∈ walk.files,
    tree.read file.path = fs.read file.path
  removal : SameRemoval s.target.root tree fs

/-- The one sweep is at work in `fs` and the other in `tree`, and they have read the same. -/
structure Beside (tree fs : FileSystem) (st st' : SweepState) : Prop where
  before : st.tree = fs
  now : st'.tree = tree
  sources : st'.sources = st.sources

/-- The surroundings take warnings without being moved by them. -/
def Unmoved (c : Conduct Request.Reply σ) : Prop :=
  ∀ state warning reply after, c state (.warn warning) reply after ↔ after = state

/-- The work comes to the same in both trees, and leaves them as they are. -/
abbrev Repeats (c : Conduct Request.Reply σ) (tree fs : FileSystem) (w : Sweeping α) : Prop :=
  Work.Matches c (Beside tree fs) w w

/-! ### Checks -/

theorem repeats_asking (work : Asking α) : Repeats c tree fs (asking work) :=
  Work.matches_lift_lift work

theorem repeats_warn (w : Warning) :
    Repeats c tree fs (ExceptT.lift (StateT.lift (Asking.warn w)) : Sweeping Unit) :=
  repeats_asking _

theorem repeats_source {file : Candidate} (hread : tree.read file.path = fs.read file.path) :
    Repeats c tree fs (ExceptT.lift (source file) : Sweeping (Except OsError String)) := by
  refine Work.Matches.lift_get_bind fun st st' hst => ?_
  rw [hst.sources]
  split
  · exact Work.matches_pure _
  · have hasked : Work.Matches c (Beside tree fs)
        (ExceptT.lift (StateT.lift (Asking.request (Request.read file (st.tree.read file.path)))) :
          Sweeping Contents)
        (ExceptT.lift (StateT.lift (Asking.request
          (Request.read file (st'.tree.read file.path))))) := by
      rw [hst.before, hst.now, hread]
      exact repeats_asking _
    refine hasked.lift_bind fun contents => ?_
    refine Work.Matches.lift_bind ?_ fun _ => Work.matches_pure _
    exact Work.matches_set ⟨hst.before, hst.now, rfl⟩

theorem repeats_scanFiles (check : Check) (default : List String) {rest : List Candidate}
    (hread : ∀ file ∈ rest, tree.read file.path = fs.read file.path) (scan : Scan) :
    Repeats c tree fs (ExceptT.lift (scanSources check default rest scan) : Sweeping Scan) := by
  induction rest generalizing scan with
  | nil => exact Work.matches_pure _
  | cons file rest ih =>
    have hrest := ih fun file hfile => hread file (List.mem_cons_of_mem _ hfile)
    rw [scanSources, Check.scanFiles]
    split
    · exact hrest scan
    · refine (repeats_source (hread file List.mem_cons_self)).lift_bind fun text => ?_
      cases text with
      | error e => exact (repeats_warn _).lift_bind fun _ => hrest _
      | ok text => exact hrest _

theorem repeats_uninstallNotes (h : SameRemoval root tree fs) :
    Repeats c tree fs
      (ExceptT.lift (uninstallNotes root) : Sweeping (Except OsError (List String))) := by
  refine Work.Matches.lift_get_bind fun st st' hst => ?_
  dsimp only
  rw [hst.before, hst.now, h.test]
  split
  · exact Work.matches_pure _
  · exact Work.matches_pure _
  · rename_i hfile
    rw [h.read (FileSystem.isFile_of_testFile hfile)]
    have hasked : Repeats c tree fs (ExceptT.lift (StateT.lift (Asking.request (Request.preview
        (root.child uninstallFile) (fs.read (root.child uninstallFile))))) : Sweeping Contents) :=
      repeats_asking _
    refine hasked.lift_bind fun contents => ?_
    cases contents with
    | error e => exact Work.matches_pure _
    | ok bytes => exact Work.matches_pure _

theorem repeats_checkSection (hremoval : SameRemoval s.target.root tree fs)
    (hread : ∀ file ∈ files, tree.read file.path = fs.read file.path) (check : Check) :
    Repeats c tree fs (ExceptT.lift (checkSection s files check) : Sweeping Section) := by
  have hasked : Repeats c tree fs (ExceptT.lift (StateT.lift
      (Asking.request (Request.begin check.name))) : Sweeping (Option OsError)) :=
    repeats_asking _
  refine hasked.lift_bind fun refusal => ?_
  cases refusal with
  | some e => exact Work.matches_pure _
  | none =>
    have hscan : Repeats c tree fs (ExceptT.lift (check.scan files s.profile.sourceExtensions source
        fun w => StateT.lift (Asking.warn w)) : Sweeping Scan) :=
      (repeats_scanFiles check _ hread {}).lift_bind fun _ => Work.matches_pure _
    refine hscan.lift_bind fun scan => ?_
    dsimp only
    split
    · exact (repeats_uninstallNotes hremoval).lift_bind fun notes => Work.matches_pure _
    · exact Work.matches_pure _

/-! ### Steps -/

theorem repeats_takeStep (hremoval : SameRemoval s.target.root tree fs)
    (hread : ∀ file ∈ files, tree.read file.path = fs.read file.path) (step : Step) :
    Repeats c tree fs (takeStep s files step) := by
  refine (repeats_asking _).bind fun stop => ?_
  cases stop with
  | true => exact Work.matches_pure _
  | false =>
    refine (repeats_asking _).bind fun _ => ?_
    cases step with
    | check check => exact repeats_checkSection hremoval hread check
    | tool name title =>
      refine (repeats_asking _).bind fun made => ?_
      cases made with
      | ok made => exact Work.matches_pure _
      | error e => exact Work.matches_throw _

theorem repeats_record (l : Ledger) (made : Section) : Repeats c tree fs (record l made) := by
  refine (repeats_asking _).bind fun _ => ?_
  rcases l.record made with e | l'
  · exact Work.matches_throw _
  · exact Work.matches_pure _

theorem repeats_runSteps (hremoval : SameRemoval s.target.root tree fs)
    (hread : ∀ file ∈ files, tree.read file.path = fs.read file.path) (steps : List Step)
    (l : Ledger) : Repeats c tree fs (runSteps s files steps l) := by
  induction steps generalizing l with
  | nil => exact Work.matches_pure _
  | cons step rest ih =>
    refine (repeats_takeStep hremoval hread step).bind fun made => ?_
    exact (repeats_record l made).bind fun l' => ih l'

/-! ### The survey -/

/-- Other warnings are as good. -/
theorem matches_warnAll (hwarn : Unmoved c) (warnings warnings' : List Warning) :
    Work.Matches c (Beside tree fs) (asking (Asking.warnAll warnings))
      (asking (Asking.warnAll warnings')) := by
  have hrun : ∀ (warnings : List Warning) (state after : σ),
      Dialogue.Runs c (Asking.warnAll warnings) state () after ↔ after = state := by
    intro warnings state after
    induction warnings generalizing state with
    | nil => exact Dialogue.runs_pure_iff.trans (and_iff_right rfl)
    | cons w rest ih =>
      rw [Asking.warnAll, Dialogue.runs_bind_iff]
      constructor
      · rintro ⟨_, mid, hreply, hrest⟩
        obtain rfl := (hwarn _ _ _ _).mp (Asking.runs_request_iff.mp hreply)
        exact (ih _).mp hrest
      · rintro rfl
        exact ⟨(), after, Asking.runs_request_iff.mpr ((hwarn _ _ _ _).mpr rfl), (ih _).mpr rfl⟩
  intro x x' o y hrel hsame h
  obtain ⟨_, hwarned, rfl, hst⟩ := runs_asking_iff.mp h
  have hy := (hrun _ _ _).mp hwarned
  refine ⟨x', runs_asking_iff.mpr ⟨(), (hrun _ _ _).mpr rfl, rfl, rfl⟩, ?_, ?_⟩
  · rwa [hst]
  · rw [hy, hsame]

theorem countLines_congr {read read' : Candidate → Except OsError (List UInt8)}
    (h : ∀ file ∈ files, read' file = read file) :
    countLines read' files = countLines read files := by
  refine congrArg (fun counts : List (Nat × Option Warning) =>
    ((⟨files.length, counts.foldl (fun total c => total + c.1) 0⟩, counts.filterMap (·.2)) :
      Statistics × List Warning)) (List.map_congr_left fun file hfile => ?_)
  rw [h file hfile]

/-- A survey collects the same files, which can be read alike in both trees. -/
theorem repeats_collect (hwarn : Unmoved c) (h : SamePlugin s tree fs) {β : Type}
    {f : List Candidate × Statistics → Sweeping β}
    (hf : ∀ collected, (∀ file ∈ collected.1, tree.read file.path = fs.read file.path) →
      Repeats c tree fs (f collected)) :
    Repeats c tree fs (collect s >>= f) := by
  rw [collect, bind_assoc]
  refine (repeats_asking _).bind fun _ => ?_
  rw [bind_assoc]
  refine Work.Matches.get_bind fun st st' hst => ?_
  have hfiles := h.files
  dsimp only
  rw [hst.before, hst.now]
  -- Both trees are listed, or both are refused.
  rcases hwalk : candidates s fs with e | walk <;>
    rcases hwalk' : candidates s tree with e' | walk' <;> rw [hwalk, hwalk'] at hfiles
  · obtain rfl := Except.error.inj hfiles
    exact Work.matches_throw _
  · cases hfiles
  · cases hfiles
  · have hsame : walk'.files = walk.files := Except.ok.inj hfiles
    have hread := h.read walk hwalk
    simp only [pure_bind, bind_assoc]
    rw [hsame, countLines_congr hread]
    refine (matches_warnAll hwarn _ _).bind fun _ => ?_
    exact (repeats_asking _).bind fun _ => hf _ hread

/-- **A survey of the same plugin comes to the same.** -/
theorem repeats_survey (hwarn : Unmoved c) (h : SamePlugin s tree fs) :
    Repeats c tree fs (survey s) := by
  have hprecondition : Repeats c tree fs (precondition s) := by
    rw [precondition]
    split
    · exact Work.matches_pure _
    · refine (repeats_asking _).bind fun installed => ?_
      split
      · exact Work.matches_pure _
      · exact Work.matches_throw _
      · exact Work.matches_throw _
  refine hprecondition.bind fun site => ?_
  refine repeats_collect hwarn h fun collected hread => ?_
  have hsteps : ∀ steps, Repeats c tree fs (do
      let ledger ← runSteps s collected.1 steps {}
      pure (⟨site, ledger, collected.2, ← asking Asking.cancelled⟩ : Survey)) :=
    fun steps => (repeats_runSteps h.removal hread steps {}).bind fun ledger =>
      (repeats_asking _).bind fun _ => Work.matches_pure _
  dsimp only
  split
  · exact (Work.matches_pure _).bind fun steps => hsteps steps
  · exact (Work.matches_throw _).bind fun steps => hsteps steps

/-! ### Where the plugin is not tried out -/

variable {v : Survey} {summary : Summary} {x y : SweepState × σ}

/-- Where there is no site, the reports are all that follows a survey. -/
theorem conclude_eq (hsite : v.site = none) :
    conclude s v = (do
      let summary ← writeReports s (summarize s v.ledger v.statistics v.interrupted)
      let _ ← filing (Report.writeSummary s.time s.reportDirectory summary)
      pure summary) := by
  have htry : ∀ summary, tryOut s none summary = pure summary := fun _ => rfl
  have hwarn : ∀ summary, warnSkipped s none summary = pure () := fun _ => rfl
  rw [conclude, hsite, hwarn, pure_bind]
  simp only [htry, pure_bind]

/-- All that comes of them is the reports and the summary. -/
theorem runs_conclude_ok_iff (hsite : v.site = none) :
    Work.Runs c (conclude s v) x (.ok summary) y ↔
      Report.Produces s.time s.time s.reportDirectory Report.descriptions
        (summarize s v.ledger v.statistics v.interrupted) summary x.1.tree y.1.tree ∧
      y = ({ x.1 with tree := y.1.tree }, x.2) := by
  rw [conclude_eq hsite, Work.runs_bind_ok_iff]
  constructor
  · rintro ⟨final, z, hreports, hlast⟩
    obtain ⟨base, mid, paths, hprepare, hsections, rfl⟩ := runs_writeReports_ok_iff.mp hreports
    obtain ⟨path, z', hfile, hend⟩ := Work.runs_bind_ok_iff.mp hlast
    obtain ⟨tree, hsummary, rfl⟩ := runs_filing_ok_iff.mp hfile
    obtain ⟨heq, rfl⟩ := Work.runs_pure_iff.mp hend
    obtain rfl := Except.ok.inj heq
    exact ⟨⟨base, mid, paths, path, hprepare, hsections, hsummary⟩, rfl⟩
  · rintro ⟨⟨base, mid, paths, path, hprepare, hsections, hsummary⟩, hy⟩
    refine ⟨summary, _, runs_writeReports_ok_iff.mpr ⟨base, mid, paths, hprepare, hsections, rfl⟩,
      Work.runs_bind_ok_iff.mpr ?_⟩
    exact ⟨path, y, runs_filing_ok_iff.mpr ⟨_, hsummary, hy⟩, Work.runs_pure_iff.mpr ⟨rfl, rfl⟩⟩

/-- Only a report that is refused ends a sweep without a summary then. -/
theorem runs_conclude_error (hsite : v.site = none) {e : SweepError}
    (h : Work.Runs c (conclude s v) x (.error e) y) : ∃ cause, e = .refused cause := by
  have hfiling : ∀ {β : Type} {work : FileWork β} {x y : SweepState × σ},
      Work.Runs c (filing work) x (.error e) y → ∃ cause, e = .refused cause := by
    intro β work x y hfile
    obtain ⟨hfiled, -⟩ := runs_filing_iff.mp hfile
    rcases hdone : (work.run.run x.1.tree).1 with cause | a <;> rw [hdone] at hfiled
    · exact ⟨cause, Except.error.inj hfiled⟩
    · cases hfiled
  rw [conclude_eq hsite] at h
  rcases Work.runs_bind_error_iff.mp h with ⟨final, z, -, hlast⟩ | hreports
  · rcases Work.runs_bind_error_iff.mp hlast with ⟨path, z', -, hend⟩ | hfile
    · cases (Work.runs_pure_iff.mp hend).1
    · exact hfiling hfile
  · rcases Work.runs_bind_error_iff.mp hreports with ⟨_, z, -, hwrite⟩ | hprepare
    · rcases Work.runs_bind_error_iff.mp hwrite with ⟨⟨written, _⟩, z', -, hend⟩ | hchange
      · cases written with
        | ok paths => cases (Work.runs_pure_iff.mp hend).1
        | error cause => exact ⟨cause, Except.error.inj (Work.runs_throw_iff.mp hend).1⟩
      · cases (runs_changing_iff.mp hchange).1
    · exact hfiling hprepare

/-! ### The same sweep again -/

theorem samePlugin_refl (s : Settings) (fs : FileSystem) : SamePlugin s fs fs where
  files := rfl
  read := fun _ _ _ _ => rfl
  removal := ⟨rfl, fun _ => rfl⟩

/-- A survey leaves the tree as it is, however it ends. -/
theorem runs_survey_tree (hwarn : Unmoved c) {o : Except SweepError Survey}
    (h : Work.Runs c (survey s) x o y) : y.1.tree = x.1.tree := by
  obtain ⟨y', -, hbeside, -⟩ := repeats_survey hwarn (samePlugin_refl s x.1.tree) x x o y
    ⟨rfl, rfl, rfl⟩ rfl h
  exact hbeside.before

/-- Where the plugin is not to be tried out, a survey finds no site for that. -/
theorem runs_survey_siteless (hsite : s.probedSite = none)
    (h : Work.Runs c (survey s) x (.ok v) y) : v.site = none := by
  have hnone : precondition s = pure none := by
    rw [precondition, hsite]
  rw [survey, hnone, pure_bind] at h
  obtain ⟨collected, z, -, hplanned⟩ := Work.runs_bind_ok_iff.mp h
  dsimp only at hplanned
  split at hplanned
  · rw [pure_bind] at hplanned
    obtain ⟨ledger, z', -, hrest⟩ := Work.runs_bind_ok_iff.mp hplanned
    obtain ⟨stop, z'', -, hend⟩ := Work.runs_bind_ok_iff.mp hrest
    rw [Except.ok.inj (Work.runs_pure_iff.mp hend).1]
  · obtain ⟨_, _, hthrow, -⟩ := Work.runs_bind_ok_iff.mp hplanned
    cases (Work.runs_throw_iff.mp hthrow).1

/-- A sweep that comes to no summary, where the plugin is not to be tried out, leaves the tree as it
is, or a report was refused. -/
theorem runs_run_error (hwarn : Unmoved c) (hsite : s.probedSite = none) {e : SweepError}
    (h : Work.Runs c (run s) x (.error e) y) :
    y.1.tree = x.1.tree ∨ ∃ cause, e = .refused cause := by
  rcases Work.runs_bind_error_iff.mp h with ⟨v, z, hsurvey, hconclude⟩ | hsurvey
  · exact .inr (runs_conclude_error (runs_survey_siteless hsite hsurvey) hconclude)
  · exact .inl (runs_survey_tree hwarn hsurvey)

/-- A sweep that comes to a summary has a survey behind it, and has written the reports on it. -/
theorem runs_run_ok (hwarn : Unmoved c) (hsite : s.probedSite = none)
    (h : Work.Runs c (run s) x (.ok summary) y) :
    ∃ v z, Work.Runs c (survey s) x (.ok v) z ∧ v.site = none ∧ Regular v.ledger ∧
      Report.Produces s.time s.time s.reportDirectory Report.descriptions
        (summarize s v.ledger v.statistics v.interrupted) summary x.1.tree y.1.tree ∧
      y.2 = z.2 := by
  obtain ⟨v, z, hsurvey, hconclude⟩ := Work.runs_bind_ok_iff.mp h
  have hsiteless := runs_survey_siteless hsite hsurvey
  obtain ⟨hproduces, hy⟩ := (runs_conclude_ok_iff hsiteless).mp hconclude
  rw [runs_survey_tree hwarn hsurvey] at hproduces
  have hregular := brought_survey (I := fun _ => True) x v z trivial hsurvey
  exact ⟨v, z, hsurvey, hsiteless, hregular.2, hproduces, by rw [hy]⟩

/-- The reports of a sweep have names of reports. -/
theorem isReport_of_regular_survey (h : Regular v.ledger) :
    ∀ file ∈ Report.sectionFiles 1
      ((summarize s v.ledger v.statistics v.interrupted).sections.map (·.name)),
      Report.IsReport file := by
  intro file hfile
  refine isReport_of_regular h file ?_
  rw [Report.sectionFiles_append]
  exact List.mem_append_left _ hfile

/-- What a sweep needs of the tree and of its settings to find the same plugin once more: the tree
stands on the ground, and neither in the plugin nor right in the directory for the reports there
are links. -/
structure Repeatable (s : Settings) (top : Location) (fs : FileSystem) : Prop where
  grounded : fs.Grounded
  located : fs.locate s.target.root = .ok (top, .directory)
  plain : fs.PlainBelow top
  free : Report.LinkFree s.reportDirectory fs
  profile : s.profile ∈ Profile.table

variable {top : Location}

theorem Repeatable.walkPlain (h : Repeatable s top fs) :
    Walk.Plain fs ⟨s.target.root, s.exclusions, some s.profile.sourceExtensions⟩ top where
  located := h.located
  grounded := h.grounded
  noLink := fun _ _ _ => h.plain.node?_ne_link

theorem Repeatable.sameRemoval (h : Repeatable s top fs) {d : Location}
    (hfurnished : Report.Furnished d tree fs) : SameRemoval s.target.root tree fs := by
  have hproper : Proper uninstallFile := by decide
  have hpath : s.target.root.child uninstallFile =
      ⟨s.target.root.anchor, s.target.root.names ++ [uninstallFile]⟩ := by
    have hjoinable : Path.Joinable [uninstallFile] := by
      rw [Path.Joinable]
      decide
    have hchild := s.target.root.child_intercalate hjoinable (List.cons_ne_nil _ _)
    rwa [String.intercalate_singleton] at hchild
  -- Neither tree has a link of that name, so that the file is looked for in the same place.
  have hlink : ∀ target, fs.node? (top ++ [uninstallFile]) ≠ some (.link target) := by
    intro target
    have hnone : fs.node? (top ++ [] ++ [uninstallFile]) ≠ some (.link target) :=
      h.plain.node?_ne_link
    rwa [List.append_nil] at hnone
  have hlink' : ∀ target, tree.node? (top ++ [uninstallFile]) ≠ some (.link target) :=
    fun target => mt hfurnished.link_iff.mp (hlink target)
  have hlocated := hfurnished.locate_directory h.located
  have hfile : ∀ bytes, tree.node? (top ++ [uninstallFile]) = some (.file bytes) ↔
      fs.node? (top ++ [uninstallFile]) = some (.file bytes) :=
    fun bytes => hfurnished.file_iff (by decide)
  have hisFile : tree.isFile (s.target.root.child uninstallFile) =
      fs.isFile (s.target.root.child uninstallFile) := by
    rw [hpath, Bool.eq_iff_iff, FileSystem.isFile_entry_iff hlocated hproper hlink',
      FileSystem.isFile_entry_iff h.located hproper hlink]
    exact and_congr_right fun _ => exists_congr hfile
  have hlong : tree.locate (s.target.root.child uninstallFile) = .error .nameTooLong ↔
      fs.locate (s.target.root.child uninstallFile) = .error .nameTooLong := by
    rw [hpath, FileSystem.locate_entry_long_iff hlocated hproper hlink',
      FileSystem.locate_entry_long_iff h.located hproper hlink]
  refine ⟨FileSystem.testFile_congr hlong hisFile, fun hthere => ?_⟩
  · rw [hpath] at hthere ⊢
    obtain ⟨-, bytes, hnode⟩ := (FileSystem.isFile_entry_iff h.located hproper hlink).mp hthere
    rw [FileSystem.read, FileSystem.read, FileSystem.locate_file h.located hproper hnode,
      FileSystem.locate_file hlocated hproper ((hfile bytes).mpr hnode)]

/-- **Reports make no difference to the plugin**, wherever they are. -/
theorem Repeatable.samePlugin (h : Repeatable s top fs) {d : Location}
    (hfurnished : Report.Furnished d tree fs) (htree : tree.Grounded) : SamePlugin s tree fs := by
  have hextensions : ∀ p ∈ Profile.table, ".txt\n" ∉ p.sourceExtensions := by decide
  have hovergrown := hfurnished.overgrown h.walkPlain htree fun name hname =>
    Report.wantsName_of_isArtifactName rfl (hextensions _ h.profile) hname
  exact ⟨hovergrown.walk_files, fun walk hwalk file hfile => hovergrown.read_eq hwalk hfile,
    h.sameRemoval hfurnished⟩

/-- Where the reports of a sweep have been written, its tree is the one before with reports. -/
theorem Repeatable.furnished (h : Repeatable s top fs) (hregular : Regular v.ledger)
    (hproduces : Report.Produces s.time s.time s.reportDirectory Report.descriptions
      (summarize s v.ledger v.statistics v.interrupted) summary fs tree) :
    tree.Grounded ∧ ∃ d, Report.Furnished d tree fs ∧
      tree.locate s.reportDirectory = .ok (d, .directory) := by
  have hnames := isReport_of_regular_survey (s := s) hregular
  obtain ⟨-, d, base, hproduced⟩ := hproduces.produced h.grounded h.free hnames
  have hstart : FileSystem.SameStart tree fs :=
    hproduces.keeps (I := (FileSystem.SameStart · fs)) (FileSystem.sameStart_makeDirectory fs)
      (FileSystem.sameStart_unlink fs) (FileSystem.sameStart_write fs)
      (FileSystem.SameStart.refl fs)
  refine ⟨hproduced.grounded, d, hproduced.furnished hstart fun e he => ?_,
    hproduced.filed.ways.locate_directory_iff.mpr hproduced.cleared.located⟩
  exact (Report.isReport_of_mem_allReports hnames he).1

/-- **The same sweep comes to the same again**, over the tree that it has left behind, and it leaves
every place of that tree as it is. -/
theorem runs_run_again (hwarn : Unmoved c) (hsite : s.probedSite = none)
    (hrepeatable : Repeatable s top x.1.tree) (h : Work.Runs c (run s) x (.ok summary) y) :
    (∃ d, Report.Furnished d y.1.tree x.1.tree ∧
      y.1.tree.locate s.reportDirectory = .ok (d, .directory)) ∧
    ∃ y', Work.Runs c (run s) ({ x.1 with tree := y.1.tree }, x.2) (.ok summary) (y', y.2) ∧
      ∀ loc, y'.tree.node? loc = y.1.tree.node? loc := by
  obtain ⟨v, z, hsurvey, hsiteless, hregular, hproduces, hsurroundings⟩ :=
    runs_run_ok hwarn hsite h
  obtain ⟨hgrounded, d, hfurnished, hdir⟩ := hrepeatable.furnished hregular hproduces
  obtain ⟨z', hsurvey', hbeside, hz'⟩ := repeats_survey hwarn
    (hrepeatable.samePlugin hfurnished hgrounded) x
    ({ x.1 with tree := y.1.tree }, x.2) _ z ⟨rfl, rfl, rfl⟩ rfl hsurvey
  obtain ⟨tree', hagain, hnode⟩ := Report.written_again hrepeatable.grounded hrepeatable.free
    (isReport_of_regular_survey hregular) hproduces
  refine ⟨⟨d, hfurnished, hdir⟩, { z'.1 with tree := tree' }, ?_, hnode⟩
  refine Work.runs_bind_ok_iff.mpr ⟨v, z', hsurvey', (runs_conclude_ok_iff hsiteless).mpr ⟨?_, ?_⟩⟩
  · rwa [hbeside.now]
  · rw [hz', hsurroundings]

end PluginSweep.Sweep
