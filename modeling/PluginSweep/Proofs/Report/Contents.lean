/-
PluginSweep/Proofs/Report/Contents.lean

What the directory for reports holds when all of them are written.  Where no link in it
has the name of a report, every such name is that of an entry of the directory itself
(`trace_entryPath`).  So preparing the directory takes away every file of such a name
(`exists_cleared`), and writing a report puts a file under its own name and does nothing
else (`writeText_eq_ok`).

Reports are written one after the other (`Wrote`), and their numbers keep their names
apart.  So they stand side by side over what was there before (`Wrote.filed`).  In the end
the files with names of reports are these reports, each of them as it was rendered, and
the summary names them (`contents_of_written`).  Where there are links, a report is there
unless a later one has been written to the same place (`Wrote.posted`).
-/
import Mathlib.Data.List.Basic
import PluginSweep.Proofs.FileSystem.Links
import PluginSweep.Proofs.Report.Clearing

namespace PluginSweep.Report

open FileSystem

variable {dir : Path} {d : Location} {fs fs' tree tree' base : FileSystem} {name text : String}
  {reports : List (String × String)}

/-! ### Entries of the directory -/

/-- No link in the directory has the name of a report. -/
def Unlinked (d : Location) (fs : FileSystem) : Prop :=
  ∀ name, isArtifactName name = true → ∀ target, fs.node? (d ++ [name]) ≠ some (.link target)

theorem Unlinked.of_sameWays (h : Unlinked d fs) (hways : SameWays fs' fs) : Unlinked d fs' :=
  fun name hname target hlink => h name hname target ((hways.link _ _).mp hlink)

/-- The path of the entry, or its name, is too long. -/
def TooLong (dir : Path) (name : String) : Prop :=
  (entryPath dir name).toString.utf8ByteSize > pathLimit ∨ name.utf8ByteSize > nameLimit

instance (dir : Path) (name : String) : Decidable (TooLong dir name) :=
  inferInstanceAs (Decidable (_ ∨ _))

/-- The name of a report leads to the entry of the name, whatever it is traced for. -/
theorem trace_entryPath {purpose : Purpose} (hdir : fs.locate dir = .ok (d, .directory))
    (hlinks : Unlinked d fs) (hname : isArtifactName name = true) :
    fs.trace purpose (entryPath dir name) =
      if TooLong dir name then .error .nameTooLong else .ok (d ++ [name]) :=
  trace_concat hdir (proper_of_isArtifactName hname) (hlinks name hname)

theorem locate_entryPath_of_long (hdir : fs.locate dir = .ok (d, .directory))
    (hlinks : Unlinked d fs) (hname : isArtifactName name = true) (hlong : TooLong dir name) :
    fs.locate (entryPath dir name) = .error .nameTooLong := by
  rw [locate, trace_entryPath hdir hlinks hname, if_pos hlong]

theorem isFile_entryPath_iff (hdir : fs.locate dir = .ok (d, .directory)) (hlinks : Unlinked d fs)
    (hname : isArtifactName name = true) :
    fs.isFile (entryPath dir name) = true ↔
      ¬ TooLong dir name ∧ ∃ bytes, fs.node? (d ++ [name]) = some (.file bytes) :=
  isFile_entry_iff hdir (proper_of_isArtifactName hname) (hlinks name hname)

/-! ### Clearing -/

/-- To remove reports from a directory leaves the ways through the tree as they are, and takes
away the files of all the names. -/
theorem run_removeReports_eq_ok {names : List String} (hdir : fs.locate dir = .ok (d, .directory))
    (hlinks : Unlinked d fs) (h : (removeReports dir names).run.run fs = (.ok (), fs')) :
    SameWays fs' fs ∧ ∀ name ∈ names, isArtifactName name = true →
      ∀ bytes, fs'.node? (d ++ [name]) ≠ some (.file bytes) := by
  induction names generalizing fs with
  | nil =>
    obtain rfl := (Prod.mk.inj h).2
    exact ⟨.refl _, fun name hname => by cases hname⟩
  | cons first rest ih =>
    -- What is there in the end was there all along.
    have hold : ∀ {tree names loc node}, (removeReports dir names).run.run tree = (.ok (), fs') →
        fs'.node? loc = some node → tree.node? loc = some node := by
      intro tree names loc node hrun hnode
      have hsheds := (run_removeReports dir names tree).1
      rw [hrun] at hsheds
      exact hsheds.old _ _ hnode
    by_cases hlong : fs.locate (entryPath dir first) = .error .nameTooLong
    · rw [run_removeReports_cons_of_long hlong] at h
      cases h
    · rw [run_removeReports_cons hlong] at h
      split at h
      · -- The first name is due: it is removed, and the directory is still where it was.
        rename_i hdue
        obtain ⟨hfile, hfirst⟩ := Bool.and_eq_true_iff.mp hdue
        obtain ⟨-, bytes, hnode⟩ := (isFile_entryPath_iff hdir hlinks hfirst).mp hfile
        rw [run_bind] at h
        rcases run_unlink_entryPath dir hfirst fs with ⟨e, hunlink⟩ | ⟨d', hdir', hunlink⟩ <;>
          rw [hunlink] at h
        · cases h
        · obtain ⟨rfl, -⟩ := Prod.mk.inj (Except.ok.inj (hdir'.symm.trans hdir))
          have hways := sameWays_remove hnode
          obtain ⟨hrest, hgone⟩ := ih (hways.locate_directory_iff.mpr hdir)
            (hlinks.of_sameWays hways) h
          refine ⟨hrest.trans hways, fun name hmem hname bytes' hnode' => ?_⟩
          rcases List.mem_cons.mp hmem with rfl | hmem
          · -- It has been removed, and does not come back.
            have hremoved := hold h hnode'
            rw [node?_remove_self (List.append_ne_nil_of_right_ne_nil _ (List.cons_ne_nil _ _))]
              at hremoved
            cases hremoved
          · exact hgone name hmem hname bytes' hnode'
      · -- It is not due.
        rename_i hnot
        obtain ⟨hrest, hgone⟩ := ih hdir hlinks h
        refine ⟨hrest, fun name hmem hname bytes hnode => ?_⟩
        rcases List.mem_cons.mp hmem with rfl | hmem
        · -- The file would have been there before, and due to be removed.
          refine hnot (Bool.and_eq_true_iff.mpr ⟨?_, hname⟩)
          refine (isFile_entryPath_iff hdir hlinks hname).mpr ⟨fun hover => ?_, bytes, hold h hnode⟩
          exact hlong (locate_entryPath_of_long hdir hlinks hname hover)
        · exact hgone name hmem hname bytes hnode

/-- The directory at `d` is cleared of reports: no file in it has the name of one, and all else is
as it was in `fs`, but for directories that were made on the way. -/
structure Cleared (dir : Path) (d : Location) (tree fs : FileSystem) : Prop where
  located : tree.locate dir = .ok (d, .directory)
  unlinked : Unlinked d tree
  free : ∀ name, isArtifactName name = true →
    ∀ bytes, tree.node? (d ++ [name]) ≠ some (.file bytes)
  kept : ∀ loc node, fs.node? loc = some node →
    (∀ name, isArtifactName name = true → loc ≠ d ++ [name]) ∨ node = .directory →
      tree.node? loc = some node
  new : ∀ loc node, tree.node? loc = some node → fs.node? loc = some node ∨ node = .directory

theorem run_ensurePath {made : FileSystem} (h : (ensurePath dir).run.run fs = (.ok (), made)) :
    Grown made fs := by
  have hgrown := grown_ensurePath fs dir
  rwa [h] at hgrown

/-- A directory in which no link has the name of a report is cleared when it has been prepared. -/
theorem exists_cleared
    (hlinks : ∀ loc, Reserved dir fs loc → ∀ target, fs.node? loc ≠ some (.link target))
    (h : (prepare dir).run.run fs = (.ok (), tree)) : ∃ d, Cleared dir d tree fs := by
  obtain ⟨made, d, hmade, hdir, hremoved⟩ := exists_made_of_prepare h
  have hgrown := run_ensurePath hmade
  -- Making the directory has made no link.
  have hunlinked : Unlinked d made := by
    intro name hname target hlink
    rcases hgrown.new _ _ hlink with hlink | hlink
    · exact hlinks _ ⟨made, d, name, hmade, hdir, hname, rfl⟩ target hlink
    · cases hlink
  obtain ⟨hways, hgone⟩ := run_removeReports_eq_ok hdir hunlinked hremoved
  have hsheds := (run_removeReports dir (made.namesIn d) made).1
  rw [hremoved] at hsheds
  refine ⟨d, hways.locate_directory_iff.mpr hdir, hunlinked.of_sameWays hways, ?_, ?_, ?_⟩
  · -- A file of the name would have been listed.
    intro name hname bytes hnode
    refine hgone name (mem_namesIn.mpr ⟨_, mem_entries_of_node? ?_ (hsheds.old _ _ hnode)⟩)
      hname bytes hnode
    exact List.append_ne_nil_of_right_ne_nil _ (List.cons_ne_nil _ _)
  · rintro loc node hnode (hfree | rfl)
    · refine hsheds.kept loc node (hgrown.kept _ _ hnode) fun d' name hdir' hname => ?_
      obtain ⟨rfl, -⟩ := Prod.mk.inj (Except.ok.inj (hdir'.symm.trans hdir))
      exact hfree name hname
    · exact (hways.directory loc).mpr (hgrown.kept _ _ hnode)
  · exact fun loc node hnode => hgrown.new _ _ (hsheds.old _ _ hnode)

/-! ### Writing -/

/-- A report that is written stands under its own name, and nothing else is changed. -/
theorem writeText_eq_ok {path : Path} (hdir : tree.locate dir = .ok (d, .directory))
    (hlinks : Unlinked d tree) (hname : IsReport name)
    (h : (writeText dir name text).run.run tree = (.ok path, tree')) :
    tree.DeadEnd (d ++ [name]) ∧ tree' = tree.put (d ++ [name]) (.file (Text.encode text)) := by
  rw [run_writeText, hname.child] at h
  rcases hwrite : (write (entryPath dir name) (Text.encode text)).run.run tree with
    ⟨e | _, written⟩ <;> rw [hwrite] at h
  · cases h
  · obtain rfl : written = tree' := (Prod.mk.inj h).2
    obtain ⟨loc, htrace, hfree, hput⟩ := write_eq_ok hwrite
    rw [trace_entryPath hdir hlinks hname.1] at htrace
    split at htrace
    · cases htrace
    · obtain rfl := Except.ok.inj htrace
      refine ⟨fun node hnode => ?_, hput⟩
      cases node with
      | file bytes => exact ⟨bytes, rfl⟩
      | directory => exact absurd hnode hfree
      | link target => exact absurd hnode (hlinks name hname.1 target)

/-- The reports, each of them a name and a text, stand in the directory at `d`, and all else is as
in the tree `base`. -/
structure Filed (d : Location) (reports : List (String × String)) (tree base : FileSystem) :
    Prop where
  ways : SameWays tree base
  file : ∀ e ∈ reports, tree.node? (d ++ [e.1]) = some (.file (Text.encode e.2))
  rest : ∀ loc, (∀ e ∈ reports, loc ≠ d ++ [e.1]) → tree.node? loc = base.node? loc

/-! ### Writing one after the other -/

/-- The reports have been written into the directory one after the other, each under a new name, and
that has led from the tree `base` to the tree. -/
inductive Wrote (dir : Path) (base : FileSystem) : List (String × String) → FileSystem → Prop
  | nil : Wrote dir base [] base
  | write {reports : List (String × String)} {name text : String} {path : Path}
      {tree tree' : FileSystem} (h : Wrote dir base reports tree) (hname : IsReport name)
      (hnew : ∀ e ∈ reports, e.1 ≠ name)
      (hwrite : (writeText dir name text).run.run tree = (.ok path, tree')) :
      Wrote dir base (reports ++ [(name, text)]) tree'

/-- **The reports on all sections are written one after the other**, where all that was written
already has smaller numbers. -/
theorem Wrote.sections (h : Wrote dir base reports tree) {time : String} {known : Descriptions}
    {index : Nat} {sections named : List Section} {paths : List Path}
    (hnames : ∀ file ∈ sectionFiles index (sections.map (·.name)), IsReport file)
    (hless : ∀ e ∈ reports, fileNumber e.1 < index)
    (hwrite : (writeSectionsFrom time dir known index sections).run tree =
      ((.ok paths, named), tree')) :
    named = withArtifacts index sections ∧
      Wrote dir base (reports ++ sectionReports time known index sections) tree' := by
  -- With every section the number rises, and what has been written stays below it.
  induction sections generalizing index reports tree named paths with
  | nil =>
    obtain ⟨houtcome, rfl⟩ := Prod.mk.inj hwrite
    obtain ⟨-, rfl⟩ := Prod.mk.inj houtcome
    exact ⟨rfl, by rwa [sectionReports, List.append_nil]⟩
  | cons s rest ih =>
    have hfirst : IsReport (sectionFile index s.name) := hnames _ List.mem_cons_self
    have hnew : ∀ e ∈ reports, e.1 ≠ sectionFile index s.name := ne_sectionFile_of_lt hless
    rcases hone : (writeSection time dir (withArtifact index s)
      ((known.lookup s.name).getD "")).run.run tree with ⟨e | path, tree₁⟩
    · rw [writeSectionsFrom, StateT.run_bind, hone] at hwrite
      cases hwrite
    · rw [run_writeSectionsFrom_cons hone] at hwrite
      rcases hmore : (writeSectionsFrom time dir known (index + 1) rest).run tree₁ with
        ⟨⟨e | paths', named'⟩, tree₂⟩ <;> rw [hmore] at hwrite
      · cases hwrite
      · obtain ⟨houtcome, rfl⟩ := Prod.mk.inj hwrite
        obtain ⟨-, rfl⟩ := Prod.mk.inj houtcome
        obtain ⟨rfl, hall⟩ := ih (h.write hfirst hnew hone)
          (fun file hfile => hnames file (List.mem_cons_of_mem _ hfile))
          (fileNumber_lt_succ hless) hmore
        refine ⟨rfl, ?_⟩
        rw [sectionReports]
        simpa using hall

/-- The statistics and the reports on all sections of a summary. -/
def stepReports (time : String) (known : Descriptions) (s : Summary) : List (String × String) :=
  (statisticsFile, renderStatistics time s) :: sectionReports time known 1 s.sections

/-- The summary with the names of the files for its sections. -/
def filedSummary (s : Summary) : Summary :=
  { s with sections := withArtifacts 1 s.sections }

/-- The statistics come first, and then the reports on the sections. -/
theorem wrote_of_writeSections {time : String} {known : Descriptions} {s s' : Summary}
    {paths : List Path}
    (hnames : ∀ file ∈ sectionFiles 1 (s.sections.map (·.name)), IsReport file)
    (hwrite : (writeSections time dir known s).run base = ((.ok paths, s'), tree)) :
    s' = filedSummary s ∧ Wrote dir base (stepReports time known s) tree := by
  rw [writeSections, StateT.run_bind] at hwrite
  rcases hone : (writeStatistics time dir s).run.run base with ⟨e | path, tree₁⟩ <;>
    rw [hone] at hwrite
  · cases hwrite
  · have hfirst := Wrote.nil.write isReport_statisticsFile (by simp) hone
    -- The sections are numbered from one on, after the statistics.
    have hless : ∀ e ∈ [] ++ [(statisticsFile, renderStatistics time s)],
        fileNumber e.1 < 1 := by
      intro e he
      rw [List.mem_singleton.mp he, fileNumber_statisticsFile]
      exact Nat.one_pos
    have hmore : (writeSectionsFrom time dir known 1 s.sections >>= fun made =>
        pure (made.1.map (path :: ·), { s with sections := made.2 }) : StateM FileSystem _).run
          tree₁ = ((.ok paths, s'), tree) := hwrite
    rw [StateT.run_bind] at hmore
    rcases hsections : (writeSectionsFrom time dir known 1 s.sections).run tree₁ with
      ⟨⟨e | paths', named⟩, tree₂⟩ <;> rw [hsections] at hmore
    · cases hmore
    · obtain ⟨houtcome, rfl⟩ := Prod.mk.inj hmore
      obtain ⟨-, rfl⟩ := Prod.mk.inj houtcome
      obtain ⟨rfl, hall⟩ := hfirst.sections hnames hless hsections
      exact ⟨rfl, hall⟩

/-- Reports that have been written stand side by side in the directory, where no link has the name
of one. -/
theorem Wrote.filed (h : Wrote dir base reports tree)
    (hdir : base.locate dir = .ok (d, .directory)) (hlinks : Unlinked d base) :
    Filed d reports tree base := by
  induction h with
  | nil => exact ⟨.refl base, by simp, fun _ _ => rfl⟩
  | @write reports name text _ _ _ _ hname hnew hwrite ih =>
    obtain ⟨hend, rfl⟩ := writeText_eq_ok (ih.ways.locate_directory_iff.mpr hdir)
      (hlinks.of_sameWays ih.ways) hname hwrite
    refine ⟨(sameWays_put hend _).trans ih.ways, fun e he => ?_, fun loc hloc => ?_⟩
    · rcases List.mem_append.mp he with he | he
      · rw [node?_put_of_ne, ih.file e he]
        intro heq
        exact hnew e he (List.singleton_inj.mp (List.append_cancel_left heq))
      · rw [List.mem_singleton.mp he]
        exact node?_put_self hend.ne_nil
    · rw [node?_put_of_ne, ih.rest loc fun e he => hloc e (List.mem_append_left _ he)]
      exact hloc (name, text) (List.mem_append_right _ (List.mem_singleton_self _))

/-- Whatever links there are, a report that has been written is there, unless a later one leads to
the same place. -/
theorem Wrote.posted (h : Wrote dir base reports tree) (hstands : base.StandsInDirectory) :
    tree.StandsInDirectory ∧ Posted dir reports tree := by
  induction h with
  | nil => exact ⟨hstands, .nil dir base⟩
  | @write reports name text _ _ _ _ _ hnew hwrite ih =>
    rw [run_writeText] at hwrite
    rcases hwritten : (FileSystem.write (dir.child name) (Text.encode text)).run.run _ with
      ⟨e | _, tree₁⟩ <;> rw [hwritten] at hwrite
    · cases hwrite
    · obtain rfl := (Prod.mk.inj hwrite).2
      obtain ⟨loc, hleads, hfree, rfl⟩ := write_eq_ok hwritten
      have hend := deadEnd_of_trace ih.1 hleads hfree
      exact ⟨ih.1.put hend, ih.2.write hleads hend hnew text⟩

/-! ### The names of reports -/

/-- A number below a hundred is written with two digits. -/
theorem exists_digits_of_lt {i : Nat} (h : i < 100) :
    ∃ a b, (Text.twoDigits i).toList = [a, b] ∧ Text.isDigit a = true ∧ Text.isDigit b = true := by
  have hall : ∀ i : Fin 100, (Text.twoDigits i.val).toList.length = 2 ∧
      (Text.twoDigits i.val).toList.all Text.isDigit = true := by
    decide +kernel
  obtain ⟨hlength, hdigits⟩ := hall ⟨i, h⟩
  obtain ⟨a, b, htext⟩ := List.length_eq_two.mp hlength
  rw [htext, List.all_eq_true] at hdigits
  exact ⟨a, b, htext, hdigits a (by simp), hdigits b (by simp)⟩

/-- The name can be a part of the name of a report. -/
def Plain (name : String) : Prop :=
  name ≠ "" ∧ '/' ∉ name.toList ∧ '\n' ∉ name.toList

instance (name : String) : Decidable (Plain name) :=
  inferInstanceAs (Decidable (_ ∧ _))

theorem isReport_sectionFile {i : Nat} (hi : i < 100) (hname : Plain name) :
    IsReport (sectionFile i name) := by
  obtain ⟨hne, hslash, hbreak⟩ := hname
  obtain ⟨a, b, hdigits, ha, hb⟩ := exists_digits_of_lt hi
  have hlist : (sectionFile i name).toList =
      a :: b :: '-' :: (name.toList ++ ".txt".toList) := by
    rw [sectionFile]
    simp only [String.toList_append, hdigits, List.append_assoc]
    rfl
  -- No line break comes at the end, where it would be overlooked.
  have hends : withoutFinalBreak (sectionFile i name).toList = (sectionFile i name).toList := by
    have hlast : (sectionFile i name).toList.getLast? = some 't' := by
      rw [hlist, show a :: b :: '-' :: (name.toList ++ ".txt".toList) =
        (a :: b :: '-' :: (name.toList ++ ['.', 't', 'x'])) ++ ['t'] by simp]
      exact List.getLast?_concat
    rw [withoutFinalBreak, hlast, if_neg (by decide)]
  have hpos : 0 < name.toList.length :=
    List.length_pos_iff.mpr fun hnil => hne (String.toList_eq_nil_iff.mp hnil)
  have hdigit : Text.isDigit '/' = false := by
    decide +kernel
  constructor
  · rw [isArtifactName, hends, hlist]
    simp [ha, hb, hbreak, hpos]
  · rw [hlist]
    simp only [List.mem_cons, List.mem_append, not_or]
    refine ⟨?_, ?_, by decide, hslash, by decide⟩
    · rintro rfl
      rw [hdigit] at ha
      cases ha
    · rintro rfl
      rw [hdigit] at hb
      cases hb

theorem isReport_of_mem_sectionFiles {index : Nat} {names : List String} {file : String}
    (hcount : index + names.length ≤ 100) (hnames : ∀ name ∈ names, Plain name)
    (hfile : file ∈ sectionFiles index names) : IsReport file := by
  induction names generalizing index with
  | nil => cases hfile
  | cons name rest ih =>
    rw [List.length_cons] at hcount
    rcases List.mem_cons.mp hfile with rfl | hfile
    · exact isReport_sectionFile (by omega) (hnames name List.mem_cons_self)
    · exact ih (by omega) (fun other hother => hnames other (List.mem_cons_of_mem _ hother)) hfile

theorem map_artifact_withArtifacts (index : Nat) (sections : List Section) :
    (withArtifacts index sections).map (·.artifact) =
      sectionFiles index (sections.map (·.name)) := by
  induction sections generalizing index with
  | nil => rfl
  | cons s rest ih => exact congrArg (sectionFile index s.name :: ·) (ih (index + 1))

theorem map_fst_sectionReports (time : String) (known : Descriptions) (index : Nat)
    (sections : List Section) :
    (sectionReports time known index sections).map Prod.fst =
      sectionFiles index (sections.map (·.name)) := by
  rw [sectionReports_eq_map, List.map_map]
  exact map_artifact_withArtifacts index sections

theorem le_fileNumber_of_mem_sectionFiles {index : Nat} {names : List String} {file : String}
    (hfile : file ∈ sectionFiles index names) : index ≤ fileNumber file := by
  induction names generalizing index with
  | nil => cases hfile
  | cons name rest ih =>
    rcases List.mem_cons.mp hfile with rfl | hfile
    · exact Nat.le_of_eq (fileNumber_sectionFile index name).symm
    · exact Nat.le_of_succ_le (ih hfile)

/-- Files for sections have different numbers, and so different names. -/
theorem nodup_sectionFiles (index : Nat) (names : List String) :
    (sectionFiles index names).Nodup := by
  induction names generalizing index with
  | nil => exact List.nodup_nil
  | cons name rest ih =>
    rw [sectionFiles, List.nodup_cons]
    refine ⟨fun hmem => ?_, ih (index + 1)⟩
    have hnumber := le_fileNumber_of_mem_sectionFiles hmem
    rw [fileNumber_sectionFile] at hnumber
    omega

/-- The names of all reports on a summary. -/
def reportNames (s : Summary) : List String :=
  statisticsFile :: summaryFile :: s.sections.map (·.artifact)

/-- The files for sections are numbered from one. -/
theorem fileNumber_of_mem_filedSummary {s : Summary} {file : String}
    (hfile : file ∈ (filedSummary s).sections.map (·.artifact)) : 1 ≤ fileNumber file := by
  rw [filedSummary, map_artifact_withArtifacts] at hfile
  exact le_fileNumber_of_mem_sectionFiles hfile

/-- All reports on a summary have different names. -/
theorem nodup_reportNames (s : Summary) : (reportNames (filedSummary s)).Nodup := by
  refine List.nodup_cons.mpr ⟨fun hmem => ?_, List.nodup_cons.mpr ⟨fun hmem => ?_, ?_⟩⟩
  · rcases List.mem_cons.mp hmem with heq | hmem
    · exact absurd heq (by decide)
    · exact absurd (fileNumber_of_mem_filedSummary hmem) (by decide)
  · exact absurd (fileNumber_of_mem_filedSummary hmem) (by decide)
  · rw [filedSummary, map_artifact_withArtifacts]
    exact nodup_sectionFiles _ _

/-- The summary names all reports but itself. -/
theorem detailFiles_filedSummary (s : Summary) :
    detailFiles (filedSummary s) =
      statisticsFile :: (filedSummary s).sections.map (·.artifact) := by
  refine congrArg (statisticsFile :: ·) (List.filter_eq_self.mpr fun file hfile => ?_)
  have hnumber := fileNumber_of_mem_filedSummary hfile
  rw [Bool.not_eq_true', ← Bool.not_eq_true, String.isEmpty_iff]
  rintro rfl
  exact absurd hnumber (by decide)

/-! ### All reports -/

/-- All reports on a summary, which is itself written at the time `late`. -/
def allReports (time late : String) (known : Descriptions) (s : Summary) :
    List (String × String) :=
  stepReports time known s ++ [(summaryFile, renderSummary late (filedSummary s))]

theorem mem_reportNames_iff {time late : String} {known : Descriptions} {s : Summary} :
    name ∈ reportNames (filedSummary s) ↔ ∃ e ∈ allReports time late known s, e.1 = name := by
  rw [← List.mem_map, allReports, List.map_append, stepReports, List.map_cons,
    map_fst_sectionReports, reportNames, filedSummary, map_artifact_withArtifacts]
  simp only [List.mem_cons, List.mem_append, List.map_cons, List.map_nil, List.not_mem_nil,
    or_false]
  rw [or_assoc, or_comm (b := name = summaryFile)]

/-- What the directory at `d` holds when all reports on the summary are written, `fs` being the
tree before that; the summary is written at the time `late`. -/
structure Contents (dir : Path) (d : Location) (time late : String) (known : Descriptions)
    (s : Summary) (tree fs : FileSystem) : Prop where
  located : tree.locate dir = .ok (d, .directory)
  /-- The reports have different names, which are those of reports. -/
  distinct : (reportNames s).Nodup
  /-- They are the files with names of reports. -/
  exact : ∀ name, isArtifactName name = true →
    ((∃ bytes, tree.node? (d ++ [name]) = some (.file bytes)) ↔ name ∈ reportNames s)
  named : ∀ name ∈ reportNames s, isArtifactName name = true
  statistics : tree.node? (d ++ [statisticsFile]) =
    some (.file (Text.encode (renderStatistics time s)))
  summary : tree.node? (d ++ [summaryFile]) = some (.file (Text.encode (renderSummary late s)))
  sections : ∀ made ∈ s.sections, tree.node? (d ++ [made.artifact]) =
    some (.file (Text.encode (renderSection time made ((known.lookup made.name).getD ""))))
  /-- The summary names all of them but itself. -/
  details : ∃ before after, renderSummary late s =
    before ++ textOf (banner "DETAILED REPORTS" ++ statisticsFile :: s.sections.map (·.artifact)) ++
      textOf (banner "RECOMMENDATIONS" ++ after)
  /-- Whatever is no file with the name of a report is as it was. -/
  kept : ∀ loc node, fs.node? loc = some node →
    (∀ name, isArtifactName name = true → loc ≠ d ++ [name]) ∨ node = .directory →
      tree.node? loc = some node
  /-- Nothing is new but the reports, and directories on the way to them. -/
  new : ∀ loc node, tree.node? loc = some node →
    fs.node? loc = some node ∨ node = .directory ∨ ∃ name ∈ reportNames s, loc = d ++ [name]

/-- What stands in a directory that was cleared and then written to. -/
theorem contents_of_filed {time late : String} {known : Descriptions} {s : Summary}
    (hcleared : Cleared dir d base fs)
    (hnames : ∀ file ∈ sectionFiles 1 (s.sections.map (·.name)), IsReport file)
    (h : Filed d (allReports time late known s) tree base) :
    Contents dir d time late known (filedSummary s) tree fs := by
  have hnamed : ∀ name ∈ reportNames (filedSummary s), isArtifactName name = true := by
    intro name hname
    rcases List.mem_cons.mp hname with rfl | hname
    · exact isReport_statisticsFile.1
    · rcases List.mem_cons.mp hname with rfl | hname
      · exact isReport_summaryFile.1
      · rw [filedSummary, map_artifact_withArtifacts] at hname
        exact (hnames name hname).1
  -- Where no report has been written, the tree is as it was.
  have helsewhere : ∀ loc, (∀ name ∈ reportNames (filedSummary s), loc ≠ d ++ [name]) →
      tree.node? loc = base.node? loc := by
    intro loc hloc
    exact h.rest loc fun e he => hloc e.1 (mem_reportNames_iff.mpr ⟨e, he, rfl⟩)
  have hstatistics : (statisticsFile, renderStatistics time s) ∈ allReports time late known s :=
    List.mem_append_left _ List.mem_cons_self
  have hsummary : (summaryFile, renderSummary late (filedSummary s)) ∈
      allReports time late known s :=
    List.mem_append_right _ (List.mem_singleton_self _)
  refine ⟨h.ways.locate_directory_iff.mpr hcleared.located, nodup_reportNames s, ?exact, hnamed,
    h.file _ hstatistics, h.file _ hsummary, ?made, ?details, ?kept, ?new⟩
  case exact =>
    intro name hname
    constructor
    · rintro ⟨bytes, hnode⟩
      -- A file with such a name that is no report would have been cleared away.
      apply Classical.byContradiction
      intro hnot
      rw [helsewhere] at hnode
      · exact hcleared.free name hname bytes hnode
      · rintro other hother heq
        rw [List.singleton_inj.mp (List.append_cancel_left heq)] at hnot
        exact hnot hother
    · intro hmem
      obtain ⟨e, he, rfl⟩ := mem_reportNames_iff.mp hmem
      exact ⟨_, h.file e he⟩
  case made =>
    intro made hmade
    refine h.file (made.artifact, _) (List.mem_append_left _ (List.mem_cons_of_mem _ ?_))
    rw [sectionReports_eq_map]
    exact List.mem_map.mpr ⟨made, hmade, rfl⟩
  case details =>
    obtain ⟨before, after, heq⟩ := exists_detailFiles late (filedSummary s)
    rw [detailFiles_filedSummary] at heq
    exact ⟨before, after, heq⟩
  case kept =>
    intro loc node hnode hside
    have hbase := hcleared.kept loc node hnode hside
    rcases hside with hfree | rfl
    · rw [helsewhere loc fun name hname => hfree name (hnamed name hname), hbase]
    · exact (h.ways.directory loc).mpr hbase
  case new =>
    intro loc node hnode
    by_cases hloc : ∃ name ∈ reportNames (filedSummary s), loc = d ++ [name]
    · exact .inr (.inr hloc)
    · rw [helsewhere loc fun name hname heq => hloc ⟨name, hname, heq⟩] at hnode
      exact (hcleared.new loc node hnode).imp_right .inl

/-- The summary is none of the reports that are written before it. -/
theorem ne_summaryFile_of_mem_stepReports {time : String} {known : Descriptions} {s : Summary}
    {e : String × String} (he : e ∈ stepReports time known s) : e.1 ≠ summaryFile := by
  intro heq
  rcases List.mem_cons.mp he with rfl | he
  · have hdifferent : statisticsFile ≠ summaryFile := by
      decide
    exact hdifferent heq
  · have hnumber := (fileNumber_of_mem_sectionReports he).1
    rw [heq, fileNumber_summaryFile] at hnumber
    omega

/-- The summary is written after the others. -/
theorem wrote_of_written {time late : String} {known : Descriptions} {s s' : Summary}
    {tree₂ tree₃ : FileSystem} {paths : List Path} {path : Path}
    (hnames : ∀ file ∈ sectionFiles 1 (s.sections.map (·.name)), IsReport file)
    (hsections : (writeSections time dir known s).run base = ((.ok paths, s'), tree₂))
    (hsummary : (writeSummary late dir s').run.run tree₂ = (.ok path, tree₃)) :
    s' = filedSummary s ∧ Wrote dir base (allReports time late known s) tree₃ := by
  obtain ⟨rfl, hwrote⟩ := wrote_of_writeSections hnames hsections
  exact ⟨rfl, hwrote.write isReport_summaryFile
    (fun e he => ne_summaryFile_of_mem_stepReports he) hsummary⟩

/-- All reports are filed when the summary has been written after the others. -/
theorem filed_of_written {time late : String} {known : Descriptions} {s s' : Summary}
    {tree₂ tree₃ : FileSystem} {paths : List Path} {path : Path}
    (hdir : base.locate dir = .ok (d, .directory)) (hlinks : Unlinked d base)
    (hnames : ∀ file ∈ sectionFiles 1 (s.sections.map (·.name)), IsReport file)
    (hsections : (writeSections time dir known s).run base = ((.ok paths, s'), tree₂))
    (hsummary : (writeSummary late dir s').run.run tree₂ = (.ok path, tree₃)) :
    s' = filedSummary s ∧ Filed d (allReports time late known s) tree₃ base := by
  obtain ⟨rfl, hwrote⟩ := wrote_of_written hnames hsections hsummary
  exact ⟨rfl, hwrote.filed hdir hlinks⟩

/-- **The reports are what the directory holds.** -/
theorem contents_of_written {time late : String} {known : Descriptions} {s s' : Summary}
    {tree₁ tree₂ tree₃ : FileSystem} {paths : List Path} {path : Path}
    (hcount : s.sections.length ≤ 99) (hnames : ∀ made ∈ s.sections, Plain made.name)
    (hlinks : ∀ loc, Reserved dir fs loc → ∀ target, fs.node? loc ≠ some (.link target))
    (hprepare : (prepare dir).run.run fs = (.ok (), tree₁))
    (hsections : (writeSections time dir known s).run tree₁ = ((.ok paths, s'), tree₂))
    (hsummary : (writeSummary late dir s').run.run tree₂ = (.ok path, tree₃)) :
    s' = filedSummary s ∧ ∃ d, Contents dir d time late known s' tree₃ fs := by
  obtain ⟨d, hcleared⟩ := exists_cleared hlinks hprepare
  have hfiles : ∀ file ∈ sectionFiles 1 (s.sections.map (·.name)), IsReport file := by
    intro file hfile
    refine isReport_of_mem_sectionFiles ?_ ?_ hfile
    · rw [List.length_map]
      omega
    · intro name hname
      obtain ⟨made, hmade, rfl⟩ := List.mem_map.mp hname
      exact hnames made hmade
  obtain ⟨rfl, hfiled⟩ :=
    filed_of_written hcleared.located hcleared.unlinked hfiles hsections hsummary
  exact ⟨rfl, d, contents_of_filed hcleared hfiles hfiled⟩

/-! ### A directory that was used before -/

/-- A directory that holds a report of another run, under a number that is taken again, and a file
and a directory of someone else. -/
def usedTree : FileSystem where
  entries := [(["out"], .directory), (["out", "01-old.txt"], .file [111]),
    (["out", "notes.txt"], .file [110]), (["out", "02-more"], .directory)]
  cwd := []
  homes := []

def usedDirectory : Path := ⟨"/", ["out"]⟩

/-- Two sections, the second of which has a name that could be taken for that of a file. -/
def usedSummary : Summary where
  target := ⟨⟨"/", ["p"]⟩, "p"⟩
  profile := "minimal"
  sections := [.ofFailure "first" "First" .critical "refused",
    .ofOutput "00-SUMMARY.txt" "Second" "done" 0]

/-- The tree after the directory has been prepared. -/
def usedPrepared : FileSystem := ((prepare usedDirectory).run.run usedTree).2

/-- What comes of writing the sections. -/
def usedWritten : (Except OsError (List Path) × Summary) × FileSystem :=
  (writeSections "then" usedDirectory [] usedSummary).run usedPrepared

/-- What comes of writing the summary. -/
def usedFinal : Except OsError Path × FileSystem :=
  (writeSummary "now" usedDirectory usedWritten.1.2).run.run usedWritten.2

theorem contents_of_written_used :
    ∃ d, Contents usedDirectory d "then" "now" [] (filedSummary usedSummary) usedFinal.2
      usedTree := by
  -- There is no link at all.
  have hlinks : ∀ loc, Reserved usedDirectory usedTree loc →
      ∀ target, usedTree.node? loc ≠ some (.link target) := by
    have hnone : ∀ e ∈ usedTree.entries, e.2.isLink = false := by
      decide
    intro loc _ target hlink
    cases hnone _ (mem_entries_of_node? (node?_link_ne_nil hlink) hlink)
  have hprepared : ((prepare usedDirectory).run.run usedTree).1.toOption.isSome = true := by
    decide +kernel
  have hsections : usedWritten.1.1.toOption.isSome = true := by
    decide +kernel
  have hsummary : usedFinal.1.toOption.isSome = true := by
    decide +kernel
  rcases h₁ : (prepare usedDirectory).run.run usedTree with ⟨e | _, tree₁⟩ <;>
    rw [h₁] at hprepared
  · cases hprepared
  · rcases h₂ : usedWritten with ⟨⟨e | paths, s'⟩, tree₂⟩ <;> rw [h₂] at hsections
    · cases hsections
    · rcases h₃ : usedFinal with ⟨e | path, tree₃⟩ <;> rw [h₃] at hsummary
      · cases hsummary
      · have hfirst : usedPrepared = tree₁ := congrArg Prod.snd h₁
        rw [usedWritten, hfirst] at h₂
        rw [usedFinal, usedWritten, hfirst, h₂] at h₃
        obtain ⟨rfl, hcontents⟩ := contents_of_written (by decide) (by decide) hlinks h₁ h₂ h₃
        exact hcontents

end PluginSweep.Report
