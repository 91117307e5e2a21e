/-
PluginSweep/Proofs/Report/Again.lean

The same reports once more.  A directory that has been prepared is in order: no entry of
it has a path that is too long, since all of them have been looked at (`Orderly`).
Reports that are written leave it in order, so it can be prepared again
(`prepare_of_orderly`), and what could be written the first time can be written the second
time.

What is removed then are the reports, and they are written as they were.  So in the end
every place of the tree holds what it held before (`written_again`).
-/
import PluginSweep.Proofs.FileSystem.Grounded
import PluginSweep.Proofs.Report.Contents

namespace PluginSweep.Report

open FileSystem

variable {dir : Path} {d : Location} {fs fs' tree base : FileSystem} {name : String}
  {names : List String} {time late : String} {known : Descriptions} {s s' : Summary}

/-! ### Entries in order -/

/-- No entry of the directory at `d` is a link, or has a path that is too long. -/
structure Orderly (dir : Path) (d : Location) (fs : FileSystem) : Prop where
  noLink : ∀ name target, fs.node? (d ++ [name]) ≠ some (.link target)
  short : ∀ name node, fs.node? (d ++ [name]) = some node → ¬ TooLong dir name

theorem Orderly.unlinked (h : Orderly dir d fs) : Unlinked d fs :=
  fun name _ target => h.noLink name target

/-- Whether a path is too long can be told from the name. -/
theorem locate_entryPath_tooLong_iff (hdir : fs.locate dir = .ok (d, .directory))
    (hname : Proper name) (hlink : ∀ target, fs.node? (d ++ [name]) ≠ some (.link target)) :
    fs.locate (entryPath dir name) = .error .nameTooLong ↔ TooLong dir name := by
  have htrace : fs.trace .target (entryPath dir name) =
      if TooLong dir name then .error .nameTooLong else .ok (d ++ [name]) :=
    trace_concat hdir hname hlink
  rw [locate, htrace]
  by_cases hlong : TooLong dir name
  · simp [hlong]
  · rw [if_neg hlong]
    dsimp only
    rcases fs.node? (d ++ [name]) with - | node <;> simp [hlong]

/-- The file of a report that is looked at is removed if its path is short enough. -/
theorem run_unlink_of_isFile (hdir : fs.locate dir = .ok (d, .directory)) (hlinks : Unlinked d fs)
    (hname : isArtifactName name = true) (hfile : fs.isFile (entryPath dir name) = true) :
    (unlink (entryPath dir name)).run.run fs = (.ok (), fs.remove (d ++ [name])) ∧
      SameWays (fs.remove (d ++ [name])) fs := by
  obtain ⟨hshort, bytes, hnode⟩ := (isFile_entryPath_iff hdir hlinks hname).mp hfile
  refine ⟨?_, sameWays_remove hnode⟩
  rw [run_unlink, trace_entryPath hdir hlinks hname, if_neg hshort]
  dsimp only
  rw [hnode]

theorem noLink_of_sameWays (hlinks : ∀ name target, fs.node? (d ++ [name]) ≠ some (.link target))
    (hways : SameWays fs' fs) (name target : String) :
    fs'.node? (d ++ [name]) ≠ some (.link target) :=
  fun hlink => hlinks name target ((hways.link _ _).mp hlink)

/-- Reports are removed from among names that are short enough. -/
theorem run_removeReports_of_short (hdir : fs.locate dir = .ok (d, .directory))
    (hlinks : ∀ name target, fs.node? (d ++ [name]) ≠ some (.link target))
    (hnames : ∀ name ∈ names, Proper name ∧ ¬ TooLong dir name) :
    ((removeReports dir names).run.run fs).1 = .ok () := by
  induction names generalizing fs with
  | nil => rfl
  | cons name rest ih =>
    obtain ⟨hproper, hshort⟩ := hnames name List.mem_cons_self
    have hrest := fun name hname => hnames name (List.mem_cons_of_mem _ hname)
    rw [run_removeReports_cons
      (mt (locate_entryPath_tooLong_iff hdir hproper (hlinks name)).mp hshort)]
    split
    · rename_i hdue
      obtain ⟨hfile, hname⟩ := Bool.and_eq_true_iff.mp hdue
      obtain ⟨hunlink, hways⟩ :=
        run_unlink_of_isFile hdir (fun name _ => hlinks name) hname hfile
      rw [run_bind, hunlink]
      exact ih (hways.locate_directory_iff.mpr hdir) (noLink_of_sameWays hlinks hways) hrest
    · exact ih hdir hlinks hrest

/-- Where reports have been removed from among names, all of them are short enough. -/
theorem short_of_run_removeReports (hdir : fs.locate dir = .ok (d, .directory))
    (hlinks : ∀ name target, fs.node? (d ++ [name]) ≠ some (.link target))
    (h : ((removeReports dir names).run.run fs).1 = .ok ()) :
    ∀ name ∈ names, Proper name → ¬ TooLong dir name := by
  induction names generalizing fs with
  | nil => exact fun name hname => by cases hname
  | cons first rest ih =>
    by_cases hover : fs.locate (entryPath dir first) = .error .nameTooLong
    · rw [run_removeReports_cons_of_long hover] at h
      cases h
    · -- Whether or not the first file is removed, the names of the others lead where they led.
      have hrest : ∀ name ∈ rest, Proper name → ¬ TooLong dir name := by
        rw [run_removeReports_cons hover] at h
        split at h
        · rename_i hdue
          obtain ⟨hfile, hname⟩ := Bool.and_eq_true_iff.mp hdue
          obtain ⟨hunlink, hways⟩ :=
            run_unlink_of_isFile hdir (fun name _ => hlinks name) hname hfile
          rw [run_bind, hunlink] at h
          exact ih (hways.locate_directory_iff.mpr hdir) (noLink_of_sameWays hlinks hways) h
        · exact ih hdir hlinks h
      intro name hname hproper
      rcases List.mem_cons.mp hname with rfl | hname
      · exact mt (locate_entryPath_tooLong_iff hdir hproper (hlinks name)).mpr hover
      · exact hrest name hname hproper

/-! ### Preparing again -/

/-- There is no link right in the directory, once that is made. -/
def LinkFree (dir : Path) (fs : FileSystem) : Prop :=
  ∀ made d name target, (ensurePath dir).run.run fs = (.ok (), made) →
    made.locate dir = .ok (d, .directory) → fs.node? (d ++ [name]) ≠ some (.link target)

theorem LinkFree.reserved (h : LinkFree dir fs) {loc : Location} (hloc : Reserved dir fs loc)
    (target : String) : fs.node? loc ≠ some (.link target) := by
  obtain ⟨made, d, name, hmade, hdir, -, rfl⟩ := hloc
  exact h made d name target hmade hdir

/-- A directory is in order when it has been prepared. -/
theorem orderly_of_prepare (hfs : fs.Grounded) (hfree : LinkFree dir fs)
    (h : (prepare dir).run.run fs = (.ok (), tree)) (hdir : tree.locate dir = .ok (d, .directory)) :
    Orderly dir d tree := by
  obtain ⟨made, d', hmade, hdir', hremoved⟩ := exists_made_of_prepare h
  have hgrounded := keeps_ensurePath (p := dir) grounded_makeDirectory fs hfs
  rw [hmade] at hgrounded
  have hsheds := (run_removeReports dir (made.namesIn d') made).1
  rw [hremoved] at hsheds
  obtain ⟨rfl, -⟩ := Prod.mk.inj (Except.ok.inj (hdir'.symm.trans (hsheds.locate hdir)))
  have hlinks : ∀ name target, made.node? (d' ++ [name]) ≠ some (.link target) := by
    intro name target hlink
    rcases (run_ensurePath hmade).new _ _ hlink with hlink | hlink
    · exact hfree made d' name target hmade hdir' hlink
    · cases hlink
  refine ⟨fun name target hlink => hlinks name target (hsheds.old _ _ hlink), ?_⟩
  intro name node hnode
  have hold := hsheds.old _ _ hnode
  exact short_of_run_removeReports hdir' hlinks (congrArg Prod.fst hremoved) name
    (hgrounded.mem_namesIn_iff.mpr ⟨node, hold⟩) (hgrounded.proper_of_node? hold)

/-- No entry that was in the directory is a link. -/
theorem LinkFree.noLink (hfree : LinkFree dir fs) (h : (prepare dir).run.run fs = (.ok (), tree))
    (hdir : tree.locate dir = .ok (d, .directory)) (name target : String) :
    fs.node? (d ++ [name]) ≠ some (.link target) := by
  obtain ⟨made, d', hmade, hdir', hremoved⟩ := exists_made_of_prepare h
  have hsheds := (run_removeReports dir (made.namesIn d') made).1
  rw [hremoved] at hsheds
  obtain ⟨rfl, -⟩ := Prod.mk.inj (Except.ok.inj (hdir'.symm.trans (hsheds.locate hdir)))
  exact hfree made d' name target hmade hdir'

/-- **A directory in order can be prepared again.**  Nothing is made then, and nothing is removed
but reports. -/
theorem prepare_of_orderly (htree : tree.Grounded) (hdir : tree.locate dir = .ok (d, .directory))
    (h : Orderly dir d tree) :
    ∃ base, (prepare dir).run.run tree = (.ok (), base) ∧ SameWays base tree ∧
      Sheds dir base tree := by
  have hlist : tree.list dir = .ok (tree.namesIn d) := by
    rw [list, hdir]
  have hnames : ∀ name ∈ tree.namesIn d, Proper name ∧ ¬ TooLong dir name := by
    intro name hname
    obtain ⟨node, hnode⟩ := htree.mem_namesIn_iff.mp hname
    exact ⟨htree.proper_of_node? hnode, h.short name node hnode⟩
  have hremoved := run_removeReports_of_short hdir h.noLink hnames
  have hrun : (removeReports dir (tree.namesIn d)).run.run tree =
      (.ok (), ((removeReports dir (tree.namesIn d)).run.run tree).2) := Prod.ext hremoved rfl
  refine ⟨_, ?_, (run_removeReports_eq_ok hdir h.unlinked hrun).1, (run_removeReports _ _ _).1⟩
  rw [prepare_eq, run_bind, run_ensurePath_of_directory hdir]
  dsimp only
  rw [run_bind, run_listing, hlist]
  exact hrun

/-! ### What can be written -/

/-- A report of the name can be written into the directory. -/
def Fits (dir : Path) (name : String) : Prop :=
  admits (dir.child name) = true ∧ ¬ TooLong dir name

theorem fits_of_writeText {text : String} {path : Path}
    (hdir : tree.locate dir = .ok (d, .directory)) (hlinks : Unlinked d tree)
    (hname : IsReport name) (h : (writeText dir name text).run.run tree = (.ok path, fs')) :
    Fits dir name := by
  rw [run_writeText, run_write] at h
  by_cases hadmits : admits (dir.child name) = true
  · refine ⟨hadmits, fun hlong => ?_⟩
    rw [if_pos hadmits, hname.child, trace_entryPath hdir hlinks hname.1, if_pos hlong] at h
    cases h
  · rw [if_neg hadmits] at h
    cases h

/-- All reports that have been written can be. -/
theorem fits_of_wrote {reports : List (String × String)} (h : Wrote dir base reports tree)
    (hdir : base.locate dir = .ok (d, .directory)) (hlinks : Unlinked d base) :
    ∀ e ∈ reports, Fits dir e.1 := by
  induction h with
  | nil => exact fun e he => by cases he
  | @write reports name text _ _ _ hbefore hname _ hwrite ih =>
    intro e he
    rcases List.mem_append.mp he with he | he
    · exact ih e he
    · have hways := (hbefore.filed hdir hlinks).ways
      rw [List.mem_singleton.mp he]
      exact fits_of_writeText (hways.locate_directory_iff.mpr hdir) (hlinks.of_sameWays hways)
        hname hwrite

/-! ### Writing again -/

/-- The reports on the summary `s` have been written into the directory, after it was prepared, and
the summary was `s'` when it was written itself. -/
def Produces (time late : String) (dir : Path) (known : Descriptions) (s s' : Summary)
    (fs tree : FileSystem) : Prop :=
  ∃ base mid paths path, (prepare dir).run.run fs = (.ok (), base) ∧
    (writeSections time dir known s).run base = ((.ok paths, s'), mid) ∧
    (writeSummary late dir s').run.run mid = (.ok path, tree)

/-- What single changes keep, writing all reports keeps. -/
theorem Produces.keeps {I : FileSystem → Prop} (hmake : ∀ p, Keeps I (makeDirectory p))
    (hunlink : ∀ p, Keeps I (unlink p)) (hwrite : ∀ p bytes, Keeps I (write p bytes))
    (h : Produces time late dir known s s' fs tree) (hfs : I fs) : I tree := by
  obtain ⟨base, mid, paths, path, hprepare, hsections, hsummary⟩ := h
  have hreport : ∀ name text, Keeps I (writeText dir name text) :=
    fun name text => (hwrite _ _).bind fun _ => keeps_pure _
  have hprepared : Keeps I (prepare dir) := keeps_prepare hmake hunlink
  have hbase := hprepared fs hfs
  rw [hprepare] at hbase
  have hmid : I ((writeSections time dir known s).run base).2 :=
    keeps_writeSections time known (hreport _) (fun file _ => hreport file) hbase
  rw [hsections] at hmid
  have htree := hreport summaryFile (renderSummary late s') mid hmid
  rwa [show (writeText dir summaryFile (renderSummary late s')).run.run mid = (.ok path, tree)
    from hsummary] at htree

/-- The reports have been written into the directory at `d`, over the tree `base` in which that was
prepared. -/
structure Produced (dir : Path) (d : Location) (reports : List (String × String))
    (tree base fs : FileSystem) : Prop where
  noLink : ∀ name target, fs.node? (d ++ [name]) ≠ some (.link target)
  cleared : Cleared dir d base fs
  orderly : Orderly dir d base
  filed : Filed d reports tree base
  fits : ∀ e ∈ reports, Fits dir e.1
  grounded : tree.Grounded

theorem Produces.produced (hfs : fs.Grounded) (hfree : LinkFree dir fs)
    (hnames : ∀ file ∈ sectionFiles 1 (s.sections.map (·.name)), IsReport file)
    (h : Produces time late dir known s s' fs tree) :
    s' = filedSummary s ∧ ∃ d base, Produced dir d (allReports time late known s) tree base fs := by
  have htree := h.keeps grounded_makeDirectory grounded_unlink grounded_write hfs
  obtain ⟨base, mid, paths, path, hprepare, hsections, hsummary⟩ := h
  obtain ⟨d, hcleared⟩ := exists_cleared (fun loc hloc => hfree.reserved hloc) hprepare
  have hdir := hcleared.located
  obtain ⟨hs', hwrote⟩ := wrote_of_written hnames hsections hsummary
  exact ⟨hs', d, base, hfree.noLink hprepare hdir, hcleared,
    orderly_of_prepare hfs hfree hprepare hdir, hwrote.filed hdir hcleared.unlinked,
    fits_of_wrote hwrote hdir hcleared.unlinked, htree⟩

theorem Produced.orderly_tree {reports : List (String × String)}
    (h : Produced dir d reports tree base fs) : Orderly dir d tree where
  noLink := noLink_of_sameWays h.orderly.noLink h.filed.ways
  short := by
    intro name node hnode
    by_cases hreport : ∃ e ∈ reports, e.1 = name
    · obtain ⟨e, he, rfl⟩ := hreport
      exact (h.fits e he).2
    · refine h.orderly.short name node ?_
      rw [← h.filed.rest, hnode]
      intro e he heq
      exact hreport ⟨e, he, (List.singleton_inj.mp (List.append_cancel_left heq)).symm⟩

theorem isReport_of_mem_allReports
    (hnames : ∀ file ∈ sectionFiles 1 (s.sections.map (·.name)), IsReport file)
    {e : String × String} (he : e ∈ allReports time late known s) : IsReport e.1 := by
  rcases List.mem_append.mp he with he | he
  · rcases List.mem_cons.mp he with rfl | he
    · exact isReport_statisticsFile
    · refine hnames e.1 ?_
      rw [← map_fst_sectionReports time known]
      exact List.mem_map_of_mem he
  · rw [List.mem_singleton.mp he]
    exact isReport_summaryFile

/-- There is room for all reports where none of them but a file of its name has been. -/
theorem writable_of_fits {names : List String} (hdir : base.locate dir = .ok (d, .directory))
    (hlinks : Unlinked d base) (hnames : ∀ name ∈ names, IsReport name)
    (hfits : ∀ name ∈ names, Fits dir name) (hend : ∀ name ∈ names, base.DeadEnd (d ++ [name])) :
    Writable dir (fun name => d ++ [name]) names base where
  admitted := fun name hname => (hfits name hname).1
  leads := by
    intro name hname
    rw [(hnames name hname).child, trace_entryPath hdir hlinks (hnames name hname).1,
      if_neg (hfits name hname).2]
  deadEnd := hend

/-- Where there is room for them, all reports are written. -/
theorem exists_written (hwritable : Writable dir (fun name => d ++ [name])
    ((allReports time late known s).map Prod.fst) base) :
    ∃ mid tree paths path,
      (writeSections time dir known s).run base = ((.ok paths, filedSummary s), mid) ∧
      (writeSummary late dir (filedSummary s)).run.run mid = (.ok path, tree) := by
  have hsections : ∀ file ∈ sectionFiles 1 (s.sections.map (·.name)),
      file ∈ (allReports time late known s).map Prod.fst := by
    intro file hfile
    rw [← map_fst_sectionReports time known] at hfile
    rw [allReports, List.map_append, stepReports]
    exact List.mem_append_left _ (List.mem_cons_of_mem _ hfile)
  have hroom : summaryFile ∈ (allReports time late known s).map Prod.fst := by
    rw [allReports, List.map_append]
    exact List.mem_append_right _ List.mem_cons_self
  obtain ⟨paths, mid, hrun, hwritten⟩ :=
    Written.all hwritable time known List.mem_cons_self hsections
  obtain ⟨tree, hlast, -⟩ := hwritten.write hroom
    (fun e he => ne_summaryFile_of_mem_stepReports he) (renderSummary late (filedSummary s))
  exact ⟨mid, tree, paths, _, hrun, hlast⟩

/-- **The same reports can be written once more**, and then every place of the tree holds what it
held before. -/
theorem written_again (hfs : fs.Grounded) (hfree : LinkFree dir fs)
    (hnames : ∀ file ∈ sectionFiles 1 (s.sections.map (·.name)), IsReport file)
    (h : Produces time late dir known s s' fs tree) :
    ∃ tree', Produces time late dir known s s' tree tree' ∧
      ∀ loc, tree'.node? loc = tree.node? loc := by
  obtain ⟨rfl, d, base, hproduced⟩ := h.produced hfs hfree hnames
  have hdir := hproduced.filed.ways.locate_directory_iff.mpr hproduced.cleared.located
  have horderly := hproduced.orderly_tree
  obtain ⟨base', hprepare, hways, hsheds⟩ :=
    prepare_of_orderly hproduced.grounded hdir horderly
  have hdir' := hways.locate_directory_iff.mpr hdir
  have hlinks' := horderly.unlinked.of_sameWays hways
  -- The directory is as it was when the reports were first written, but for the reports.
  have hwritable : Writable dir (fun name => d ++ [name])
      ((allReports time late known s).map Prod.fst) base' := by
    refine writable_of_fits hdir' hlinks' ?_ ?_ ?_ <;> intro name hname <;>
      obtain ⟨e, he, rfl⟩ := List.mem_map.mp hname
    · exact isReport_of_mem_allReports hnames he
    · exact hproduced.fits e he
    · -- If there is something, it is the report that was there.
      intro node hnode
      have hold := hsheds.old _ _ hnode
      rw [hproduced.filed.file e he] at hold
      exact ⟨_, (Option.some.inj hold).symm⟩
  obtain ⟨mid, tree', paths, path, hsections, hsummary⟩ := exists_written hwritable
  refine ⟨tree', ⟨base', mid, paths, path, hprepare, hsections, hsummary⟩, fun loc => ?_⟩
  have hfiled := (filed_of_written hdir' hlinks' hnames hsections hsummary).2
  -- A report is written as it was, and all else is left.
  by_cases hreport : ∃ e ∈ allReports time late known s, loc = d ++ [e.1]
  · obtain ⟨e, he, rfl⟩ := hreport
    rw [hfiled.file e he, hproduced.filed.file e he]
  · have hnot : ∀ e ∈ allReports time late known s, loc ≠ d ++ [e.1] :=
      fun e he heq => hreport ⟨e, he, heq⟩
    rw [hfiled.rest loc hnot]
    rcases hnode : tree.node? loc with - | node
    · refine Option.eq_none_iff_forall_ne_some.mpr fun node hnew => ?_
      rw [hsheds.old _ _ hnew] at hnode
      cases hnode
    · by_cases hname : ∃ name, isArtifactName name = true ∧ loc = d ++ [name]
      · -- It is no file, since the directory was cleared of those before the reports.
        obtain ⟨name, hname, rfl⟩ := hname
        have hbase := hproduced.filed.rest _ hnot
        rw [hnode] at hbase
        cases node with
        | file bytes => exact absurd hbase.symm (hproduced.cleared.free name hname bytes)
        | directory => exact (hways.directory _).mpr hnode
        | link target => exact absurd hnode (horderly.noLink name target)
      · -- It has not the name of a report, and is not removed.
        refine hsheds.kept loc node hnode fun d' name hlocated hartifact heq => hname ?_
        obtain ⟨rfl, -⟩ := Prod.mk.inj (Except.ok.inj (hlocated.symm.trans hdir))
        exact ⟨name, hartifact, heq⟩

end PluginSweep.Report
