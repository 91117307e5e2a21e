/-
PluginSweep/Proofs/Report/Writing.lean

Writing all reports of a run.  Where every report leads to a place with at most a file
in it (`Writable`), writing one succeeds and leaves the others writable, so that all of
them are written (`Written.all`).

Reports that have been written one after the other are there in the end, each of them
unless a later one was written to the same place (`Posted`).  Only links can make two
reports lead to one place.  Where none do (`Ready`), all of them can be read
(`Written.read`), and the last one can be read in any case (`Posted.read_last`).

The reports on sections are told apart by the numbers with which the names of their
files start (`fileNumber_sectionFile`): what has been written before has smaller
numbers.  That carries the induction over the sections (`Written.sections`); the
statistics and the summary have the number zero.
-/
import PluginSweep.Proofs.FileSystem.Thinning
import PluginSweep.Proofs.Report.Summary

namespace PluginSweep.Report

variable {dir : Path} {place : String → Location} {names : List String} {tree : FileSystem}
  {reports : List (String × String)} {name text : String} {loc : Location}

/-! ### Places for reports -/

/-- Reports of these names can be written into the directory: each leads to a place where there is
at most a file. -/
structure Writable (dir : Path) (place : String → Location) (names : List String)
    (tree : FileSystem) : Prop where
  admitted : ∀ name ∈ names, FileSystem.admits (dir.child name) = true
  leads : ∀ name ∈ names, tree.trace .file (dir.child name) = .ok (place name)
  deadEnd : ∀ name ∈ names, tree.DeadEnd (place name)

/-- They can be written side by side: each has a place of its own. -/
structure Ready (dir : Path) (place : String → Location) (names : List String)
    (tree : FileSystem) : Prop extends Writable dir place names tree where
  apart : ∀ name ∈ names, ∀ other ∈ names, place name = place other → name = other

theorem Writable.put (h : Writable dir place names tree) (hend : tree.DeadEnd loc)
    (bytes : List UInt8) : Writable dir place names (tree.put loc (.file bytes)) where
  admitted := h.admitted
  leads := fun other hother => FileSystem.trace_put_of_deadEnd hend (h.leads other hother)
  deadEnd := fun other hother => hend.put (h.deadEnd other hother)

/-- A report that can be written is put at its place. -/
theorem Writable.run_writeText (h : Writable dir place names tree) (hname : name ∈ names)
    (text : String) : (writeText dir name text).run.run tree =
      (.ok (dir.child name), tree.put (place name) (.file (Text.encode text))) := by
  rw [Report.run_writeText, FileSystem.write_of_deadEnd (h.admitted name hname)
    (h.leads name hname) (h.deadEnd name hname)]
  rfl

/-! ### Reports that have been written -/

/-- Reports, each of them a name and a text, that have been written one after the other: each leads
to a place, and is there unless a later one leads to the same place. -/
structure Posted (dir : Path) (reports : List (String × String)) (tree : FileSystem) : Prop where
  once : (reports.map Prod.fst).Nodup
  leads : ∀ e ∈ reports, ∃ loc, tree.trace .file (dir.child e.1) = .ok loc
  last : ∀ {earlier e later loc}, reports = earlier ++ e :: later →
    tree.trace .file (dir.child e.1) = .ok loc →
    (∀ other ∈ later, tree.trace .file (dir.child other.1) ≠ .ok loc) →
      tree.node? loc = some (.file (Text.encode e.2))

theorem Posted.nil (dir : Path) (tree : FileSystem) : Posted dir [] tree where
  once := List.nodup_nil
  leads := fun e he => by cases he
  last := fun heq => by cases List.append_ne_nil_of_right_ne_nil _ (List.cons_ne_nil _ _) heq.symm

/-- **One more report is written**, under a new name: it is there, and those are left that have a
place of their own. -/
theorem Posted.write (h : Posted dir reports tree)
    (hleads : tree.trace .file (dir.child name) = .ok loc) (hend : tree.DeadEnd loc)
    (hnew : ∀ e ∈ reports, e.1 ≠ name) (text : String) :
    Posted dir (reports ++ [(name, text)]) (tree.put loc (.file (Text.encode text))) := by
  have hways := FileSystem.sameWays_put hend (Text.encode text)
  refine ⟨?_, fun e he => ?_, ?_⟩
  · rw [List.map_append, List.nodup_append]
    refine ⟨h.once, List.pairwise_singleton _ _, fun first hfirst other hother => ?_⟩
    obtain ⟨e, he, rfl⟩ := List.mem_map.mp hfirst
    rw [List.mem_singleton.mp hother]
    exact hnew e he
  · rcases List.mem_append.mp he with he | he
    · obtain ⟨there, hthere⟩ := h.leads e he
      exact ⟨there, hways.trace_iff.mpr hthere⟩
    · rw [List.mem_singleton.mp he]
      exact ⟨loc, hways.trace_iff.mpr hleads⟩
  · intro earlier e later there heq hthere hlater
    rw [hways.trace_iff] at hthere
    rcases List.eq_nil_or_concat later with rfl | ⟨before, newest, rfl⟩
    · -- It is the new report itself.
      obtain ⟨-, hnewest⟩ := List.append_inj' heq rfl
      obtain rfl := List.singleton_inj.mp hnewest
      obtain rfl := Except.ok.inj (hleads.symm.trans hthere)
      exact FileSystem.node?_put_self hend.ne_nil
    · -- It is an earlier one, and the new report leads elsewhere.
      rw [List.concat_eq_append] at heq hlater
      rw [← List.cons_append, ← List.append_assoc] at heq
      obtain ⟨hreports, hnewest⟩ := List.append_inj' heq rfl
      obtain rfl := List.singleton_inj.mp hnewest
      have hne : there ≠ loc := by
        rintro rfl
        exact hlater _ (List.mem_append_right _ List.mem_cons_self) (hways.trace_iff.mpr hleads)
      rw [FileSystem.node?_put_of_ne hne]
      refine h.last hreports hthere fun other hother hsame => ?_
      exact hlater other (List.mem_append_left _ hother) (hways.trace_iff.mpr hsame)

/-- What holds of all reports holds of those after the first. -/
theorem Posted.tail {first : String × String} (h : Posted dir (first :: reports) tree) :
    Posted dir reports tree where
  once := (List.nodup_cons.mp h.once).2
  leads := fun e he => h.leads e (List.mem_cons_of_mem _ he)
  last := by
    intro earlier e later loc heq
    have hlonger : first :: reports = (first :: earlier) ++ e :: later := congrArg (first :: ·) heq
    exact h.last hlonger

/-- A report is at its place if no other one leads there. -/
theorem Posted.node? (h : Posted dir reports tree) {e : String × String} (he : e ∈ reports)
    (hleads : tree.trace .file (dir.child e.1) = .ok loc)
    (hown : ∀ other ∈ reports, tree.trace .file (dir.child other.1) = .ok loc → other.1 = e.1) :
    tree.node? loc = some (.file (Text.encode e.2)) := by
  obtain ⟨earlier, later, rfl⟩ := List.append_of_mem he
  refine h.last rfl hleads fun other hother hsame => ?_
  -- A later report has another name.
  have hname := hown other (List.mem_append_right _ (List.mem_cons_of_mem _ hother)) hsame
  have honce := h.once
  rw [List.map_append, List.map_cons, List.nodup_append, List.nodup_cons] at honce
  exact honce.2.1.1 (hname ▸ List.mem_map_of_mem hother)

/-- What is at the place to which a report leads is read under the name of the report. -/
theorem read_of_node? {bytes : List UInt8}
    (hleads : tree.trace .file (dir.child name) = .ok loc)
    (hnode : tree.node? loc = some (.file bytes)) : tree.read (dir.child name) = .ok bytes := by
  rw [FileSystem.read, FileSystem.locate, FileSystem.trace_target_of_file hleads]
  simp only [hnode]

/-- The report that was written last can be read. -/
theorem Posted.read_last (h : Posted dir (reports ++ [(name, text)]) tree) :
    tree.read (dir.child name) = .ok (Text.encode text) := by
  obtain ⟨loc, hleads⟩ := h.leads (name, text) (List.mem_append_right _ List.mem_cons_self)
  exact read_of_node? hleads (h.last rfl hleads fun _ hnone => by cases hnone)

/-- Reports have been written, and all that have one of the names can be. -/
structure Written (dir : Path) (place : String → Location) (names : List String)
    (reports : List (String × String)) (tree : FileSystem) : Prop where
  writable : Writable dir place names tree
  known : ∀ e ∈ reports, e.1 ∈ names
  posted : Posted dir reports tree

/-- What is written can be read, if all reports have places of their own. -/
theorem Written.read (h : Written dir place names reports tree)
    (hapart : ∀ name ∈ names, ∀ other ∈ names, place name = place other → name = other)
    {e : String × String} (he : e ∈ reports) :
    tree.read (dir.child e.1) = .ok (Text.encode e.2) := by
  have hleads := h.writable.leads e.1 (h.known e he)
  refine read_of_node? hleads (h.posted.node? he hleads fun other hother hsame => ?_)
  rw [h.writable.leads other.1 (h.known other hother)] at hsame
  exact hapart _ (h.known other hother) _ (h.known e he) (Except.ok.inj hsame)

theorem Written.nil (h : Writable dir place names tree) : Written dir place names [] tree :=
  ⟨h, by simp, .nil dir tree⟩

/-- **A report of a new name can be written.** -/
theorem Written.write (h : Written dir place names reports tree) (hname : name ∈ names)
    (hnew : ∀ e ∈ reports, e.1 ≠ name) (text : String) :
    ∃ tree', (writeText dir name text).run.run tree = (.ok (dir.child name), tree') ∧
      Written dir place names (reports ++ [(name, text)]) tree' := by
  have hend := h.writable.deadEnd name hname
  refine ⟨_, h.writable.run_writeText hname text, h.writable.put hend _, fun e he => ?_,
    h.posted.write (h.writable.leads name hname) hend hnew text⟩
  rcases List.mem_append.mp he with he | he
  · exact h.known e he
  · rw [List.mem_singleton.mp he]
    exact hname

/-! ### The names of section files -/

/-- The name of the file for the section of the name, with the given number. -/
def sectionFile (index : Nat) (name : String) : String :=
  Text.twoDigits index ++ "-" ++ name ++ ".txt"

/-- The number with which the name of a report starts. -/
def fileNumber (file : String) : Nat :=
  Nat.ofDigitChars 10 (file.toList.takeWhile (· != '-')) 0

theorem hyphen_notMem_toDigits (n : Nat) : '-' ∉ Nat.toDigits 10 n := by
  intro hmem
  have hdigit := Nat.isDigit_of_mem_toDigits (by decide) (by decide) hmem
  exact absurd hdigit (by decide)

/-- Two digits are those of the number, perhaps with a zero in front of them. -/
theorem toList_twoDigits (n : Nat) :
    ∃ zeros, (zeros = [] ∨ zeros = ['0']) ∧
      (Text.twoDigits n).toList = zeros ++ Nat.toDigits 10 n := by
  have hdigits : (Text.integer n).toList = Nat.toDigits 10 n := String.toList_ofList
  rw [Text.twoDigits]
  split
  · refine ⟨['0'], .inr rfl, ?_⟩
    rw [String.toList_append, hdigits]
    rfl
  · exact ⟨[], .inl rfl, hdigits⟩

theorem fileNumber_sectionFile (index : Nat) (name : String) :
    fileNumber (sectionFile index name) = index := by
  obtain ⟨zeros, hzeros, hdigits⟩ := toList_twoDigits index
  have hlist : (sectionFile index name).toList =
      (zeros ++ Nat.toDigits 10 index) ++ '-' :: (name.toList ++ ".txt".toList) := by
    rw [sectionFile]
    simp only [String.toList_append, hdigits, List.append_assoc]
    rfl
  -- The number ends at the first hyphen, since digits are none.
  have hhyphen : ∀ c ∈ zeros ++ Nat.toDigits 10 index, (c != '-') = true := by
    intro c hc
    refine bne_iff_ne.mpr ?_
    rintro rfl
    rcases List.mem_append.mp hc with hc | hc
    · rcases hzeros with rfl | rfl
      · cases hc
      · cases List.mem_singleton.mp hc
    · exact hyphen_notMem_toDigits index hc
  have hnumber : Nat.ofDigitChars 10 (Nat.toDigits 10 index) 0 = index :=
    Nat.ofDigitChars_toDigits (by decide) (by decide)
  have hstop : ('-' :: (name.toList ++ ".txt".toList)).takeWhile (· != '-') = [] := rfl
  rw [fileNumber, hlist, List.takeWhile_append_of_pos hhyphen, hstop, List.append_nil]
  rcases hzeros with rfl | rfl
  · exact hnumber
  · rw [List.singleton_append, Nat.ofDigitChars_cons]
    exact hnumber

/-- No file with a smaller number is that of a section with this number. -/
theorem ne_sectionFile_of_lt {reports : List (String × String)} {index : Nat} {name : String}
    (hless : ∀ e ∈ reports, fileNumber e.1 < index) :
    ∀ e ∈ reports, e.1 ≠ sectionFile index name := by
  intro e he heq
  have hnumber := hless e he
  rw [heq, fileNumber_sectionFile] at hnumber
  exact Nat.lt_irrefl _ hnumber

/-- With the report on one more section the numbers stay below the next. -/
theorem fileNumber_lt_succ {reports : List (String × String)} {index : Nat} {name text : String}
    (hless : ∀ e ∈ reports, fileNumber e.1 < index) :
    ∀ e ∈ reports ++ [(sectionFile index name, text)], fileNumber e.1 < index + 1 := by
  intro e he
  rcases List.mem_append.mp he with he | he
  · exact Nat.lt_succ_of_lt (hless e he)
  · rw [List.mem_singleton.mp he, fileNumber_sectionFile]
    exact Nat.lt_succ_self _

/-- The names of the files for sections of the given names. -/
def sectionFiles : (index : Nat) → List String → List String
  | _, [] => []
  | index, name :: rest => sectionFile index name :: sectionFiles (index + 1) rest

theorem sectionFiles_append (index : Nat) (names others : List String) :
    sectionFiles index (names ++ others) =
      sectionFiles index names ++ sectionFiles (index + names.length) others := by
  induction names generalizing index with
  | nil => rfl
  | cons name rest ih =>
    rw [List.cons_append, sectionFiles, sectionFiles, ih, List.length_cons, List.cons_append]
    congr 3
    omega

/-! ### Writing sections -/

/-- The reports on sections, the first of which has the given number. -/
def sectionReports (time : String) (known : Descriptions) :
    (index : Nat) → List Section → List (String × String)
  | _, [] => []
  | index, s :: rest =>
    (sectionFile index s.name,
      renderSection time (withArtifact index s) ((known.lookup s.name).getD "")) ::
      sectionReports time known (index + 1) rest

/-- The sections, each with the name of its file. -/
def withArtifacts : (index : Nat) → List Section → List Section
  | _, [] => []
  | index, s :: rest => withArtifact index s :: withArtifacts (index + 1) rest

/-- A section that comes after so many others has its report in the file of its number. -/
theorem artifact_withArtifact {s : Section} {name : String} (others : Nat) (hname : s.name = name) :
    (withArtifact (others + 1) s).artifact = sectionFile (others + 1) name := by
  rw [← hname]
  rfl

theorem length_withArtifacts (index : Nat) (sections : List Section) :
    (withArtifacts index sections).length = sections.length := by
  induction sections generalizing index with
  | nil => rfl
  | cons s rest ih => exact congrArg (· + 1) (ih (index + 1))

theorem withArtifacts_append (index : Nat) (sections others : List Section) :
    withArtifacts index (sections ++ others) =
      withArtifacts index sections ++ withArtifacts (index + sections.length) others := by
  induction sections generalizing index with
  | nil => rfl
  | cons s rest ih =>
    rw [List.cons_append, withArtifacts, withArtifacts, ih, List.length_cons, List.cons_append]
    congr 3
    omega

theorem sectionReports_append (time : String) (known : Descriptions) (index : Nat)
    (sections others : List Section) :
    sectionReports time known index (sections ++ others) =
      sectionReports time known index sections ++
        sectionReports time known (index + sections.length) others := by
  induction sections generalizing index with
  | nil => rfl
  | cons s rest ih =>
    rw [List.cons_append, sectionReports, sectionReports, ih, List.length_cons, List.cons_append]
    congr 3
    omega

theorem map_name_withArtifacts (index : Nat) (sections : List Section) :
    (withArtifacts index sections).map (·.name) = sections.map (·.name) := by
  induction sections generalizing index with
  | nil => rfl
  | cons s rest ih => exact congrArg (s.name :: ·) (ih (index + 1))

/-- The report on a section stands under the name that the section knows. -/
theorem sectionReports_eq_map (time : String) (known : Descriptions) (index : Nat)
    (sections : List Section) : sectionReports time known index sections =
      (withArtifacts index sections).map fun made =>
        (made.artifact, renderSection time made ((known.lookup made.name).getD "")) := by
  induction sections generalizing index with
  | nil => rfl
  | cons made rest ih => exact congrArg (_ :: ·) (ih (index + 1))

/-- Each section has the number of its place. -/
theorem artifact_getElem_withArtifacts {index i : Nat} {sections : List Section}
    (hi : i < (withArtifacts index sections).length) :
    (withArtifacts index sections)[i].artifact =
      sectionFile (index + i) (withArtifacts index sections)[i].name := by
  induction sections generalizing index i with
  | nil => exact absurd hi (Nat.not_lt_zero i)
  | cons s rest ih =>
    cases i with
    | zero => rfl
    | succ i =>
      have hrest : i < (withArtifacts (index + 1) rest).length := Nat.lt_of_succ_lt_succ hi
      have hnumbered := ih hrest
      rw [Nat.add_right_comm] at hnumbered
      exact hnumbered

theorem fileNumber_of_mem_sectionReports {time : String} {known : Descriptions} {index : Nat}
    {sections : List Section} {e : String × String}
    (he : e ∈ sectionReports time known index sections) :
    index ≤ fileNumber e.1 ∧ fileNumber e.1 < index + sections.length := by
  induction sections generalizing index with
  | nil => cases he
  | cons s rest ih =>
    rw [List.length_cons]
    rcases List.mem_cons.mp he with rfl | he
    · rw [fileNumber_sectionFile]
      omega
    · obtain ⟨hlow, hhigh⟩ := ih he
      omega

/-- A section is written, and then the others are. -/
theorem run_writeSectionsFrom_cons {time : String} {known : Descriptions} {index : Nat}
    {s : Section} {rest : List Section} {path : Path} {tree' : FileSystem}
    (h : (writeSection time dir (withArtifact index s)
      ((known.lookup s.name).getD "")).run.run tree = (.ok path, tree')) :
    (writeSectionsFrom time dir known index (s :: rest)).run tree =
      (((((writeSectionsFrom time dir known (index + 1) rest).run tree').1.1).map (path :: ·),
        withArtifact index s ::
          ((writeSectionsFrom time dir known (index + 1) rest).run tree').1.2),
        ((writeSectionsFrom time dir known (index + 1) rest).run tree').2) := by
  rw [writeSectionsFrom, StateT.run_bind, h]
  rfl

/-- **All sections are written**, where all that is there already has smaller numbers. -/
theorem Written.sections (h : Written dir place names reports tree) (time : String)
    (known : Descriptions) {index : Nat} {sections : List Section}
    (hnames : ∀ file ∈ sectionFiles index (sections.map (·.name)), file ∈ names)
    (hless : ∀ e ∈ reports, fileNumber e.1 < index) :
    ∃ paths tree', (writeSectionsFrom time dir known index sections).run tree =
        ((.ok paths, withArtifacts index sections), tree') ∧
      Written dir place names (reports ++ sectionReports time known index sections) tree' := by
  -- With every section the number rises, and what has been written stays below it.
  induction sections generalizing index reports tree with
  | nil => exact ⟨[], tree, rfl, by rwa [sectionReports, List.append_nil]⟩
  | cons s rest ih =>
    have hfirst : sectionFile index s.name ∈ names := hnames _ List.mem_cons_self
    have hnew : ∀ e ∈ reports, e.1 ≠ sectionFile index s.name := ne_sectionFile_of_lt hless
    obtain ⟨tree₁, hwrite, hwritten⟩ := h.write hfirst hnew
      (renderSection time (withArtifact index s) ((known.lookup s.name).getD ""))
    obtain ⟨paths, tree₂, hrest, hall⟩ :=
      ih hwritten (fun file hfile => hnames file (List.mem_cons_of_mem _ hfile))
        (fileNumber_lt_succ hless)
    refine ⟨dir.child (sectionFile index s.name) :: paths, tree₂, ?_, ?_⟩
    · rw [run_writeSectionsFrom_cons hwrite, hrest]
      rfl
    · rw [sectionReports]
      simpa using hall

/-! ### Writing all reports -/

theorem fileNumber_statisticsFile : fileNumber statisticsFile = 0 := by
  decide

theorem fileNumber_summaryFile : fileNumber summaryFile = 0 := by
  decide

/-- **The statistics and the reports on all sections are written.** -/
theorem Written.all (h : Writable dir place names tree) (time : String) (known : Descriptions)
    {s : Summary} (hstatistics : statisticsFile ∈ names)
    (hnames : ∀ file ∈ sectionFiles 1 (s.sections.map (·.name)), file ∈ names) :
    ∃ paths tree', (writeSections time dir known s).run tree =
        ((.ok paths, { s with sections := withArtifacts 1 s.sections }), tree') ∧
      Written dir place names ((statisticsFile, renderStatistics time s) ::
        sectionReports time known 1 s.sections) tree' := by
  obtain ⟨tree₁, hwrite, hwritten⟩ :=
    (Written.nil h).write hstatistics (by simp) (renderStatistics time s)
  have hless : ∀ e ∈ [] ++ [(statisticsFile, renderStatistics time s)], fileNumber e.1 < 1 := by
    intro e he
    rw [List.mem_singleton.mp he, fileNumber_statisticsFile]
    exact Nat.one_pos
  obtain ⟨paths, tree₂, hsections, hall⟩ := hwritten.sections time known hnames hless
  refine ⟨dir.child statisticsFile :: paths, tree₂, ?_, hall⟩
  have hfirst : (writeStatistics time dir s).run.run tree =
      (.ok (dir.child statisticsFile), tree₁) := hwrite
  rw [writeSections, StateT.run_bind, hfirst]
  show (StateT.run (writeSectionsFrom time dir known 1 s.sections >>= _) tree₁) = _
  rw [StateT.run_bind, hsections]
  rfl

/-! ### What writing keeps -/

section Keeping

variable {I : FileSystem → Prop}

/-- What a file keeps that is put where no trace goes on, a report keeps. -/
theorem Writable.keeps_writeText
    (hI : ∀ {fs loc bytes}, fs.DeadEnd loc → I fs → I (fs.put loc (.file bytes)))
    (h : Writable dir place names tree) (hname : name ∈ names) (htree : I tree) (text : String) :
    Writable dir place names ((writeText dir name text).run.run tree).2 ∧
      I ((writeText dir name text).run.run tree).2 := by
  have hend := h.deadEnd name hname
  rw [h.run_writeText hname text]
  exact ⟨h.put hend _, hI hend htree⟩

theorem Writable.keeps_writeSectionsFrom
    (hI : ∀ {fs loc bytes}, fs.DeadEnd loc → I fs → I (fs.put loc (.file bytes)))
    (time : String) (known : Descriptions) {index : Nat} {sections : List Section}
    (hnames : ∀ file ∈ sectionFiles index (sections.map (·.name)), file ∈ names)
    (h : Writable dir place names tree) (htree : I tree) :
    I ((writeSectionsFrom time dir known index sections).run tree).2 := by
  induction sections generalizing index tree with
  | nil => exact htree
  | cons s rest ih =>
    have hfirst : sectionFile index s.name ∈ names := hnames _ List.mem_cons_self
    have hwrite := h.run_writeText hfirst
      (renderSection time (withArtifact index s) ((known.lookup s.name).getD ""))
    obtain ⟨hwritable, hkept⟩ := h.keeps_writeText hI hfirst htree
      (renderSection time (withArtifact index s) ((known.lookup s.name).getD ""))
    rw [hwrite] at hwritable hkept
    rw [run_writeSectionsFrom_cons hwrite]
    exact ih (fun file hfile => hnames file (List.mem_cons_of_mem _ hfile)) hwritable hkept

/-- Writing the statistics and the reports on all sections keeps it, too. -/
theorem Writable.keeps_writeSections
    (hI : ∀ {fs loc bytes}, fs.DeadEnd loc → I fs → I (fs.put loc (.file bytes)))
    (h : Writable dir place names tree) (time : String) (known : Descriptions) {s : Summary}
    (hstatistics : statisticsFile ∈ names)
    (hnames : ∀ file ∈ sectionFiles 1 (s.sections.map (·.name)), file ∈ names) (htree : I tree) :
    I ((writeSections time dir known s).run tree).2 := by
  have hwrite := h.run_writeText hstatistics (renderStatistics time s)
  obtain ⟨hwritable, hkept⟩ :=
    h.keeps_writeText hI hstatistics htree (renderStatistics time s)
  rw [hwrite] at hwritable hkept
  have hfirst : (writeStatistics time dir s).run.run tree =
      (.ok (dir.child statisticsFile), tree.put (place statisticsFile)
        (.file (Text.encode (renderStatistics time s)))) := hwrite
  rw [writeSections, StateT.run_bind, hfirst]
  exact hwritable.keeps_writeSectionsFrom hI time known hnames hkept

end Keeping

end PluginSweep.Report
