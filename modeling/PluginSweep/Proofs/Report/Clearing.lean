/-
PluginSweep/Proofs/Report/Clearing.lean

What preparing a directory for reports does to files.  Of the files of the tree it
removes only those that are right in the directory and have the name of a report
(`node?_prepare`), whoever put them there; and when it is done, no name of a report leads
to a file (`not_isFile_of_prepare`).

So reports that are written afterwards go where no file was, and a file that has come
through stays as it is (`Shielded`).  What carries the argument is that nothing is added
to the directories and links of the tree: a report whose path led to the file would
have led to it before.
-/
import PluginSweep.Proofs.FileSystem.Changing
import PluginSweep.Proofs.FileSystem.Thinning
import PluginSweep.Proofs.Path
import PluginSweep.Proofs.Report.Writing

namespace PluginSweep.Report

open FileSystem

variable {fs fs' fs'' : FileSystem} {loc d : Location} {bytes : List UInt8} {p : Path}

/-! ### Names of reports -/

theorem proper_of_isArtifactName {name : String} (h : isArtifactName name = true) :
    Proper name := by
  intro hmem
  have hnone : ∀ name ∈ ["", ".", ".."], isArtifactName name = false := by
    decide
  rw [hnone name hmem] at h
  cases h

/-- The name of a report ends in `.txt`, or in that and a line feed. -/
theorem suffixOf_of_isArtifactName {name : String} (h : isArtifactName name = true) :
    Path.suffixOf name = ".txt" ∨ Path.suffixOf name = ".txt\n" := by
  -- Something stands before the suffix, for it would be no suffix otherwise.
  obtain ⟨before, hbefore, hends⟩ : ∃ before, before ≠ [] ∧
      withoutFinalBreak name.toList = before ++ ".txt".toList := by
    rw [isArtifactName] at h
    split at h
    · rename_i a b rest heq
      simp only [Bool.and_eq_true] at h
      obtain ⟨before, hrest⟩ := List.isSuffixOf_iff_suffix.mp h.1.1.2
      refine ⟨a :: b :: '-' :: before, List.cons_ne_nil _ _, ?_⟩
      rw [heq, ← hrest]
      rfl
    · cases h
  rw [withoutFinalBreak] at hends
  split at hends
  · rename_i hbreak
    right
    obtain ⟨front, hfront⟩ := List.getLast?_eq_some_iff.mp hbreak
    rw [hfront, List.dropLast_concat] at hends
    have hname : name.toList = before ++ '.' :: "txt\n".toList := by
      rw [hfront, hends, List.append_assoc]
      rfl
    exact Path.suffixOf_eq hname hbefore (by decide) (by decide)
  · left
    exact Path.suffixOf_eq hends hbefore (by decide) (by decide)

/-- The path of the entry of the name in the directory. -/
def entryPath (dir : Path) (name : String) : Path :=
  dir.append ⟨"", [name]⟩

theorem exists_locate_of_trace_entryPath {dir : Path} {name : String} {purpose : Purpose}
    (hname : isArtifactName name = true) (h : fs.trace purpose (entryPath dir name) = .ok loc) :
    ∃ d left, fs.locate dir = .ok (d, .directory) ∧
      fs.traceFrom purpose left d [name] = .ok loc :=
  exists_locate_of_trace (proper_of_isArtifactName hname) h

/-- Where a name leads to a file, the directory has an entry of the name. -/
theorem exists_node_of_isFile {dir : Path} {name : String} (hname : isArtifactName name = true)
    (h : fs.isFile (entryPath dir name) = true) :
    ∃ d node, fs.locate dir = .ok (d, .directory) ∧ fs.node? (d ++ [name]) = some node := by
  obtain ⟨loc, bytes, hlocate⟩ := isFile_iff.mp h
  obtain ⟨htrace, hfile⟩ := locate_eq_ok_iff.mp hlocate
  obtain ⟨d, left, hdir, hrest⟩ := exists_locate_of_trace_entryPath hname htrace
  rcases hnode : fs.node? (d ++ [name]) with - | node
  · -- The name leads to where nothing is, and not to the file.
    have hloc := eq_concat_of_traceFrom (proper_of_isArtifactName hname)
      (.inr fun target htarget => by rw [hnode] at htarget; cases htarget) hrest
    rw [hloc, hnode] at hfile
    cases hfile
  · exact ⟨d, node, hdir, hnode⟩

/-! ### Removing reports -/

/-- Removes the reports of the given names. -/
def removeReports (dir : Path) : List String → FileWork Unit
  | [] => pure ()
  | name :: rest => do
    if (← testFile (entryPath dir name)) && isArtifactName name then
      unlink (entryPath dir name)
    removeReports dir rest

/-- A directory is prepared by making it and removing the reports that it lists. -/
theorem prepare_eq (dir : Path) : prepare dir = (do
    ensurePath dir
    removeReports dir (← listing dir)) := by
  rw [prepare]
  refine congrArg (ensurePath dir >>= ·) (funext fun _ => ?_)
  refine congrArg (listing dir >>= ·) (funext fun names => ?_)
  induction names with
  | nil => rfl
  | cons name rest ih =>
    rw [removeReports, List.forIn_cons, ← ih]
    unfold entryPath
    simp only [bind_assoc]
    refine congrArg (testFile _ >>= ·) (funext fun there => ?_)
    by_cases hdue : (there && isArtifactName name) = true
    · rw [if_pos hdue, if_pos hdue]
      simp only [bind_assoc, pure_bind]
    · rw [if_neg hdue, if_neg hdue, pure_bind]

/-- Removing the entry of a name is refused, or the entry is gone. -/
theorem run_unlink_entryPath (dir : Path) {name : String} (hname : isArtifactName name = true)
    (fs : FileSystem) :
    (∃ e, (unlink (entryPath dir name)).run.run fs = (.error e, fs)) ∨
      ∃ d, fs.locate dir = .ok (d, .directory) ∧
        (unlink (entryPath dir name)).run.run fs = (.ok (), fs.remove (d ++ [name])) := by
  rw [run_unlink]
  rcases htrace : fs.trace .entry (entryPath dir name) with cause | there
  · exact .inl ⟨_, rfl⟩
  · obtain ⟨d, left, hdir, hrest⟩ := exists_locate_of_trace_entryPath hname htrace
    obtain rfl := eq_concat_of_traceFrom (proper_of_isArtifactName hname) (.inl rfl) hrest
    dsimp only
    rcases fs.node? (d ++ [name]) with - | (b | - | target)
    · exact .inl ⟨_, rfl⟩
    · exact .inr ⟨d, hdir, rfl⟩
    · exact .inl ⟨_, rfl⟩
    · exact .inr ⟨d, hdir, rfl⟩

/-- Nothing is new in the tree, and all that is gone was in the directory, under the name of a
report. -/
structure Sheds (dir : Path) (fs' fs : FileSystem) : Prop where
  cwd : fs'.cwd = fs.cwd
  old : ∀ loc node, fs'.node? loc = some node → fs.node? loc = some node
  kept : ∀ loc node, fs.node? loc = some node →
    (∀ d name, fs.locate dir = .ok (d, .directory) → isArtifactName name = true →
      loc ≠ d ++ [name]) → fs'.node? loc = some node

namespace Sheds

variable {dir : Path}

theorem refl (dir : Path) (fs : FileSystem) : Sheds dir fs fs :=
  ⟨rfl, fun _ _ h => h, fun _ _ h _ => h⟩

theorem thins (h : Sheds dir fs' fs) : Thins fs' fs :=
  ⟨h.cwd, fun _ => h.old _ _, fun _ _ => h.old _ _⟩

/-- What a path is located at is not new. -/
theorem locate (h : Sheds dir fs' fs) {node : Node} (hlocate : fs'.locate p = .ok (loc, node)) :
    fs.locate p = .ok (loc, node) :=
  locate_of_thins h.thins (h.old _ _ (node?_of_locate hlocate)) hlocate

theorem isFile (h : Sheds dir fs' fs) (hfile : fs'.isFile p = true) : fs.isFile p = true := by
  obtain ⟨loc, bytes, hlocate⟩ := isFile_iff.mp hfile
  exact isFile_iff.mpr ⟨loc, bytes, h.locate hlocate⟩

theorem trans (h₁ : Sheds dir fs'' fs') (h₂ : Sheds dir fs' fs) : Sheds dir fs'' fs where
  cwd := h₁.cwd.trans h₂.cwd
  old := fun loc node hnode => h₂.old loc node (h₁.old loc node hnode)
  kept := fun loc node hnode hfree => h₁.kept loc node (h₂.kept loc node hnode hfree)
    fun d name hdir => hfree d name (h₂.locate hdir)

theorem remove {name : String} (hname : isArtifactName name = true)
    (hdir : fs.locate dir = .ok (d, .directory)) : Sheds dir (fs.remove (d ++ [name])) fs where
  cwd := rfl
  old := fun _ _ => node?_of_remove (List.append_ne_nil_of_right_ne_nil _ (List.cons_ne_nil _ _))
  kept := fun loc node hnode hfree => by rwa [node?_remove_of_ne (hfree d name hdir hname)]

end Sheds

/-- The entry of a name is looked at; if it is due to be removed, it is, and then the others
are looked at. -/
theorem run_removeReports_cons {dir : Path} {name : String} {rest : List String}
    (hshort : fs.locate (entryPath dir name) ≠ .error .nameTooLong) :
    (removeReports dir (name :: rest)).run.run fs =
      if fs.isFile (entryPath dir name) && isArtifactName name then
        (unlink (entryPath dir name) >>= fun _ => removeReports dir rest).run.run fs
      else (removeReports dir rest).run.run fs := by
  rw [removeReports, run_bind, run_testFile hshort]
  dsimp only
  split <;> rfl

theorem run_removeReports_cons_of_long {dir : Path} {name : String} {rest : List String}
    (hlong : fs.locate (entryPath dir name) = .error .nameTooLong) :
    (removeReports dir (name :: rest)).run.run fs =
      (.error (.about .nameTooLong (entryPath dir name).toString), fs) := by
  rw [removeReports, run_bind, run_testFile_of_long hlong]

/-- The reports that are removed are gone for good, and all else is left. -/
theorem run_removeReports (dir : Path) (names : List String) (fs : FileSystem) :
    Sheds dir ((removeReports dir names).run.run fs).2 fs ∧
      (((removeReports dir names).run.run fs).1 = .ok () → ∀ name ∈ names,
        isArtifactName name = true →
          ((removeReports dir names).run.run fs).2.isFile (entryPath dir name) = false) := by
  induction names generalizing fs with
  | nil => exact ⟨.refl dir fs, fun _ name hname => by cases hname⟩
  | cons name rest ih =>
    by_cases hlong : fs.locate (entryPath dir name) = .error .nameTooLong
    · -- The first name is too long to be asked for.
      rw [run_removeReports_cons_of_long hlong]
      exact ⟨.refl dir fs, fun heq => by cases heq⟩
    · rw [run_removeReports_cons hlong]
      split
      · -- It is due to be removed.
        rename_i hdue
        have hname := (Bool.and_eq_true_iff.mp hdue).2
        rw [run_bind]
        rcases run_unlink_entryPath dir hname fs with ⟨e, hunlink⟩ | ⟨d, hdir, hunlink⟩
        · rw [hunlink]
          exact ⟨.refl dir fs, fun heq => by cases heq⟩
        · rw [hunlink]
          have hfirst : Sheds dir (fs.remove (d ++ [name])) fs := .remove hname hdir
          obtain ⟨hsheds, hgone⟩ := ih (fs.remove (d ++ [name]))
          refine ⟨hsheds.trans hfirst, fun hok other hother hartifact => ?_⟩
          rcases List.mem_cons.mp hother with rfl | hother
          · -- The entry is gone, and so the name cannot lead to a file any more.
            rw [← Bool.not_eq_true]
            intro hfile
            obtain ⟨d', node, hdir', hnode⟩ := exists_node_of_isFile hname (hsheds.isFile hfile)
            obtain ⟨rfl, -⟩ := Prod.mk.inj (Except.ok.inj ((hfirst.locate hdir').symm.trans hdir))
            rw [node?_remove_self
              (List.append_ne_nil_of_right_ne_nil _ (List.cons_ne_nil _ _))] at hnode
            cases hnode
          · exact hgone hok other hother hartifact
      · -- It is not due, and the others follow.
        rename_i hnot
        obtain ⟨hsheds, hgone⟩ := ih fs
        refine ⟨hsheds, fun hok other hother hartifact => ?_⟩
        rcases List.mem_cons.mp hother with rfl | hother
        · rw [← Bool.not_eq_true]
          exact fun hfile => hnot (Bool.and_eq_true_iff.mpr ⟨hsheds.isFile hfile, hartifact⟩)
        · exact hgone hok other hother hartifact

/-! ### Preparing -/

/-- What is at the location is right in the directory, once that is made, and has the name of a
report. -/
def Reserved (dir : Path) (fs : FileSystem) (loc : Location) : Prop :=
  ∃ made d name, (ensurePath dir).run.run fs = (.ok (), made) ∧
    made.locate dir = .ok (d, .directory) ∧ isArtifactName name = true ∧ loc = d ++ [name]

/-- The file is at the location, and no name of a report in the directory leads to it. -/
structure Shielded (dir : Path) (loc : Location) (bytes : List UInt8) (fs : FileSystem) : Prop where
  file : fs.node? loc = some (.file bytes)
  apart : ∀ name, isArtifactName name = true → fs.trace .target (entryPath dir name) ≠ .ok loc

theorem list_eq_ok {names : List String} (h : fs.list p = .ok names) :
    ∃ d, fs.locate p = .ok (d, .directory) ∧ names = fs.namesIn d := by
  rw [list] at h
  split at h
  · obtain rfl := Except.ok.inj h
    exact ⟨_, ‹_›, rfl⟩
  · cases h
  · cases h

theorem run_listing (fs : FileSystem) (p : Path) : (listing p).run.run fs = (fs.list p, fs) := by
  rw [listing, run_get_bind]
  cases fs.list p <;> rfl

/-- A directory that has been prepared was made, and the reports that it lists were removed. -/
theorem exists_made_of_prepare {dir : Path} (h : (prepare dir).run.run fs = (.ok (), fs')) :
    ∃ made d, (ensurePath dir).run.run fs = (.ok (), made) ∧
      made.locate dir = .ok (d, .directory) ∧
      (removeReports dir (made.namesIn d)).run.run made = (.ok (), fs') := by
  rw [prepare_eq, run_bind] at h
  rcases hmade : (ensurePath dir).run.run fs with ⟨e | _, made⟩ <;> rw [hmade] at h
  · cases h
  · dsimp only at h
    rw [run_bind, run_listing] at h
    rcases hlist : made.list dir with e | names <;> rw [hlist] at h
    · cases h
    · obtain ⟨d, hdir, rfl⟩ := list_eq_ok hlist
      exact ⟨made, d, rfl, hdir, h⟩

/-- **When a directory has been prepared, no name of a report leads to a file in it.** -/
theorem not_isFile_of_prepare {dir : Path} {name : String}
    (h : (prepare dir).run.run fs = (.ok (), fs')) (hname : isArtifactName name = true) :
    fs'.isFile (entryPath dir name) = false := by
  obtain ⟨made, d', -, hdir', hremoved⟩ := exists_made_of_prepare h
  obtain ⟨hsheds, hgone⟩ := run_removeReports dir (made.namesIn d') made
  rw [hremoved] at hsheds hgone
  rw [← Bool.not_eq_true]
  intro hfile
  -- A name that is not listed is that of no entry.
  obtain ⟨d, node, hdir, hnode⟩ := exists_node_of_isFile hname (hsheds.isFile hfile)
  obtain ⟨rfl, -⟩ := Prod.mk.inj (Except.ok.inj (hdir'.symm.trans hdir))
  have hlisted : name ∈ made.namesIn d' := mem_namesIn.mpr ⟨node, mem_entries_of_node?
    (List.append_ne_nil_of_right_ne_nil _ (List.cons_ne_nil _ _)) hnode⟩
  rw [hgone rfl name hlisted hname] at hfile
  cases hfile

/-- **Preparing a directory leaves every file but those that are reserved**, whether or not it is
refused. -/
theorem node?_prepare {dir : Path} (hfile : fs.node? loc = some (.file bytes))
    (hfree : ¬ Reserved dir fs loc) :
    ((prepare dir).run.run fs).2.node? loc = some (.file bytes) := by
  rw [prepare_eq, run_bind]
  have hkept : ((ensurePath dir).run.run fs).2.node? loc = some (.file bytes) :=
    (grown_ensurePath fs dir).kept _ _ hfile
  rcases hmade : (ensurePath dir).run.run fs with ⟨e | _, made⟩ <;> rw [hmade] at hkept
  · exact hkept
  · dsimp only
    rw [run_bind, run_listing]
    rcases made.list dir with e | names
    · exact hkept
    · apply (run_removeReports dir names made).1.kept loc _ hkept
      exact fun d name hdir hname heq => hfree ⟨made, d, name, hmade, hdir, hname, heq⟩

/-- A file that is not reserved is out of the way of all reports when the directory has been
prepared. -/
theorem shielded_of_prepare {dir : Path} (hfile : fs.node? loc = some (.file bytes))
    (hfree : ¬ Reserved dir fs loc) (h : (prepare dir).run.run fs = (.ok (), fs')) :
    Shielded dir loc bytes fs' := by
  have hkept := node?_prepare hfile hfree
  rw [h] at hkept
  refine ⟨hkept, fun name hname htrace => ?_⟩
  have hnone := not_isFile_of_prepare h hname
  rw [isFile_iff.mpr ⟨loc, bytes, locate_eq_ok_iff.mpr ⟨htrace, hkept⟩⟩] at hnone
  cases hnone

/-! ### Writing -/

/-- The name is that of a report, and has no slash in it. -/
def IsReport (name : String) : Prop :=
  isArtifactName name = true ∧ '/' ∉ name.toList

instance (name : String) : Decidable (IsReport name) :=
  inferInstanceAs (Decidable (_ ∧ _))

theorem isReport_statisticsFile : IsReport statisticsFile := by
  decide +kernel

theorem isReport_summaryFile : IsReport summaryFile := by
  decide +kernel

/-- As a path, the name of a report is this very name. -/
theorem IsReport.child {name : String} (h : IsReport name) (dir : Path) :
    dir.child name = entryPath dir name := by
  have hjoinable : Path.Joinable [name] := by
    intro other hother
    obtain rfl := List.mem_singleton.mp hother
    exact ⟨proper_of_isArtifactName h.1, h.2⟩
  have hchild := dir.child_intercalate hjoinable (List.cons_ne_nil _ _)
  rw [String.intercalate_singleton] at hchild
  rw [hchild, entryPath, Path.append]
  rfl

/-- Writing a report leaves the file alone, and it stays out of the way. -/
theorem keeps_writeText {dir : Path} {name : String} (hname : IsReport name) (text : String) :
    Keeps (Shielded dir loc bytes) (writeText dir name text) := by
  intro fs hshielded
  rw [run_writeText, hname.child, run_write]
  split
  · split
    · exact hshielded
    · rename_i there htrace
      split
      · exact hshielded
      · rename_i hnode
        -- What the report is written to is not the file, since no report leads there.
        have hne : loc ≠ there := by
          rintro rfl
          exact hshielded.apart name hname.1 (trace_target_of_file htrace)
        have hthere : there ≠ [] := by
          rintro rfl
          exact hnode rfl
        have hfile : (fs.put there (.file (Text.encode text))).node? loc = some (.file bytes) := by
          rw [node?_put_of_ne hne]
          exact hshielded.file
        refine ⟨hfile, fun other hother hleads => ?_⟩
        exact hshielded.apart other hother
          (trace_of_thins (thins_put hthere _) hfile hshielded.file hleads)
  · exact hshielded

section Keeping

variable {I : FileSystem → Prop} {dir : Path}

/-- What writing a report keeps, writing the reports on sections keeps, as far as they are
written. -/
theorem keeps_writeSectionsFrom (time : String) (known : Descriptions) {index : Nat}
    {sections : List Section} (hwrite : ∀ file ∈ sectionFiles index (sections.map (·.name)),
      ∀ text, Keeps I (writeText dir file text)) (h : I fs) :
    I ((writeSectionsFrom time dir known index sections).run fs).2 := by
  induction sections generalizing index fs with
  | nil => exact h
  | cons s rest ih =>
    have hwritten : I ((writeSection time dir (withArtifact index s)
        ((known.lookup s.name).getD "")).run.run fs).2 := hwrite _ List.mem_cons_self _ fs h
    rcases hrun : (writeSection time dir (withArtifact index s)
      ((known.lookup s.name).getD "")).run.run fs with ⟨e | path, fs'⟩ <;> rw [hrun] at hwritten
    · rw [writeSectionsFrom, StateT.run_bind, hrun]
      exact hwritten
    · rw [run_writeSectionsFrom_cons hrun]
      exact ih (fun file hfile => hwrite file (List.mem_cons_of_mem _ hfile)) hwritten

/-- So does writing the statistics before them. -/
theorem keeps_writeSections (time : String) (known : Descriptions) {s : Summary}
    (hstatistics : ∀ text, Keeps I (writeText dir statisticsFile text))
    (hwrite : ∀ file ∈ sectionFiles 1 (s.sections.map (·.name)), ∀ text,
      Keeps I (writeText dir file text)) (h : I fs) :
    I ((writeSections time dir known s).run fs).2 := by
  have hwritten : I ((writeStatistics time dir s).run.run fs).2 := hstatistics _ fs h
  rw [writeSections, StateT.run_bind]
  rcases hrun : (writeStatistics time dir s).run.run fs with ⟨e | path, fs'⟩ <;>
    rw [hrun] at hwritten
  · exact hwritten
  · exact keeps_writeSectionsFrom time known hwrite hwritten

/-- What making directories and removing entries keep, preparing a directory keeps. -/
theorem keeps_prepare (hmake : ∀ p, Keeps I (makeDirectory p)) (hunlink : ∀ p, Keeps I (unlink p)) :
    Keeps I (prepare dir) := by
  have htest : ∀ p, Keeps I (testFile p) := by
    refine fun p => keeps_get_bind fun tree => ?_
    split
    · exact keeps_throw _
    · exact keeps_pure _
  have hremove : ∀ names, Keeps I (removeReports dir names) := by
    intro names
    induction names with
    | nil => exact keeps_pure _
    | cons name rest ih =>
      refine (htest _).bind fun there => ?_
      dsimp only
      split
      · exact (hunlink _).bind fun _ => ih
      · exact ih
  have hlist : Keeps I (listing dir) := by
    refine keeps_get_bind fun tree => ?_
    split
    · exact keeps_pure _
    · exact keeps_throw _
  rw [prepare_eq]
  exact (keeps_ensurePath hmake).bind fun _ => hlist.bind hremove

end Keeping

/-- The working directory stays a directory when a directory is prepared. -/
theorem stands_prepare {dir : Path} : Keeps StandsInDirectory (prepare dir) :=
  keeps_prepare standsInDirectory_makeDirectory standsInDirectory_unlink

end PluginSweep.Report
