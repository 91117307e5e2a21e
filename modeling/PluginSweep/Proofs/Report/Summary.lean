/-
PluginSweep/Proofs/Report/Summary.lean

The summary as a text and as a file.  Lines that follow other lines give texts
that follow one another (`textOf_append`), so that a part of the summary can be
found in its text; and a report that was written can be read where it was
written.
-/
import PluginSweep.Proofs.FileSystem.Write
import PluginSweep.Report.Directory

namespace PluginSweep.Report

/-! ### Texts -/

theorem textOf_append {lines lines' : List String} (h : lines ≠ []) (h' : lines' ≠ []) :
    textOf (lines ++ lines') = textOf lines ++ textOf lines' := by
  rw [textOf, textOf, textOf, String.intercalate_append_of_ne_nil h h']
  simp only [String.append_assoc]

/-- The summary of a run that was told to end says so. -/
theorem exists_interruptionNotice (time : String) {s : Summary} (h : s.interrupted = true) :
    ∃ before after, renderSummary time s = before ++ textOf interruptionNotice ++ after := by
  have hnotice : interruptionNotice ≠ [] := List.cons_ne_nil _ _
  rw [renderSummary, h, if_pos rfl]
  -- The parts in front of the notice are brought together, and so are those behind it.
  iterate 4 rw [List.append_assoc (_ ++ interruptionNotice)]
  rw [textOf_append (List.append_ne_nil_of_right_ne_nil _ hnotice) (by simp [banner]),
    textOf_append (by simp [header]) hnotice]
  exact ⟨_, _, rfl⟩

/-- The summary says in a part of its own what came of trying the plugin out. -/
theorem exists_probePart (time : String) (s : Summary) :
    ∃ before after, renderSummary time s =
      before ++ textOf (banner "ACTIVATION PROBE" ++ probeLines s) ++ after := by
  have hpart : banner "ACTIVATION PROBE" ++ probeLines s ≠ [] := by
    simp [banner]
  rw [renderSummary]
  -- What is behind the part is brought together, and so is the part.
  iterate 5 rw [List.append_assoc (_ ++ probeLines s)]
  rw [List.append_assoc _ (banner "ACTIVATION PROBE"),
    textOf_append (List.append_ne_nil_of_right_ne_nil _ hpart) (by simp),
    textOf_append (by simp [header]) hpart]
  exact ⟨_, _, rfl⟩

/-- The summary names the files that hold the details, and nothing else, before it comes to what
is to be done. -/
theorem exists_detailFiles (time : String) (s : Summary) :
    ∃ before after, renderSummary time s =
      before ++ textOf (banner "DETAILED REPORTS" ++ detailFiles s) ++
        textOf (banner "RECOMMENDATIONS" ++ after) := by
  have hdetails : banner "DETAILED REPORTS" ++ detailFiles s ≠ [] := by
    simp [banner]
  rw [renderSummary, List.append_assoc, List.append_assoc _ (banner "RECOMMENDATIONS"),
    List.append_assoc _ (banner "DETAILED REPORTS"),
    textOf_append (List.append_ne_nil_of_right_ne_nil _ hdetails) (by simp [banner]),
    textOf_append (by simp [header]) hdetails]
  exact ⟨_, _, rfl⟩

/-! ### Files -/

/-- Writing a report is writing a file, and naming it. -/
theorem run_writeText (dir : Path) (name text : String) (tree : FileSystem) :
    (writeText dir name text).run.run tree =
      ((FileSystem.write (dir.child name) (Text.encode text)).run.run tree).map
        (Except.map fun _ => dir.child name) id := by
  rw [writeText, ExceptT.run_bind, StateT.run_bind]
  rcases (FileSystem.write (dir.child name) (Text.encode text)).run.run tree with ⟨e | u, tree'⟩
  · rfl
  · rfl

/-- A report that is refused changes nothing. -/
theorem run_writeText_of_error {dir : Path} {name text : String} {tree : FileSystem} {e : OsError}
    (h : ((writeText dir name text).run.run tree).1 = .error e) :
    (writeText dir name text).run.run tree = (.error e, tree) := by
  rw [run_writeText] at h ⊢
  rcases hwrite : (FileSystem.write (dir.child name) (Text.encode text)).run.run tree with
    ⟨e' | u, tree'⟩ <;> rw [hwrite] at h
  · obtain rfl := Except.error.inj h
    rw [FileSystem.write_eq_error hwrite]
    rfl
  · cases h

/-- The report that was written last can be read where it was written. -/
theorem read_of_writeText {dir path : Path} {name text : String} {tree : FileSystem}
    (h : ((writeText dir name text).run.run tree).1 = .ok path) :
    ((writeText dir name text).run.run tree).2.read (dir.child name) = .ok (Text.encode text) := by
  rw [run_writeText] at h ⊢
  rcases hwrite : (FileSystem.write (dir.child name) (Text.encode text)).run.run tree with
    ⟨e | u, tree'⟩ <;> rw [hwrite] at h
  · cases h
  · exact FileSystem.read_of_write hwrite

end PluginSweep.Report
