/-
PluginSweep/Proofs/FileSystem/Changing.lean

Changes of a file system as runs.  What a change comes to can be told from the trace of
its path (`run_makeDirectory`, `run_unlink`).  What every single change keeps, work that
is made of such changes keeps (`Keeps`), whether or not it is refused; so making a
directory and those above it adds directories to the tree and nothing else
(`grown_ensurePath`).
-/
import PluginSweep.Proofs.FileSystem.Thinning

namespace PluginSweep.FileSystem

variable {α β : Type} {fs fs' : FileSystem} {loc : Location} {p : Path}

/-! ### What work keeps -/

/-- The work keeps `I`, whether or not it is refused. -/
def Keeps (I : FileSystem → Prop) (w : FileWork α) : Prop :=
  ∀ fs, I fs → I (w.run.run fs).2

variable {I : FileSystem → Prop}

theorem keeps_pure (a : α) : Keeps I (pure a : FileWork α) :=
  fun _ h => h

theorem keeps_throw (e : OsError) : Keeps I (throw e : FileWork α) :=
  fun _ h => h

/-- Work after other work, as a run. -/
theorem run_bind (w : FileWork α) (f : α → FileWork β) (fs : FileSystem) :
    (w >>= f).run.run fs = match w.run.run fs with
      | (.ok a, fs') => (f a).run.run fs'
      | (.error e, fs') => (.error e, fs') := by
  rw [ExceptT.run_bind, StateT.run_bind]
  rcases w.run.run fs with ⟨e | a, fs'⟩ <;> rfl

/-- Work that is made up for where it is refused, as a run. -/
theorem run_tryCatch (w : FileWork α) (handle : OsError → FileWork α) (fs : FileSystem) :
    (tryCatch w handle).run.run fs = match w.run.run fs with
      | (.ok a, fs') => (.ok a, fs')
      | (.error e, fs') => (handle e).run.run fs' := by
  rw [tryCatch, instMonadExceptOfMonadExceptOf]
  simp only [tryCatchThe, MonadExceptOf.tryCatch, ExceptT.tryCatch, ExceptT.run_mk, StateT.run_bind]
  rcases hrun : w.run.run fs with ⟨e | a, fs'⟩
  · rw [show StateT.run w fs = (.error e, fs') from hrun]
    rfl
  · rw [show StateT.run w fs = (.ok a, fs') from hrun]
    rfl

theorem Keeps.bind {w : FileWork α} {f : α → FileWork β} (hw : Keeps I w)
    (hf : ∀ a, Keeps I (f a)) : Keeps I (w >>= f) := by
  intro fs hfs
  have hdone := hw fs hfs
  rw [run_bind]
  rcases hrun : w.run.run fs with ⟨e | a, fs'⟩ <;> rw [hrun] at hdone
  · exact hdone
  · exact hf a fs' hdone

theorem keeps_get_bind {f : FileSystem → FileWork α} (hf : ∀ tree, Keeps I (f tree)) :
    Keeps I (get >>= f) :=
  fun fs hfs => hf fs fs hfs

theorem Keeps.tryCatch {w : FileWork α} {handle : OsError → FileWork α} (hw : Keeps I w)
    (hhandle : ∀ e, Keeps I (handle e)) : Keeps I (tryCatch w handle) := by
  intro fs hfs
  have hdone := hw fs hfs
  rw [run_tryCatch]
  rcases hrun : w.run.run fs with ⟨e | a, fs'⟩ <;> rw [hrun] at hdone
  · exact hhandle e fs' hdone
  · exact hdone

/-! ### Making directories -/

theorem run_makeDirectory (fs : FileSystem) (p : Path) :
    (makeDirectory p).run.run fs =
      if admits p then
        match fs.trace .entry p with
        | .error cause => (.error (.about cause p.toString), fs)
        | .ok loc => match fs.node? loc with
          | some _ => (.error (.about .alreadyThere p.toString), fs)
          | none => (.ok (), fs.put loc .directory)
      else (.error .nulInPath, fs) := by
  rw [makeDirectory, run_get_bind]
  cases admits p with
  | false => rfl
  | true =>
    cases fs.trace .entry p with
    | error cause => rfl
    | ok loc =>
      dsimp only
      rcases fs.node? loc with - | node <;> rfl

/-- A directory is made where nothing was. -/
theorem keeps_makeDirectory
    (hI : ∀ fs loc, fs.node? loc = none → I fs → I (fs.put loc .directory)) :
    Keeps I (makeDirectory p) := by
  intro fs hfs
  rw [run_makeDirectory]
  split
  · split
    · exact hfs
    · split
      · exact hfs
      · exact hI _ _ ‹_› hfs
  · exact hfs

theorem keeps_ensureDirectory (hmake : ∀ p, Keeps I (makeDirectory p)) :
    Keeps I (ensureDirectory p) := by
  refine (hmake p).tryCatch fun e => keeps_get_bind fun tree => ?_
  split
  · exact keeps_throw e
  · exact keeps_pure _

/-- Making a directory and those above it keeps what making one directory keeps. -/
theorem keeps_ensurePath (hmake : ∀ p, Keeps I (makeDirectory p)) : Keeps I (ensurePath p) := by
  rw [ensurePath]
  generalize p.names.length = above
  induction above generalizing p with
  | zero => exact keeps_ensureDirectory hmake
  | succ above ih =>
    refine (hmake p).tryCatch fun e => ?_
    split
    · exact ih.bind fun _ => keeps_ensureDirectory hmake
    · refine keeps_get_bind fun tree => ?_
      split
      · exact keeps_throw e
      · exact keeps_pure _

/-- The tree has grown by directories only. -/
structure Grown (fs' fs : FileSystem) : Prop where
  cwd : fs'.cwd = fs.cwd
  kept : ∀ loc node, fs.node? loc = some node → fs'.node? loc = some node
  new : ∀ loc node, fs'.node? loc = some node → fs.node? loc = some node ∨ node = .directory

/-- Making a directory and those above it leaves all that there is. -/
theorem grown_ensurePath (fs : FileSystem) (p : Path) :
    Grown ((ensurePath p).run.run fs).2 fs := by
  have hmake : ∀ p, Keeps (fun fs' => Grown fs' fs) (makeDirectory p) := by
    refine fun p => keeps_makeDirectory fun fs' loc hfree h => ?_
    have hloc : loc ≠ [] := by
      rintro rfl
      cases hfree
    refine ⟨cwd_put.trans h.cwd, fun other node hnode => ?_, fun other node hnode => ?_⟩
    · have hne : other ≠ loc := by
        rintro rfl
        rw [h.kept _ _ hnode] at hfree
        cases hfree
      rw [node?_put_of_ne hne]
      exact h.kept _ _ hnode
    · by_cases heq : other = loc
      · rw [heq, node?_put_self hloc] at hnode
        exact .inr (Option.some.inj hnode).symm
      · rw [node?_put_of_ne heq] at hnode
        exact h.new _ _ hnode
  exact keeps_ensurePath hmake fs ⟨rfl, fun _ _ h => h, fun _ _ h => .inl h⟩

/-! ### Directories that are there -/

theorem exists_node?_of_follow_entry
    {detour detour' : Location → List String → Except OsCause Location} {here : Location}
    {names : List String}
    (hdetour : ∀ here names, detour here names = .ok loc →
      ∃ loc' node, detour' here names = .ok loc' ∧ fs.node? loc' = some node)
    {node : Node} (hnode : fs.node? loc = some node)
    (h : fs.follow .target detour here names = .ok loc) :
    ∃ loc' node, fs.follow .entry detour' here names = .ok loc' ∧ fs.node? loc' = some node := by
  induction names generalizing here with
  | nil =>
    obtain rfl := Except.ok.inj h
    exact ⟨here, node, rfl, hnode⟩
  | cons name rest ih =>
    have hhere := node?_of_follow h
    cases leads_of_follow h with
    | skip hskip hrest =>
      obtain ⟨loc', node, hloc, hnode⟩ := ih hrest
      exact ⟨loc', node, Leads.follow hhere (.skip hskip hloc), hnode⟩
    | up hup hrest =>
      obtain ⟨loc', node, hloc, hnode⟩ := ih hrest
      exact ⟨loc', node, Leads.follow hhere (.up hup hloc), hnode⟩
    | enter hname _ hshort hthere hlink hrest =>
      obtain ⟨loc', node, hloc, hnode⟩ := ih hrest
      exact ⟨loc', node, Leads.follow hhere
        (.enter hname (not_slashRefused_of_ne nofun) hshort hthere hlink hloc), hnode⟩
    | link hname _ hshort hthere _ hrest =>
      by_cases hlast : rest = []
      · -- A link that comes last is what is there.
        exact ⟨_, _, Leads.follow hhere (.keep hname hshort hthere rfl hlast rfl), hthere⟩
      · obtain ⟨loc', node, hloc, hnode⟩ := hdetour _ _ hrest
        exact ⟨loc', node, Leads.follow hhere
          (.link hname (not_slashRefused_of_ne nofun) hshort hthere (fun _ => hlast) hloc), hnode⟩
    | keep _ _ _ hpurpose _ _ => cases hpurpose
    | free _ _ hthere _ hloc =>
      rw [hloc, hnode] at hthere
      cases hthere

/-- A path that leads somewhere is the path of some entry. -/
theorem exists_trace_entry_of_locate {node : Node} (h : fs.locate p = .ok (loc, node)) :
    ∃ loc' node, fs.trace .entry p = .ok loc' ∧ fs.node? loc' = some node := by
  obtain ⟨htrace, hnode⟩ := locate_eq_ok_iff.mp h
  have hfrom : ∀ links here names, fs.traceFrom .target links here names = .ok loc →
      ∃ loc' node, fs.traceFrom .entry links here names = .ok loc' ∧ fs.node? loc' = some node := by
    intro links
    induction links with
    | zero =>
      intro here names h
      exact exists_node?_of_follow_entry (fun _ _ hloop => by cases hloop) hnode h
    | succ fewer ih =>
      intro here names h
      exact exists_node?_of_follow_entry ih hnode h
  rw [trace] at htrace ⊢
  split at htrace
  · cases htrace
  · rename_i hshort
    rw [if_neg hshort]
    exact hfrom _ _ _ htrace

/-- **A directory that is there is not made**, nor are those above it. -/
theorem run_ensurePath_of_directory (h : fs.locate p = .ok (loc, .directory)) :
    (ensurePath p).run.run fs = (.ok (), fs) := by
  obtain ⟨loc', node, htrace, hnode⟩ := exists_trace_entry_of_locate h
  -- It is refused since something is there, and not since something above it is missing.
  have hrefused : ∃ e, (makeDirectory p).run.run fs = (.error e, fs) ∧
      e ≠ .about .noEntry p.toString := by
    rw [run_makeDirectory, htrace]
    dsimp only
    rw [hnode]
    split
    · exact ⟨_, rfl, by simp⟩
    · exact ⟨_, rfl, by simp⟩
  obtain ⟨e, hrun, he⟩ := hrefused
  have hdirectory : fs.isDirectory p = true := by
    rw [isDirectory, h]
  rw [ensurePath]
  cases p.names.length with
  | zero =>
    rw [ensurePathFrom, ensureDirectory, run_tryCatch, hrun]
    dsimp only
    rw [run_get_bind, hdirectory]
    rfl
  | succ above =>
    rw [ensurePathFrom, run_tryCatch, hrun]
    dsimp only
    rw [if_neg he, run_get_bind, hdirectory]
    rfl

/-! ### Removing -/

theorem run_testFile (h : fs.locate p ≠ .error .nameTooLong) :
    (testFile p).run.run fs = (.ok (fs.isFile p), fs) := by
  rw [testFile, run_get_bind]
  split
  · exact absurd ‹_› h
  · rfl

theorem run_testFile_of_long (h : fs.locate p = .error .nameTooLong) :
    (testFile p).run.run fs = (.error (.about .nameTooLong p.toString), fs) := by
  rw [testFile, run_get_bind, h]
  rfl

/-- Whether there is a file is found out alike in trees in which the path is too long alike. -/
theorem testFile_congr
    (hlong : fs'.locate p = .error .nameTooLong ↔ fs.locate p = .error .nameTooLong)
    (hfile : fs'.isFile p = fs.isFile p) :
    ((testFile p).run.run fs').1 = ((testFile p).run.run fs).1 := by
  by_cases h : fs.locate p = .error .nameTooLong
  · rw [run_testFile_of_long h, run_testFile_of_long (hlong.mpr h)]
  · rw [run_testFile h, run_testFile (mt hlong.mp h), hfile]

theorem isFile_of_testFile (h : ((testFile p).run.run fs).1 = .ok true) : fs.isFile p = true := by
  by_cases hlong : fs.locate p = .error .nameTooLong
  · rw [run_testFile_of_long hlong] at h
    cases h
  · rw [run_testFile hlong] at h
    exact Except.ok.inj h

theorem run_unlink (fs : FileSystem) (p : Path) :
    (unlink p).run.run fs =
      match fs.trace .entry p with
      | .error cause => (.error (.about cause p.toString), fs)
      | .ok loc => match fs.node? loc with
        | none => (.error (.about .noEntry p.toString), fs)
        | some .directory => (.error (.about .isDirectory p.toString), fs)
        | some _ => (.ok (), fs.remove loc) := by
  rw [unlink, run_get_bind]
  cases fs.trace .entry p with
  | error cause => rfl
  | ok loc =>
    dsimp only
    rcases fs.node? loc with - | (b | - | target) <;> rfl

/-! ### Where paths start -/

/-- Relative paths and home directories start at the same places. -/
structure SameStart (fs' fs : FileSystem) : Prop where
  cwd : fs'.cwd = fs.cwd
  homes : fs'.homes = fs.homes

theorem SameStart.refl (fs : FileSystem) : SameStart fs fs :=
  ⟨rfl, rfl⟩

theorem SameStart.put {node : Node} (h : SameStart fs' fs) : SameStart (fs'.put loc node) fs := by
  refine ⟨cwd_put.trans h.cwd, ?_⟩
  rw [FileSystem.put]
  split <;> exact h.homes

theorem sameStart_makeDirectory (fs : FileSystem) (p : Path) :
    Keeps (SameStart · fs) (makeDirectory p) :=
  keeps_makeDirectory fun _ _ _ h => h.put

theorem sameStart_write (fs : FileSystem) (p : Path) (bytes : List UInt8) :
    Keeps (SameStart · fs) (write p bytes) := by
  intro tree h
  rw [run_write]
  split
  · split
    · exact h
    · split
      · exact h
      · exact h.put
  · exact h

theorem sameStart_unlink (fs : FileSystem) (p : Path) : Keeps (SameStart · fs) (unlink p) := by
  intro tree h
  rw [run_unlink]
  split
  · exact h
  · split
    · exact h
    · exact h
    · exact ⟨h.cwd, h.homes⟩

/-- The working directory stays one when a directory is made. -/
theorem standsInDirectory_makeDirectory (p : Path) :
    Keeps StandsInDirectory (makeDirectory p) := by
  refine keeps_makeDirectory fun fs loc hfree h there hthere => ?_
  rw [cwd_put] at hthere
  have hnode := h there hthere
  rw [node?_put_of_ne, hnode]
  rintro rfl
  rw [hfree] at hnode
  cases hnode

/-- It stays one when a file is written, since that is not written in its place. -/
theorem standsInDirectory_write (p : Path) (bytes : List UInt8) :
    Keeps StandsInDirectory (write p bytes) := by
  intro fs h
  rw [run_write]
  split
  · split
    · exact h
    · rename_i htrace
      split
      · exact h
      · rename_i hfree
        exact h.put (deadEnd_of_trace h htrace hfree)
  · exact h

/-- It stays one when an entry is removed, since that is no directory. -/
theorem standsInDirectory_unlink (p : Path) : Keeps StandsInDirectory (unlink p) := by
  intro fs h
  rw [run_unlink]
  split
  · exact h
  · rename_i loc _
    split
    · exact h
    · exact h
    · rename_i node hdirectory hentry
      intro there hthere
      have hnode := h there hthere
      rw [node?_remove_of_ne, hnode]
      rintro rfl
      exact hdirectory (Option.some.inj (hentry.symm.trans hnode))

end PluginSweep.FileSystem
