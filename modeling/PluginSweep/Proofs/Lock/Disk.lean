/-
PluginSweep/Proofs/Lock/Disk.lean

What is on the disk after a run.  The tree of a run has everything in it that the run
itself has made, written and removed.  The lock file is not among that: the steps towards
a lock are asked of the surroundings, which open the file, make it if it is missing, empty
it and write a number into it.  On the disk both have been done (`Disk`).

A step towards a lock opens a file where its path leads, or writes to a file that is open,
and does nothing else (`LockTable.May.does`).  So the disk has every file of the tree, but
for one to which the path of a lock file leads (`Disk.file`); and every path that leads to
such a file leads there on the disk (`Disk.read`).
-/
import PluginSweep.Proofs.FileSystem.Thinning
import PluginSweep.Proofs.Lock.Interleaving
import PluginSweep.Proofs.Request.History

namespace PluginSweep

variable {process : Nat} {tree disk : FileSystem} {now : History} {loc : Location}
  {bytes : List UInt8} {t t' : LockTable}

/-! ### One step -/

/-- All that a step does to the files, and to what is open. -/
inductive LockTable.Does (t : LockTable) : (step : LockStep) → step.Reply → LockTable → Prop
  /-- The files stay as they are, and nothing is opened. -/
  | nothing {step : LockStep} {reply : step.Reply} {t' : LockTable} (hfiles : t'.files = t.files)
      (hopened : ∀ f ∈ t'.opened, f ∈ t.opened) : Does t step reply t'
  /-- A file is opened where the path leads. -/
  | opens {file : Path} {handle : Handle} {there : Location} {f : OpenFile} {t' : LockTable}
      (hleads : t.files.trace .file file = .ok there)
      (hfree : t.files.node? there ≠ some .directory)
      (hfiles : t'.files = t.files ∨ t'.files = t.files.put there (.file []))
      (hopened : t'.opened = t.opened ++ [f]) (hplace : f.location = there) :
      Does t (.openFile file) (.ok handle) t'
  /-- An open file is written to. -/
  | writes {step : LockStep} {reply : step.Reply} {f : OpenFile} {t' : LockTable}
      (hmem : f ∈ t.opened) (written : List UInt8)
      (hfiles : t'.files = t.files.put f.location (.file written))
      (hopened : t'.opened = t.opened) : Does t step reply t'

/-- Whether or not a step is refused, it does nothing else. -/
theorem LockTable.May.does {step : LockStep} {reply : step.Reply}
    (h : LockTable.May process t step reply t') : t.Does step reply t' := by
  cases step with
  | takeLocal site =>
    cases h with
    | performs =>
      simp only [perform]
      split
      · exact .nothing rfl fun _ hf => hf
      · exact .nothing rfl fun _ hf => hf
  | openFile file =>
    rcases may_openFile h with ⟨handle, rfl, hopen⟩ | ⟨e, rfl, rfl⟩
    · obtain ⟨there, files, hleads, hfree, hfiles, -, rfl⟩ := openFile_eq_ok hopen
      exact .opens hleads hfree hfiles rfl rfl
    · exact .nothing rfl fun _ hf => hf
  | lockFile handle =>
    rcases may_lockFile h with ⟨_, rfl, -, -, rfl⟩ | ⟨-, rfl⟩
    · exact .nothing rfl fun _ hf => hf
    · exact .nothing rfl fun _ hf => hf
  | stamp handle =>
    obtain ⟨-, ⟨there, written, hplace, rfl⟩ | ⟨-, rfl⟩⟩ := may_stamp h
    · obtain ⟨f, hmem, -, rfl⟩ := locationOf?_eq_some hplace
      exact .writes hmem written rfl rfl
    · exact .nothing rfl fun _ hf => hf
  | unlockFile handle =>
    cases h with
    | performs => exact .nothing rfl fun _ hf => hf
  | closeFile handle =>
    cases h with
    | performs => exact .nothing rfl fun _ hf => (List.mem_filter.mp hf).1
  | freeLocal site =>
    cases h with
    | performs => exact .nothing rfl fun _ hf => hf

/-! ### All steps of a run -/

/-- A process takes the steps towards locks that are among the events, one after the other and with
the replies that they have got. -/
inductive LockTable.Follows (process : Nat) : History → LockTable → LockTable → Prop
  | nil {t : LockTable} : Follows process [] t t
  | takes {step : LockStep} {reply : step.Reply} {rest : History} {t t' t'' : LockTable}
      (h : LockTable.May process t step reply t') (hrest : Follows process rest t' t'') :
      Follows process (.asked (.lock step) reply :: rest) t t''
  | passes {event : Event} {rest : History} {t t' : LockTable}
      (hother : ∀ step reply, event ≠ .asked (.lock step) reply)
      (hrest : Follows process rest t t') : Follows process (event :: rest) t t'

/-- The disk after a run of the process that has left the tree, `now` being all that has happened:
the steps towards locks are done to the files of the tree. -/
def Disk (process : Nat) (tree : FileSystem) (now : History) (disk : FileSystem) : Prop :=
  ∃ t, LockTable.Follows process now { files := tree } t ∧ t.files = disk

/-- A lock file has been opened the path of which leads to the location. -/
def History.LockOpenedAt (now : History) (tree : FileSystem) (loc : Location) : Prop :=
  ∃ file handle, .asked (.lock (.openFile file)) (.ok handle) ∈ now ∧
    tree.trace .target file = .ok loc

/-- What every step keeps that may be among the events, all of them keep. -/
theorem LockTable.Follows.keeps {I : LockTable → Prop} (h : LockTable.Follows process now t t')
    (hstep : ∀ {step : LockStep} {reply : step.Reply} {t t' : LockTable},
      .asked (.lock step) reply ∈ now → t.Does step reply t' → I t → I t')
    (ht : I t) : I t' := by
  induction h with
  | nil => exact ht
  | takes hmay _ ih =>
    exact ih (fun hmem => hstep (List.mem_cons_of_mem _ hmem))
      (hstep List.mem_cons_self hmay.does ht)
  | passes _ _ ih => exact ih (fun hmem => hstep (List.mem_cons_of_mem _ hmem)) ht

/-! ### Files that are no lock files -/

/-- The file is there, no path of a lock file among the events leads to it, and it is not open. -/
structure LockTable.Spares (now : History) (loc : Location) (bytes : List UInt8) (t : LockTable) :
    Prop where
  file : t.files.node? loc = some (.file bytes)
  apart : ¬ now.LockOpenedAt t.files loc
  closed : ∀ f ∈ t.opened, f.location ≠ loc ∧ f.location ≠ []

theorem LockTable.Spares.put (h : t.Spares now loc bytes) {there : Location} (hne : there ≠ loc)
    (hthere : there ≠ []) (written : List UInt8)
    (hfiles : t'.files = t.files.put there (.file written))
    (hopened : ∀ f ∈ t'.opened, f.location ≠ loc ∧ f.location ≠ []) : t'.Spares now loc bytes := by
  have hfile : t'.files.node? loc = some (.file bytes) := by
    rw [hfiles, FileSystem.node?_put_of_ne hne.symm, h.file]
  refine ⟨hfile, ?_, hopened⟩
  -- A path that leads to the file now has led to it before.
  rintro ⟨file, handle, hmem, hleads⟩
  rw [hfiles] at hfile hleads
  exact h.apart ⟨file, handle, hmem,
    FileSystem.trace_of_thins (FileSystem.thins_put hthere written) hfile h.file hleads⟩

theorem LockTable.Spares.step (h : t.Spares now loc bytes) {step : LockStep} {reply : step.Reply}
    (hmem : .asked (.lock step) reply ∈ now) (hdoes : t.Does step reply t') :
    t'.Spares now loc bytes := by
  cases hdoes with
  | nothing hfiles hopened =>
    refine ⟨hfiles ▸ h.file, hfiles ▸ h.apart, fun f hf => h.closed f (hopened f hf)⟩
  | @opens file handle there f _ hleads hfree hfiles hopened hplace =>
    -- The file that is opened is another one, since no lock file is opened at the location.
    have hne : there ≠ loc := by
      rintro rfl
      exact h.apart ⟨file, handle, hmem, FileSystem.trace_target_of_file hleads⟩
    have hthere : there ≠ [] := by
      rintro rfl
      exact hfree rfl
    have hclosed : ∀ g ∈ t'.opened, g.location ≠ loc ∧ g.location ≠ [] := by
      intro g hg
      rw [hopened] at hg
      rcases List.mem_append.mp hg with hg | hg
      · exact h.closed g hg
      · rw [List.mem_singleton.mp hg, hplace]
        exact ⟨hne, hthere⟩
    rcases hfiles with hfiles | hfiles
    · exact ⟨hfiles ▸ h.file, hfiles ▸ h.apart, hclosed⟩
    · exact h.put hne hthere [] hfiles hclosed
  | writes hf written hfiles hopened =>
    obtain ⟨hne, hthere⟩ := h.closed _ hf
    exact h.put hne hthere written hfiles (hopened ▸ h.closed)

/-- **The disk has the files of the tree**, but for those to which the path of a lock file leads. -/
theorem Disk.file (h : Disk process tree now disk) (hfile : tree.node? loc = some (.file bytes))
    (hlock : ¬ now.LockOpenedAt tree loc) : disk.node? loc = some (.file bytes) := by
  obtain ⟨t, hfollows, rfl⟩ := h
  have hstart : LockTable.Spares now loc bytes { files := tree } :=
    ⟨hfile, hlock, fun f hf => by cases hf⟩
  exact (hfollows.keeps (fun hmem hdoes hspares => hspares.step hmem hdoes) hstart).file

/-! ### Ways on the disk -/

/-- The ways through the files are those through the tree, and no way goes on from what is open. -/
structure LockTable.Passable (tree : FileSystem) (t : LockTable) : Prop where
  ways : FileSystem.SameWays t.files tree
  stands : t.files.StandsInDirectory
  deadEnd : ∀ f ∈ t.opened, t.files.DeadEnd f.location

theorem LockTable.Passable.step (h : t.Passable tree) {step : LockStep} {reply : step.Reply}
    (hdoes : t.Does step reply t') : t'.Passable tree := by
  -- A file is put only at a dead end, where it is in nobody's way.
  have hput : ∀ {there : Location} {written : List UInt8}, t.files.DeadEnd there →
      t'.files = t.files.put there (.file written) →
      (∀ f ∈ t'.opened, f ∈ t.opened ∨ f.location = there) → t'.Passable tree := by
    intro there written hend hfiles hopened
    refine ⟨?_, ?_, fun f hf => ?_⟩ <;> rw [hfiles]
    · exact (FileSystem.sameWays_put hend written).trans h.ways
    · exact h.stands.put hend
    · rcases hopened f hf with hf | hplace
      · exact hend.put (h.deadEnd f hf)
      · exact hplace ▸ hend.put hend
  cases hdoes with
  | nothing hfiles hopened =>
    exact ⟨hfiles ▸ h.ways, hfiles ▸ h.stands, fun f hf => hfiles ▸ h.deadEnd f (hopened f hf)⟩
  | @opens _ _ there _ _ hleads hfree hfiles hopened hplace =>
    have hend := FileSystem.deadEnd_of_trace h.stands hleads hfree
    have hnew : ∀ f ∈ t'.opened, f ∈ t.opened ∨ f.location = there := by
      intro f hf
      rw [hopened] at hf
      rcases List.mem_append.mp hf with hf | hf
      · exact .inl hf
      · exact .inr (List.mem_singleton.mp hf ▸ hplace)
    -- The file was there, or it is made.
    rcases hfiles with hfiles | hfiles
    · refine ⟨hfiles ▸ h.ways, hfiles ▸ h.stands, fun f hf => ?_⟩
      rw [hfiles]
      rcases hnew f hf with hf | hplace
      · exact h.deadEnd f hf
      · exact hplace ▸ hend
    · exact hput hend hfiles hnew
  | writes hf written hfiles hopened =>
    exact hput (h.deadEnd _ hf) hfiles fun f hf => .inl (hopened ▸ hf)

/-- **What can be read in the tree can be read on the disk**, unless the path of a lock file leads
there. -/
theorem Disk.read (h : Disk process tree now disk) (hstands : tree.StandsInDirectory) {p : Path}
    (hleads : tree.trace .target p = .ok loc) (hfile : tree.node? loc = some (.file bytes))
    (hlock : ¬ now.LockOpenedAt tree loc) : disk.read p = .ok bytes := by
  have hnode := h.file hfile hlock
  obtain ⟨t, hfollows, rfl⟩ := h
  have hstart : LockTable.Passable tree { files := tree } :=
    ⟨.refl tree, hstands, fun f hf => by cases hf⟩
  have hpassable := hfollows.keeps (fun _ hdoes h => LockTable.Passable.step h hdoes) hstart
  rw [FileSystem.read, FileSystem.locate, hpassable.ways.trace_iff.mpr hleads]
  simp only [hnode]

/-! ### Runs that take no lock -/

/-- The event has to do with a lock. -/
def Event.locks : Event → Bool
  | .asked (.lock _) _ => true
  | _ => false

/-- Where no lock is asked for, the disk is the tree. -/
theorem disk_of_lockless (process : Nat) (tree : FileSystem)
    (h : now.all (fun event => !event.locks) = true) : Disk process tree now tree := by
  refine ⟨{ files := tree }, ?_, rfl⟩
  induction now with
  | nil => exact .nil
  | cons event rest ih =>
    rw [List.all_cons, Bool.and_eq_true, Bool.not_eq_true'] at h
    refine .passes ?_ (ih h.2)
    rintro step reply rfl
    cases h.1

end PluginSweep
