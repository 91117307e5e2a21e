/-
PluginSweep/Proofs/Lock/Order.lean

However the steps of attempts follow each other, and whichever of them are refused or
cut short by the death of their process, what the attempts have taken stays in order
(`Consistent`).  A step of an attempt is one of a few moves, and each of the three
parts of the table is kept in order by every move (`Consistent.moves`); so it is by
the first step of an attempt and by the end of a process, and hence everything that
can be reached is in order (`Reachable.consistent`).
-/
import PluginSweep.Proofs.Lock.Custody
import PluginSweep.Proofs.Lock.Interleaving

namespace PluginSweep.Lock

variable {dir : Path} {sites : Set String} {start : FileSystem}

/-! ### What an attempt has -/

/-- An attempt of a process on a site, and the step that it takes next. -/
structure Spot where
  process : Nat
  site : String
  point : Point

/-- The lock file that is open. -/
def Point.keeps? : Point → Option Handle
  | opening | givingUp _ | freeing => none
  | locking handle | stamping handle | withdrawing handle _ | inside handle | unlocking handle
  | closing handle => some handle

/-- The lock file that must stay locked. -/
def Point.holds? : Point → Option Handle
  | stamping handle | inside handle => some handle
  | _ => none

theorem Point.keeps?_of_holds? {p : Point} {handle : Handle} (h : p.holds? = some handle) :
    p.keeps? = some handle := by
  cases p with
  | stamping _ => exact h
  | inside _ => exact h
  | _ => cases h

namespace Spot

/-- The attempt. -/
def attempt (dir : Path) (a : Spot) : Attempt :=
  ⟨a.process, a.site, a.point.phase dir a.site⟩

/-- The local lock that it has taken. -/
def taken (a : Spot) : Nat × String :=
  (a.process, a.site)

/-- The lock file that it has open. -/
def keeper? (a : Spot) : Option Keeper :=
  a.point.keeps?.map (Keeper.mk a.process a.site)

/-- The lock file that must stay locked for it. -/
def holds? (a : Spot) : Option Handle :=
  a.point.holds?

theorem handle_of_holds? {a : Spot} {handle : Handle} (h : a.holds? = some handle) :
    a.keeper? = some ⟨a.process, a.site, handle⟩ := by
  rw [keeper?, Point.keeps?_of_holds? h]
  rfl

end Spot

/-- Attempts are in progress at the given spots, and the table is in order. -/
structure Consistent (dir : Path) (sites : Set String) (start : FileSystem)
    (spots : Nat → Option Spot) (c : Config) : Prop where
  attempts : c.attempts = fun i => (spots i).map (Spot.attempt dir)
  known : ∀ {i a}, spots i = some a → a.site ∈ sites
  localLocks : LocalsKept (fun i => (spots i).map Spot.taken) c.table.locals
  openFiles : FilesKept dir start (fun i => (spots i).bind Spot.keeper?) c.table.files
    c.table.opened c.table.nextHandle
  fileLocks : LocksKept (fun i => (spots i).bind Spot.holds?) c.table.opened c.table.locked

/-! ### One step -/

section Moves

variable {process : Nat} {site : String} {t t' : LockTable} {p : Point} {p' : Option Point}
  {i : Nat}

/-- A step gives the local lock back if it is the last one, and otherwise leaves it. -/
theorem Point.Moves.localLocks {takes : Nat → Option (Nat × String)}
    (h : p.Moves dir process site t p' t') (hkept : LocalsKept takes t.locals)
    (hi : takes i = some (process, site)) :
    LocalsKept (Function.update takes i (p'.map fun _ => (process, site))) t'.locals := by
  have hsame : LocalsKept (Function.update takes i (some (process, site))) t.locals := by
    rw [← hi, Function.update_eq_self]
    exact hkept
  cases h with
  | opens hopen =>
    obtain ⟨loc, files, -, -, -, -, rfl⟩ := LockTable.openFile_eq_ok hopen
    exact hsame
  | givesUp _ => exact hkept.free hi
  | frees => exact hkept.free hi
  | _ => exact hsame

/-- A step opens or closes the lock file of the attempt, or leaves all open files as they are. -/
theorem Point.Moves.openFiles {opens : Nat → Option Keeper}
    (h : p.Moves dir process site t p' t')
    (hkept : FilesKept dir start opens t.files t.opened t.nextHandle)
    (hi : opens i = p.keeps?.map (Keeper.mk process site)) :
    FilesKept dir start
      (Function.update opens i (p'.bind fun q => q.keeps?.map (Keeper.mk process site)))
      t'.files t'.opened t'.nextHandle := by
  have hsame : FilesKept dir start
      (Function.update opens i (p.keeps?.map (Keeper.mk process site))) t.files t.opened
      t.nextHandle := by
    rw [← hi, Function.update_eq_self]
    exact hkept
  cases h with
  | opens hopen =>
    obtain ⟨loc, files, htrace, hnode, hfiles, rfl, rfl⟩ := LockTable.openFile_eq_ok hopen
    have hend := FileSystem.deadEnd_of_trace hkept.stands htrace hnode
    -- The lock file was there, or it is made first.
    rcases hfiles with rfl | rfl
    · exact hkept.add hi htrace hend
    · exact (hkept.put hend []).add hi (FileSystem.trace_put_of_deadEnd hend htrace)
        (hend.put hend)
  | stamps bytes hloc =>
    obtain ⟨f, hf, -, rfl⟩ := LockTable.locationOf?_eq_some hloc
    exact hsame.put (hkept.deadEnd hf) bytes
  | stampRefused bytes e hloc =>
    obtain ⟨f, hf, -, rfl⟩ := LockTable.locationOf?_eq_some hloc
    exact hsame.put (hkept.deadEnd hf) bytes
  | withdraws handle e => exact hkept.close hi
  | closes handle => exact hkept.close hi
  | _ => exact hsame

/-- A step locks the lock file of the attempt or unlocks it, or leaves all locks as they are. -/
theorem Point.Moves.fileLocks {opens : Nat → Option Keeper} {holds : Nat → Option Handle}
    (h : p.Moves dir process site t p' t')
    (hfiles : FilesKept dir start opens t.files t.opened t.nextHandle)
    (hkept : LocksKept holds t.opened t.locked)
    (hi : opens i = p.keeps?.map (Keeper.mk process site)) (hi' : holds i = p.holds?)
    (hown : ∀ {j handle}, holds j = some handle → ∃ k, opens j = some k ∧ k.handle = handle) :
    LocksKept (Function.update holds i (p'.bind Point.holds?)) t'.opened t'.locked := by
  have hsame : LocksKept (Function.update holds i p.holds?) t.opened t.locked := by
    rw [← hi', Function.update_eq_self]
    exact hkept
  -- No other thread relies on the file that this one has open.
  have hother : ∀ {handle}, p.keeps? = some handle → ∀ j handle',
      Function.update holds i none j = some handle' →
      holds j = some handle' ∧ (handle' != handle) = true := by
    intro handle hkeeps j handle' hj
    rcases update_eq_some_iff.mp hj with ⟨-, heq⟩ | ⟨hne, hj⟩
    · cases heq
    · refine ⟨hj, bne_iff_ne.mpr ?_⟩
      rintro rfl
      obtain ⟨k, hk, hhandle⟩ := hown hj
      rw [hkeeps] at hi
      exact hne (hfiles.once hk hi hhandle)
  have hclosed : ∀ {handle}, p.keeps? = some handle → LocksKept (Function.update holds i none)
      (t.opened.filter (·.handle != handle)) (t.locked.filter (· != handle)) := by
    intro handle hkeeps
    refine (hkept.unlock (hother hkeeps)).filter fun f _ hlocked => ?_
    exact (List.mem_filter.mp hlocked).2
  cases h with
  | opens hopen =>
    obtain ⟨loc, files, -, -, -, rfl, rfl⟩ := LockTable.openFile_eq_ok hopen
    -- A new handle is not locked, since only open files are.
    refine (hkept.drop i).add fun hlocked => ?_
    obtain ⟨f, hf, hhandle⟩ := hkept.isOpen hlocked
    exact absurd hhandle (Nat.ne_of_lt (hfiles.fresh hf))
  | locks hloc hfree =>
    obtain ⟨f, hf, rfl, rfl⟩ := LockTable.locationOf?_eq_some hloc
    have hsame : ∀ g ∈ t.opened, g.handle = f.handle → g.location = f.location :=
      fun g hg heq => congrArg OpenFile.location (hfiles.fileOnce hg hf heq)
    have hnone : ∀ g ∈ t.opened, g.handle ≠ f.handle → g.location = f.location →
        g.handle ∉ t.locked := by
      intro g hg hne heq hlocked
      have hany : t.lockedElsewhere f.handle f.location = true := by
        refine List.any_eq_true.mpr ⟨g, hg, ?_⟩
        simp only [Bool.and_eq_true, bne_iff_ne, beq_iff_eq, List.contains_iff_mem]
        exact ⟨⟨hne, heq⟩, hlocked⟩
      rw [hfree] at hany
      cases hany
    exact hkept.lock ⟨f, hf, rfl⟩ hsame hnone
  | stamps bytes hloc => exact hsame
  | unlocks handle => exact hkept.unlock (hother rfl)
  | withdraws handle e => exact hclosed rfl
  | closes handle => exact hclosed rfl
  | _ => exact hkept.drop i

end Moves

section Steps

variable {spots : Nat → Option Spot} {c c' : Config} {i : Nat}

/-- What is seen of all threads, after a change at one of them. -/
theorem view_update {α β : Type} (view : Option α → Option β) (f : Nat → Option α) (i : Nat)
    (x : Option α) : (fun j => view (Function.update f i x j)) =
      Function.update (fun j => view (f j)) i (view x) :=
  funext fun j => Function.apply_update (fun _ => view) f i x j

/-- An attempt that holds a lock file has it open. -/
theorem keeper_of_holds {handle : Handle} (h : (spots i).bind Spot.holds? = some handle) :
    ∃ k, (spots i).bind Spot.keeper? = some k ∧ k.handle = handle := by
  obtain ⟨a, ha, hholds⟩ := Option.bind_eq_some_iff.mp h
  exact ⟨_, Option.bind_eq_some_iff.mpr ⟨a, ha, Spot.handle_of_holds? hholds⟩, rfl⟩

/-- **A step of an attempt keeps the table in order.** -/
theorem Consistent.moves (h : Consistent dir sites start spots c) {a : Spot}
    (hi : spots i = some a) {p' : Option Point} {t' : LockTable}
    (hmoves : a.point.Moves dir a.process a.site c.table p' t') :
    Consistent dir sites start
      (Function.update spots i (p'.map (Spot.mk a.process a.site)))
      ⟨t', Function.update c.attempts i
        ((p'.map (Point.phase dir a.site)).map (Attempt.mk a.process a.site))⟩ where
  attempts := by
    rw [view_update (Option.map (Spot.attempt dir)), h.attempts, Option.map_map, Option.map_map]
    rfl
  known := by
    intro j b hj
    rcases update_eq_some_iff.mp hj with ⟨-, heq⟩ | ⟨-, hj⟩
    · obtain ⟨q, -, rfl⟩ := Option.map_eq_some_iff.mp heq
      show a.site ∈ sites
      exact h.known hi
    · exact h.known hj
  localLocks := by
    rw [view_update (Option.map Spot.taken), Option.map_map]
    exact hmoves.localLocks h.localLocks (by rw [hi]; rfl)
  openFiles := by
    rw [view_update (Option.bind · Spot.keeper?), Option.bind_map]
    exact hmoves.openFiles h.openFiles (by rw [hi]; rfl)
  fileLocks := by
    rw [view_update (Option.bind · Spot.holds?), Option.bind_map]
    exact hmoves.fileLocks h.openFiles h.fileLocks (by rw [hi]; rfl) (by rw [hi]; rfl)
      keeper_of_holds

/-- The first step of an attempt keeps the table in order: it takes the local lock. -/
theorem Consistent.begins (h : Consistent dir sites start spots c) (hidle : spots i = none)
    {process : Nat} {site : String} (hsite : site ∈ sites)
    (hfree : (process, site) ∉ c.table.locals) :
    Consistent dir sites start (Function.update spots i (some ⟨process, site, .opening⟩))
      ⟨{ c.table with locals := (process, site) :: c.table.locals },
        Function.update c.attempts i (some ⟨process, site, Point.opening.phase dir site⟩)⟩ where
  attempts := by
    rw [view_update (Option.map (Spot.attempt dir)), h.attempts]
    rfl
  known := by
    intro j b hj
    rcases update_eq_some_iff.mp hj with ⟨-, heq⟩ | ⟨-, hj⟩
    · obtain rfl := Option.some.inj heq
      exact hsite
    · exact h.known hj
  localLocks := by
    rw [view_update (Option.map Spot.taken)]
    exact h.localLocks.take (by rw [hidle]; rfl) hfree
  -- It has opened nothing yet.
  openFiles := by
    rw [view_update (Option.bind · Spot.keeper?), Function.update_eq_self_iff.mpr]
    · exact h.openFiles
    · rw [hidle]
      rfl
  fileLocks := by
    rw [view_update (Option.bind · Spot.holds?), Function.update_eq_self_iff.mpr]
    · exact h.fileLocks
    · rw [hidle]
      rfl

/-- Of the threads that are left when a process dies, what belonged to one belongs to it. -/
theorem keeper_filter (x : Option Spot) (process : Nat) :
    (x.filter (·.process != process)).bind Spot.keeper? =
      (x.bind Spot.keeper?).filter (·.process != process) := by
  cases x with
  | none => rfl
  | some a =>
    rcases hkeeps : a.point.keeps? with - | handle
    · have hnone : a.keeper? = none := by
        rw [Spot.keeper?, hkeeps]
        rfl
      by_cases hdead : a.process = process <;> simp [Option.filter, hdead, hnone]
    · have hsome : a.keeper? = some ⟨a.process, a.site, handle⟩ := by
        rw [Spot.keeper?, hkeeps]
        rfl
      by_cases hdead : a.process = process <;> simp [Option.filter, hdead, hsome]

/-- The end of a process keeps the table in order. -/
theorem Consistent.dies (h : Consistent dir sites start spots c) (process : Nat) :
    Consistent dir sites start (fun i => (spots i).filter (·.process != process))
      ⟨c.table.endProcess process, fun i =>
        (c.attempts i).filter (·.process != process)⟩ where
  attempts := by
    funext i
    show (c.attempts i).filter (·.process != process) = _
    rw [h.attempts, Option.filter_map]
    rfl
  known := fun hi => h.known (Option.filter_eq_some_iff.mp hi).1
  localLocks := by
    have hview : (fun i => ((spots i).filter (·.process != process)).map Spot.taken) =
        fun i => ((spots i).map Spot.taken).filter (·.1 != process) := by
      funext i
      rw [Option.filter_map]
      rfl
    rw [hview]
    exact h.localLocks.endProcess process
  openFiles := by
    simp only [keeper_filter]
    exact h.openFiles.endProcess process
  fileLocks := by
    -- What is held by a thread that is left was not opened by the process.
    have hleft : ∀ i handle,
        ((spots i).filter (·.process != process)).bind Spot.holds? = some handle →
        (spots i).bind Spot.holds? = some handle ∧
          ∀ f ∈ c.table.opened, f.handle = handle → f.process ≠ process := by
      intro i handle hi
      obtain ⟨a, ha, hholds⟩ := Option.bind_eq_some_iff.mp hi
      obtain ⟨ha, halive⟩ := Option.filter_eq_some_iff.mp ha
      refine ⟨Option.bind_eq_some_iff.mpr ⟨a, ha, hholds⟩, fun f hf hhandle => ?_⟩
      have hkeeper : (spots i).bind Spot.keeper? = some ⟨a.process, a.site, handle⟩ :=
        Option.bind_eq_some_iff.mpr ⟨a, ha, Spot.handle_of_holds? hholds⟩
      rw [← h.openFiles.process_eq hf hkeeper hhandle.symm]
      exact bne_iff_ne.mp halive
    refine (h.fileLocks.unlock fun i handle hi => ?_).filter fun f hf hlocked => ?_
    · obtain ⟨hbefore, hprocess⟩ := hleft i handle hi
      refine ⟨hbefore, ?_⟩
      simpa using fun f hf hdead hhandle => hprocess f hf hhandle hdead
    · have hnot := (List.mem_filter.mp hlocked).2
      rw [bne_iff_ne]
      rintro hdead
      have hclosed : f.handle ∈
          (c.table.opened.filter (·.process == process)).map (·.handle) :=
        List.mem_map_of_mem (List.mem_filter.mpr ⟨hf, beq_iff_eq.mpr hdead⟩)
      rw [List.contains_iff_mem.mpr hclosed] at hnot
      cases hnot

theorem Consistent.initial (hstands : start.StandsInDirectory) :
    Consistent dir sites start (fun _ => none) (.initial start) where
  attempts := rfl
  known := fun hi => by cases hi
  localLocks := ⟨fun hi => (by cases hi), fun hi => (by cases hi), fun hk => (by cases hk)⟩
  openFiles := ⟨hstands, id, fun hi => (by cases hi), fun hi => (by cases hi),
    fun hf => (by cases hf), fun hf => (by cases hf), fun hf => (by cases hf),
    fun hf => (by cases hf)⟩
  fileLocks := ⟨fun hi => (by cases hi), fun hk => (by cases hk), fun hf => (by cases hf)⟩

theorem Consistent.spot (h : Consistent dir sites start spots c) {a : Attempt}
    (hi : c.attempts i = some a) : ∃ b, spots i = some b ∧ b.attempt dir = a := by
  rw [h.attempts] at hi
  exact Option.map_eq_some_iff.mp hi

theorem Consistent.idle (h : Consistent dir sites start spots c) (hi : c.attempts i = none) :
    spots i = none := by
  rw [h.attempts] at hi
  exact Option.map_eq_none_iff.mp hi

theorem Consistent.step (h : Consistent dir sites start spots c) (hstep : Step dir sites c c') :
    ∃ spots', Consistent dir sites start spots' c' := by
  cases hstep with
  | @begins thread process site phase table hidle hsite hfirst =>
    rcases Phase.goes_acquire hfirst with ⟨-, rfl, rfl⟩ | ⟨hfree, rfl, rfl⟩
    · -- The attempt is refused at once, and everything is as before.
      have hsame : Function.update c.attempts thread none = c.attempts :=
        Function.update_eq_self_iff.mpr hidle.symm
      rw [Option.map_none, hsame]
      exact ⟨spots, h⟩
    · exact ⟨_, h.begins (h.idle hidle) hsite hfree⟩
  | goes hattempt hgoes =>
    obtain ⟨a, ha, rfl⟩ := h.spot hattempt
    obtain ⟨p', rfl, hmoves⟩ := Phase.Goes.moves hgoes
    exact ⟨_, h.moves ha hmoves⟩
  | dies process => exact ⟨_, h.dies process⟩

/-- **Whatever can be reached is in order.** -/
theorem Reachable.consistent (hstands : start.StandsInDirectory)
    (h : Reachable dir sites start c) : ∃ spots, Consistent dir sites start spots c := by
  induction h with
  | initial => exact ⟨_, .initial hstands⟩
  | step _ hstep ih =>
    obtain ⟨spots, hspots⟩ := ih
    exact hspots.step hstep

end Steps

end PluginSweep.Lock
