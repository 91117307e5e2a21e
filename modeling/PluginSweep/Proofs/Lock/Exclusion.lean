/-
PluginSweep/Proofs/Lock/Exclusion.lean

One body at a time, and nothing left behind.  Two things follow of every configuration
that steps of attempts can lead to (`exclusive_and_free`).  At most one attempt is
inside for any one site.  And while no attempt on a site is in progress, its local locks
are free; so is the lock on its file, and the next attempt for which the file can be
opened succeeds, if no attempt is in progress on another site with the same lock file.

Sites whose digests differ have lock files of their own, unless one of the files is a
link.  Then an attempt on one of them can keep the other one out, though no attempt on
that one is in progress (`linked_lock_file_is_busy`).
-/
import PluginSweep.Proofs.Lock.Order
import Mathlib.Data.Set.Insert
import Mathlib.Data.Set.Operations

namespace PluginSweep.Lock

variable {dir : Path} {sites : Set String} {start : FileSystem}

/-! ### One at a time -/

section Exclusion

variable {spots : Nat → Option Spot} {c : Config} {site : String}

theorem Point.eq_inside {p : Point} {held : HeldLock} (h : p.phase dir site = .inside held) :
    ∃ handle, p = .inside handle := by
  cases p with
  | inside handle => exact ⟨handle, rfl⟩
  | _ => cases h

/-- A thread that is inside holds the lock file, which is where its path leads. -/
theorem Consistent.lockFile (h : Consistent dir sites start spots c) {i : Nat}
    (hi : c.Inside i site) : ∃ f ∈ c.table.opened, f.handle ∈ c.table.locked ∧
      c.table.files.trace .file (fileOf dir site) = .ok f.location ∧
      ∃ k, (spots i).bind Spot.keeper? = some k ∧ k.handle = f.handle := by
  obtain ⟨process, held, hattempt⟩ := hi
  obtain ⟨a, ha, heq⟩ := h.spot hattempt
  obtain ⟨rfl, hrest⟩ := Attempt.mk.inj heq
  obtain ⟨rfl, hphase⟩ := hrest
  obtain ⟨handle, hpoint⟩ := Point.eq_inside hphase
  have hholds : a.holds? = some handle := by
    rw [Spot.holds?, hpoint]
    rfl
  have hlocked : handle ∈ c.table.locked :=
    h.fileLocks.held (Option.bind_eq_some_iff.mpr ⟨a, ha, hholds⟩)
  have hkeeper : (spots i).bind Spot.keeper? = some ⟨a.process, a.site, handle⟩ :=
    Option.bind_eq_some_iff.mpr ⟨a, ha, Spot.handle_of_holds? hholds⟩
  obtain ⟨f, hf, rfl, -, htrace⟩ := h.openFiles.isOpen hkeeper
  exact ⟨f, hf, hlocked, htrace, _, hkeeper, rfl⟩

/-- At most one thread is inside for a site. -/
theorem Consistent.exclusive (h : Consistent dir sites start spots c) {i j : Nat}
    (hi : c.Inside i site) (hj : c.Inside j site) : i = j := by
  obtain ⟨f, hf, hlocked, htrace, k, hk, hhandle⟩ := h.lockFile hi
  obtain ⟨g, hg, hlocked', htrace', k', hk', hhandle'⟩ := h.lockFile hj
  -- Both files are where the path of the site leads, so at most one of them is locked.
  have hloc : f.location = g.location := Except.ok.inj (htrace.symm.trans htrace')
  have hsame : f.handle = g.handle := h.fileLocks.exclusive hf hg hloc hlocked hlocked'
  exact h.openFiles.once hk hk' (by rw [hhandle, hhandle', hsame])

/-! ### Nothing left behind -/

/-- The local lock of the site is free in every process, and so is the lock on its file. -/
def Config.Free (c : Config) (dir : Path) (site : String) : Prop :=
  (∀ process, (process, site) ∉ c.table.locals) ∧
    ∀ loc, c.table.files.trace .file (fileOf dir site) = .ok loc →
      ∀ f ∈ c.table.opened, f.location = loc → f.handle ∉ c.table.locked

/-- The lock files of two sites are at one place. -/
def Config.SharesLockFile (c : Config) (dir : Path) (site other : String) : Prop :=
  ∃ loc, c.table.files.trace .file (fileOf dir site) = .ok loc ∧
    c.table.files.trace .file (fileOf dir other) = .ok loc

/-- A link has the name of the lock file of the site. -/
def LinkNamedFor (fs : FileSystem) (site : String) : Prop :=
  ∃ loc target, fs.node? loc = some (.link target) ∧ loc.getLast? = some (nameOf site)

/-- Lock files of different sites are at one place only by a link. -/
theorem Consistent.eq_or_link (h : Consistent dir sites start spots c)
    (hdigests : Set.InjOn Digest.short sites) (hsite : site ∈ sites) {other : String}
    (hother : other ∈ sites) (hshares : c.SharesLockFile dir site other) :
    other = site ∨ LinkNamedFor start site ∨ LinkNamedFor start other := by
  obtain ⟨loc, htrace, htrace'⟩ := hshares
  by_cases hlink : LinkNamedFor start site
  · exact .inr (.inl hlink)
  · by_cases hlink' : LinkNamedFor start other
    · exact .inr (.inr hlink')
    · -- Neither is a link, so the place has the names of both lock files.
      have hlast : ∀ {key}, ¬ LinkNamedFor start key →
          c.table.files.trace .file (fileOf dir key) = .ok loc →
          loc.getLast? = some (nameOf key) := by
        intro key hnone hto
        refine getLast?_of_trace_fileOf (fun there target hthere hname => hnone ?_) hto
        exact ⟨there, target, h.openFiles.links hthere, hname⟩
      have hname : nameOf other = nameOf site :=
        Option.some.inj ((hlast hlink' htrace').symm.trans (hlast hlink htrace))
      exact .inl (hdigests hother hsite (nameOf_inj hname))

/-- An open file that is where the path of a site leads was opened by an attempt on a site with the
same lock file. -/
theorem Consistent.opener (h : Consistent dir sites start spots c) {f : OpenFile}
    (hf : f ∈ c.table.opened)
    (htrace : c.table.files.trace .file (fileOf dir site) = .ok f.location) :
    ∃ i a, spots i = some a ∧ c.SharesLockFile dir site a.site ∧
      a.point.keeps? = some f.handle := by
  obtain ⟨i, k, hk, hhandle⟩ := h.openFiles.byThread hf
  obtain ⟨a, ha, hkeeper⟩ := Option.bind_eq_some_iff.mp hk
  obtain ⟨handle, hkeeps, rfl⟩ := Option.map_eq_some_iff.mp hkeeper
  obtain ⟨g, hg, hghandle, -, hgtrace⟩ := h.openFiles.isOpen hk
  obtain rfl := h.openFiles.fileOnce hg hf (hghandle.trans hhandle)
  refine ⟨i, a, ha, ⟨g.location, htrace, hgtrace⟩, ?_⟩
  rw [hkeeps, ← hhandle]

theorem Consistent.busy_of_spot (h : Consistent dir sites start spots c) {i : Nat} {a : Spot}
    (hi : spots i = some a) : c.Busy a.site := by
  refine ⟨i, a.attempt dir, ?_, rfl⟩
  have hattempts : c.attempts i = (spots i).map (Spot.attempt dir) := congrFun h.attempts i
  rw [hattempts, hi]
  rfl

/-- While no attempt on a site is in progress, its local locks are free. -/
theorem Consistent.local_free (h : Consistent dir sites start spots c) (hidle : ¬ c.Busy site)
    (process : Nat) : (process, site) ∉ c.table.locals := by
  intro hmem
  obtain ⟨i, hi⟩ := h.localLocks.byThread hmem
  obtain ⟨a, ha, heq⟩ := Option.map_eq_some_iff.mp hi
  obtain ⟨-, rfl⟩ := Prod.mk.inj heq
  exact hidle (h.busy_of_spot ha)

/-- While no attempt is in progress on any site with the lock file, the lock on it is free. -/
theorem Consistent.file_free (h : Consistent dir sites start spots c)
    (hidle : ∀ other, c.SharesLockFile dir site other → ¬ c.Busy other) {loc : Location}
    (htrace : c.table.files.trace .file (fileOf dir site) = .ok loc) {f : OpenFile}
    (hf : f ∈ c.table.opened) (hloc : f.location = loc) : f.handle ∉ c.table.locked := by
  obtain rfl := hloc
  obtain ⟨i, a, ha, hshares, -⟩ := h.opener hf htrace
  exact absurd (h.busy_of_spot ha) (hidle a.site hshares)

theorem Point.eq_locking {p : Point} {handle : Handle}
    {next : Except OsError Bool → Locking (Except LockError HeldLock)}
    (h : p.phase dir site = .entering (.ask (.lockFile handle) next)) : p = .locking handle := by
  have hasks : p.asks? dir site = some (.lockFile handle) := by
    rw [← Point.asks?_phase, h]
    rfl
  cases p with
  | locking _ =>
    cases hasks
    rfl
  | _ => cases hasks

/-- An attempt finds the lock file locked only while another one is in progress, on the site or on
one with the same lock file. -/
theorem Consistent.busy_elsewhere (h : Consistent dir sites start spots c) {i : Nat}
    {process : Nat} {handle : Handle}
    {next : Except OsError Bool → Locking (Except LockError HeldLock)}
    (hi : c.attempts i = some ⟨process, site, .entering (.ask (.lockFile handle) next)⟩)
    (hbusy : (c.table.perform process (.lockFile handle)).1 = .ok false) :
    ∃ j b, j ≠ i ∧ c.attempts j = some b ∧ c.SharesLockFile dir site b.site := by
  obtain ⟨a, ha, heq⟩ := h.spot hi
  obtain ⟨rfl, hrest⟩ := Attempt.mk.inj heq
  obtain ⟨rfl, hphase⟩ := hrest
  have hkeeper : (spots i).bind Spot.keeper? = some ⟨a.process, a.site, handle⟩ := by
    rw [ha]
    show a.point.keeps?.map (Keeper.mk a.process a.site) = _
    rw [Point.eq_locking hphase]
    rfl
  obtain ⟨f, hf, rfl, -, htrace⟩ := h.openFiles.isOpen hkeeper
  -- The lock is refused for another open file at the same location.
  obtain ⟨g, hg, hne, hloc⟩ : ∃ g ∈ c.table.opened, g.handle ≠ f.handle ∧
      g.location = f.location := by
    rcases hfound : c.table.locationOf? f.handle with - | loc
    · simp only [LockTable.perform, hfound] at hbusy
      cases hbusy
    · obtain ⟨f', hf', hhandle, rfl⟩ := LockTable.locationOf?_eq_some hfound
      obtain rfl := h.openFiles.fileOnce hf' hf hhandle
      by_cases helsewhere : c.table.lockedElsewhere f'.handle f'.location = true
      · obtain ⟨g, hg, hlocked⟩ := List.any_eq_true.mp helsewhere
        simp only [Bool.and_eq_true, bne_iff_ne, beq_iff_eq] at hlocked
        exact ⟨g, hg, hlocked.1.1, hlocked.1.2⟩
      · simp only [LockTable.perform, hfound, if_neg helsewhere] at hbusy
        cases hbusy
  rw [← hloc] at htrace
  obtain ⟨j, b, hj, hshares, hkeeps⟩ := h.opener hg htrace
  refine ⟨j, b.attempt dir, ?_, ?_, hshares⟩
  · rintro rfl
    obtain rfl := Option.some.inj (hj.symm.trans ha)
    rw [Point.eq_locking hphase] at hkeeps
    exact hne (Option.some.inj hkeeps).symm
  · have hattempts : c.attempts j = (spots j).map (Spot.attempt dir) := congrFun h.attempts j
    rw [hattempts, hj]
    rfl

end Exclusion

/-! ### The next attempt -/

section Answer

variable {process : Nat} {site : String} {t t' : LockTable} {handle : Handle}

theorem openFile_locals (locals : List (Nat × String)) (file : Path) :
    ({ t with locals }).openFile process file =
      ((t.openFile process file).1, { (t.openFile process file).2 with locals }) := by
  simp only [LockTable.openFile]
  split
  · rfl
  · split
    · rfl
    · split <;> rfl

/-- A lock file that is open is locked and stamped, if no other open file has it locked. -/
theorem answer_lockOpened {file : Path} {loc : Location} (hloc : t.locationOf? handle = some loc)
    (hfree : t.lockedElsewhere handle loc = false) :
    ((lockOpened site file handle).answer (LockTable.perform process) t).1 =
      .ok ⟨site, file, handle⟩ := by
  have hlock : LockTable.perform process (.lockFile handle) t =
      (.ok true, { t with locked := handle :: t.locked.filter (· != handle) }) := by
    simp only [LockTable.perform, hloc, hfree]
    rfl
  have hstamp : LockTable.perform process (.stamp handle)
      { t with locked := handle :: t.locked.filter (· != handle) } =
      (.ok (), { t with
        files := t.files.put loc (.file (Text.encode (Text.decimal process)))
        locked := handle :: t.locked.filter (· != handle) }) := by
    have hloc' : LockTable.locationOf?
        { t with locked := handle :: t.locked.filter (· != handle) } handle = some loc := hloc
    simp only [LockTable.perform, hloc']
  have hlocked := Dialogue.answer_eq_of_reply (d := lockOpened site file handle) rfl hlock
  have hstamped := Dialogue.answer_eq_of_reply (d := stampFile site file handle) rfl hstamp
  rw [hlocked]
  exact congrArg Prod.fst hstamped

/-- An attempt that takes its steps one right after the other succeeds, if the locks are free and
the lock file can be opened. -/
theorem answer_acquire (hlocal : (process, site) ∉ t.locals)
    (hfree : ∀ loc, t.files.trace .file (fileOf dir site) = .ok loc →
      ∀ f ∈ t.opened, f.location = loc → f.handle ∉ t.locked)
    (hfresh : ∀ f ∈ t.opened, f.handle < t.nextHandle)
    (hopen : t.openFile process (fileOf dir site) = (.ok handle, t')) :
    ((acquire dir site).answer (LockTable.perform process) t).1 =
      .ok ⟨site, fileOf dir site, handle⟩ := by
  have htake : LockTable.perform process (.takeLocal site) t =
      (true, { t with locals := (process, site) :: t.locals }) :=
    if_neg fun hmem => hlocal (List.contains_iff_mem.mp hmem)
  have hopens : LockTable.perform process (.openFile (fileOf dir site))
      { t with locals := (process, site) :: t.locals } =
      (.ok handle, { t' with locals := (process, site) :: t.locals }) := by
    rw [LockTable.perform_openFile, openFile_locals, hopen]
  have htaken := Dialogue.answer_eq_of_reply (d := acquire dir site) rfl htake
  have hopened := Dialogue.answer_eq_of_reply (d := openLock site (fileOf dir site)) rfl hopens
  rw [htaken]
  refine (congrArg Prod.fst hopened).trans ?_
  obtain ⟨loc, files, htrace, -, -, rfl, rfl⟩ := LockTable.openFile_eq_ok hopen
  -- The new handle is that of no file opened before.
  have hnew : ∀ f ∈ t.opened, (f.handle == t.nextHandle) = false :=
    fun f hf => beq_false_of_ne (Nat.ne_of_lt (hfresh f hf))
  have hnotFound : t.opened.find? (·.handle == t.nextHandle) = none := by
    rw [List.find?_eq_none]
    intro f hf
    rw [hnew f hf]
    exact Bool.false_ne_true
  have hnone : ∀ f ∈ t.opened ++ [⟨t.nextHandle, process, loc⟩],
      ¬ (f.handle != t.nextHandle && f.location == loc && t.locked.contains f.handle) = true := by
    intro f hf hlocked
    simp only [Bool.and_eq_true, bne_iff_ne, beq_iff_eq, List.contains_iff_mem] at hlocked
    obtain ⟨⟨hne, hloc⟩, hlocked⟩ := hlocked
    rcases List.mem_append.mp hf with hf | hf
    · exact hfree loc htrace f hf hloc hlocked
    · rw [List.mem_singleton.mp hf] at hne
      exact hne rfl
  exact answer_lockOpened (by simp [LockTable.locationOf?, hnotFound])
    (List.any_eq_false.mpr hnone)

end Answer

/-- **One body at a time, and nothing left behind.**  Whatever steps of attempts lead to: at most
one attempt is inside for any one site.  While no attempt on a site is in progress, its local locks
are free.  If none is in progress on another site with the same lock file either, both locks are
free, and the next attempt succeeds, if the lock file can be opened for it.  An attempt finds the
lock file locked only while another one is in progress on a site with that lock file.  And sites
with different digests have the same lock file only by a link that has its name. -/
theorem exclusive_and_free {c : Config} (hdigests : Set.InjOn Digest.short sites)
    (hstands : start.StandsInDirectory) (h : Reachable dir sites start c) :
    (∀ site i j, c.Inside i site → c.Inside j site → i = j) ∧
    ∀ site ∈ sites,
      (¬ c.Busy site → ∀ process, (process, site) ∉ c.table.locals) ∧
      (¬ c.Busy site → (∀ other, c.SharesLockFile dir site other → ¬ c.Busy other) →
        c.Free dir site ∧ ∀ process handle t,
          c.table.openFile process (fileOf dir site) = (.ok handle, t) →
          ((acquire dir site).answer (LockTable.perform process) c.table).1 =
            .ok ⟨site, fileOf dir site, handle⟩) ∧
      (∀ i process handle next,
        c.attempts i = some ⟨process, site, .entering (.ask (.lockFile handle) next)⟩ →
        (c.table.perform process (.lockFile handle)).1 = .ok false →
        ∃ j b, j ≠ i ∧ c.attempts j = some b ∧ c.SharesLockFile dir site b.site) ∧
      ∀ other ∈ sites, c.SharesLockFile dir site other →
        other = site ∨ LinkNamedFor start site ∨ LinkNamedFor start other := by
  obtain ⟨spots, horder⟩ := h.consistent hstands
  refine ⟨fun site i j hi hj => horder.exclusive hi hj, fun site hsite => ⟨?_, ?_, ?_, ?_⟩⟩
  · -- The local locks.
    exact horder.local_free
  · -- Both locks, and the next attempt.
    intro hidle hothers
    have hlocal := horder.local_free hidle
    have hfile : ∀ loc, c.table.files.trace .file (fileOf dir site) = .ok loc →
        ∀ f ∈ c.table.opened, f.location = loc → f.handle ∉ c.table.locked :=
      fun _ htrace _ hf => horder.file_free hothers htrace hf
    refine ⟨⟨hlocal, hfile⟩, fun process handle t hopen => ?_⟩
    exact answer_acquire (hlocal process) hfile (fun f hf => horder.openFiles.fresh hf) hopen
  · -- The lock file found locked.
    intro i process handle next hi hbusy
    exact horder.busy_elsewhere hi hbusy
  · -- Lock files that are one.
    intro other hother hshares
    exact horder.eq_or_link hdigests hsite hother hshares

/-- A disk with a directory for lock files. -/
def room : FileSystem := { entries := [(["locks"], .directory)], cwd := [], homes := [] }

/-- That directory. -/
def roomDir : Path := ⟨"/", ["locks"]⟩

/-- A process has taken the lock of a site and has died inside. -/
def crashed : Config where
  table :=
    ((acquire roomDir "/srv/a").answer (LockTable.perform 7) { files := room }).2.endProcess 7
  attempts := fun _ => none

theorem reachable_crashed : Reachable roomDir {"/srv/a", "/srv/b"} room crashed := by
  have hstart : Reachable roomDir {"/srv/a", "/srv/b"} room (.initial room) := .initial
  have hidle : (Config.initial room).attempts 0 = none := rfl
  have hsite : "/srv/a" ∈ ({"/srv/a", "/srv/b"} : Set String) := Set.mem_insert _ _
  have hdies := (hstart.acquires hidle 7 hsite).step (.dies 7)
  have hnone : ∀ x : Option Phase,
      (x.map (Attempt.mk 7 "/srv/a")).filter (·.process != 7) = none := by
    rintro (- | phase) <;> rfl
  have hattempts : ∀ x : Option Phase, (fun thread =>
      (Function.update (Config.initial room).attempts 0 (x.map (Attempt.mk 7 "/srv/a"))
        thread).filter (·.process != 7)) = fun _ => none := by
    intro x
    funext thread
    rw [Function.update_apply]
    split
    · exact hnone x
    · rfl
  rw [hattempts] at hdies
  exact hdies

theorem digests_differ : Set.InjOn Digest.short {"/srv/a", "/srv/b"} := by
  have hne : Digest.short "/srv/a" ≠ Digest.short "/srv/b" := by decide +kernel
  rintro x (rfl | rfl) y (rfl | rfl) heq
  · rfl
  · exact absurd heq hne
  · exact absurd heq.symm hne
  · rfl

/-- The locks that the process had are free, and the next attempt on the site succeeds. -/
theorem exclusive_and_free_after_crash :
    crashed.Free roomDir "/srv/a" ∧
      ((acquire roomDir "/srv/a").answer (LockTable.perform 8) crashed.table).1 =
        .ok ⟨"/srv/a", fileOf roomDir "/srv/a", 1⟩ := by
  have hstands : room.StandsInDirectory := by
    intro loc hloc
    rw [List.prefix_nil.mp hloc]
    rfl
  have hsite : "/srv/a" ∈ ({"/srv/a", "/srv/b"} : Set String) := Set.mem_insert _ _
  have hidle : ∀ site, ¬ crashed.Busy site := fun _ ⟨_, _, hsome, _⟩ => by cases hsome
  obtain ⟨-, hsites⟩ := exclusive_and_free digests_differ hstands reachable_crashed
  obtain ⟨-, hboth, -, -⟩ := hsites _ hsite
  obtain ⟨hfree, hnext⟩ := hboth (hidle _) fun other _ => hidle other
  have hopen : (crashed.table.openFile 8 (fileOf roomDir "/srv/a")).1 = .ok 1 := by
    decide +kernel
  exact ⟨hfree, hnext 8 1 _ (Prod.ext hopen rfl)⟩

/-! ### A lock file that is a link to another one -/

/-- The same directory, in which the lock file of `/srv/b` is a link to that of `/srv/a`. -/
def linkedRoom : FileSystem :=
  { room with entries :=
      (["locks", nameOf "/srv/b"], .link (nameOf "/srv/a")) :: room.entries }

/-- The table after a process has taken the lock of `/srv/a`. -/
def occupiedTable : LockTable :=
  ((acquire roomDir "/srv/a").answer (LockTable.perform 7) { files := linkedRoom }).2

/-- The attempt of the process is inside. -/
def occupied : Config where
  table := occupiedTable
  attempts := Function.update (fun _ => none) 0
    (some ⟨7, "/srv/a", .inside ⟨"/srv/a", fileOf roomDir "/srv/a", 0⟩⟩)

theorem reachable_occupied : Reachable roomDir {"/srv/a", "/srv/b"} linkedRoom occupied := by
  have hstart : Reachable roomDir {"/srv/a", "/srv/b"} linkedRoom (.initial linkedRoom) := .initial
  have hidle : (Config.initial linkedRoom).attempts 0 = none := rfl
  have hsite : "/srv/a" ∈ ({"/srv/a", "/srv/b"} : Set String) := Set.mem_insert _ _
  have htaken : ((acquire roomDir "/srv/a").answer (LockTable.perform 7)
      { files := linkedRoom }).1 = .ok ⟨"/srv/a", fileOf roomDir "/srv/a", 0⟩ := by
    decide +kernel
  have hinside := hstart.acquires hidle 7 hsite
  rw [show (Config.initial linkedRoom).table = { files := linkedRoom } from rfl, htaken] at hinside
  exact hinside

/-- **A lock file that is a link.**  No attempt on `/srv/b` is in progress, and its lock file can be
opened; but the file is that of `/srv/a`, on which an attempt is inside: its lock is not free, and
the next attempt on `/srv/b` is refused. -/
theorem linked_lock_file_is_busy :
    Set.InjOn Digest.short {"/srv/a", "/srv/b"} ∧ linkedRoom.StandsInDirectory ∧
    Reachable roomDir {"/srv/a", "/srv/b"} linkedRoom occupied ∧
    ¬ occupied.Busy "/srv/b" ∧
    (occupied.table.openFile 8 (fileOf roomDir "/srv/b")).1 = .ok 1 ∧
    ¬ occupied.Free roomDir "/srv/b" ∧
    ((acquire roomDir "/srv/b").answer (LockTable.perform 8) occupied.table).1 =
      .error (.busy (.siteLocked "/srv/b" (fileOf roomDir "/srv/b").toString)) := by
  refine ⟨digests_differ, ?_, reachable_occupied, ?_, ?_, ?_, ?_⟩
  · intro loc hloc
    rw [List.prefix_nil.mp hloc]
    rfl
  · -- The only attempt is that on the other site.
    rintro ⟨thread, a, ha, hsite⟩
    simp only [occupied] at ha
    rcases update_eq_some_iff.mp ha with ⟨-, heq⟩ | ⟨-, hnone⟩
    · rw [← Option.some.inj heq] at hsite
      exact absurd hsite (by decide)
    · cases hnone
  · decide +kernel
  · -- The file is open where the link leads, and is locked.
    rintro ⟨-, hfile⟩
    have htrace : occupied.table.files.trace .file (fileOf roomDir "/srv/b") =
        .ok ["locks", nameOf "/srv/a"] := by
      decide +kernel
    have hopened : ⟨0, 7, ["locks", nameOf "/srv/a"]⟩ ∈ occupied.table.opened := by
      decide +kernel
    have hlocked : 0 ∈ occupied.table.locked := by
      decide +kernel
    exact hfile _ htrace _ hopened rfl hlocked
  · decide +kernel

end PluginSweep.Lock
