/-
PluginSweep/Proofs/Lock/Interleaving.lean

Attempts on sites, side by side.  An attempt takes the lock of a site, is inside
for a while, and gives the lock back.  It belongs to a thread of a process;
there are any number of both, all with one directory of lock files, and their
single steps follow each other in any order (`Step`).  The operating system may
refuse to open, to lock or to write a lock file, whatever it may be that it has
written by then; and a process may die at any time, with all its attempts.

An attempt is in progress from its first step to its last, so that a thread whose
attempt was refused at once, is over, or has died with its process has none.

`Spot` says at which of its steps an attempt is.  Every step leads from one spot
to the next in one of a few ways (`Point.Moves`), which say all that it does to the
table (`Phase.Goes.moves`).
-/
import PluginSweep.Lock.Table
import PluginSweep.Proofs.Dialogue.Run
import Mathlib.Data.Set.Defs
import Mathlib.Logic.Function.Basic

namespace PluginSweep

/-- What may come of a step that a process takes. -/
inductive LockTable.May (process : Nat) : Dialogue.Conduct LockStep.Reply LockTable
  | performs (t : LockTable) (step : LockStep) :
      May process t step (t.perform process step).1 (t.perform process step).2
  | openRefused (t : LockTable) (file : Path) (e : OsError) :
      May process t (.openFile file) (.error e) t
  | lockRefused (t : LockTable) (handle : Handle) (e : OsError) :
      May process t (.lockFile handle) (.error e) t
  /-- Something may have been written before the refusal. -/
  | stampRefused (t : LockTable) (handle : Handle) (e : OsError) {loc : Location}
      (bytes : List UInt8) (hloc : t.locationOf? handle = some loc) :
      May process t (.stamp handle) (.error e) { t with files := t.files.put loc (.file bytes) }

namespace LockTable

variable {process : Nat} {t t' : LockTable} {handle : Handle}

theorem perform_openFile (file : Path) :
    t.perform process (.openFile file) = t.openFile process file := rfl

/-- A lock file that is not opened leaves the table as it is. -/
theorem eq_of_openFile_error {file : Path} {e : OsError}
    (h : t.openFile process file = (.error e, t')) : t' = t := by
  rw [openFile] at h
  split at h
  · exact (Prod.mk.inj h).2.symm
  · split at h
    · exact (Prod.mk.inj h).2.symm
    · dsimp only at h
      split at h
      · exact (Prod.mk.inj h).2.symm
      · cases (Prod.mk.inj h).1
      · cases (Prod.mk.inj h).1

/-- A lock file is opened where its path leads, and is made if it is missing. -/
theorem openFile_eq_ok {file : Path} (h : t.openFile process file = (.ok handle, t')) :
    ∃ loc files, t.files.trace .file file = .ok loc ∧ t.files.node? loc ≠ some .directory ∧
      (files = t.files ∨ files = t.files.put loc (.file [])) ∧ handle = t.nextHandle ∧
      t' = { t with
        files
        opened := t.opened ++ [⟨t.nextHandle, process, loc⟩]
        nextHandle := t.nextHandle + 1 } := by
  rw [openFile] at h
  split at h
  · cases (Prod.mk.inj h).1
  · split at h
    · cases (Prod.mk.inj h).1
    · rename_i loc htrace
      dsimp only at h
      split at h
      · cases (Prod.mk.inj h).1
      · rename_i hfree hnode
        obtain ⟨hhandle, rfl⟩ := Prod.mk.inj h
        refine ⟨loc, t.files, htrace, ?_, .inl rfl, (Except.ok.inj hhandle).symm, rfl⟩
        rw [hnode]
        rintro ⟨⟩
        exact hfree rfl
      · rename_i hnode
        obtain ⟨hhandle, rfl⟩ := Prod.mk.inj h
        refine ⟨loc, _, htrace, ?_, .inr rfl, (Except.ok.inj hhandle).symm, rfl⟩
        rw [hnode]
        rintro ⟨⟩

/-- The location of an open file. -/
theorem locationOf?_eq_some {loc : Location} (h : t.locationOf? handle = some loc) :
    ∃ f ∈ t.opened, f.handle = handle ∧ f.location = loc := by
  obtain ⟨f, hfind, rfl⟩ := Option.map_eq_some_iff.mp h
  have hhandle := List.find?_some hfind
  simp only [beq_iff_eq] at hhandle
  exact ⟨f, List.mem_of_find?_eq_some hfind, hhandle, rfl⟩

theorem may_openFile {file : Path} {reply : Except OsError Handle}
    (h : May process t (.openFile file) reply t') :
    (∃ handle, reply = .ok handle ∧ t.openFile process file = (.ok handle, t')) ∨
      ∃ e, reply = .error e ∧ t' = t := by
  cases h with
  | performs =>
    rw [perform_openFile]
    rcases hopen : t.openFile process file with ⟨e | handle, t'⟩
    · exact .inr ⟨e, rfl, eq_of_openFile_error hopen⟩
    · exact .inl ⟨handle, rfl, rfl⟩
  | openRefused _ _ e => exact .inr ⟨e, rfl, rfl⟩

theorem may_lockFile {reply : Except OsError Bool}
    (h : May process t (.lockFile handle) reply t') :
    (∃ loc, reply = .ok true ∧ t.locationOf? handle = some loc ∧
        t.lockedElsewhere handle loc = false ∧
        t' = { t with locked := handle :: t.locked.filter (· != handle) }) ∨
      (reply = .ok false ∨ ∃ e, reply = .error e) ∧ t' = t := by
  cases h with
  | performs =>
    -- The handle is lost, or another thread has the lock, or it is free.
    rcases hloc : t.locationOf? handle with - | loc
    · have hlost : t.perform process (.lockFile handle) = (.error badHandle, t) := by
        simp only [perform, hloc]
      rw [hlost]
      exact .inr ⟨.inr ⟨_, rfl⟩, rfl⟩
    · by_cases helsewhere : t.lockedElsewhere handle loc = true
      · have hbusy : t.perform process (.lockFile handle) = (.ok false, t) := by
          simp only [perform, hloc, if_pos helsewhere]
        rw [hbusy]
        exact .inr ⟨.inl rfl, rfl⟩
      · have hlocks : t.perform process (.lockFile handle) =
            (.ok true, { t with locked := handle :: t.locked.filter (· != handle) }) := by
          simp only [perform, hloc, if_neg helsewhere]
        rw [hlocks]
        exact .inl ⟨loc, rfl, rfl, Bool.eq_false_iff.mpr helsewhere, rfl⟩
  | lockRefused _ _ e => exact .inr ⟨.inr ⟨e, rfl⟩, rfl⟩

theorem may_stamp {reply : Except OsError Unit} (h : May process t (.stamp handle) reply t') :
    (reply = .ok () ∨ ∃ e, reply = .error e) ∧
      ((∃ loc bytes, t.locationOf? handle = some loc ∧
          t' = { t with files := t.files.put loc (.file bytes) }) ∨
        (∃ e, reply = .error e) ∧ t' = t) := by
  cases h with
  | performs =>
    rcases hloc : t.locationOf? handle with - | loc
    · have hlost : t.perform process (.stamp handle) = (.error badHandle, t) := by
        simp only [perform, hloc]
      rw [hlost]
      exact ⟨.inr ⟨_, rfl⟩, .inr ⟨⟨_, rfl⟩, rfl⟩⟩
    · have hstamps : t.perform process (.stamp handle) =
          (.ok (), { t with
            files := t.files.put loc (.file (Text.encode (Text.decimal process))) }) := by
        simp only [perform, hloc]
      rw [hstamps]
      exact ⟨.inl rfl, .inl ⟨loc, _, rfl, rfl⟩⟩
  | stampRefused _ _ e bytes hloc => exact ⟨.inr ⟨e, rfl⟩, .inl ⟨_, bytes, hloc, rfl⟩⟩

end LockTable

namespace Lock

/-! ### Attempts -/

/-- How far an attempt is. -/
inductive Phase
  /-- The lock is being taken. -/
  | entering (rest : Locking (Except LockError HeldLock))
  /-- The lock is held, and its holder is at work. -/
  | inside (held : HeldLock)
  /-- The work is over, in whichever way, and the lock is being given back. -/
  | leaving (rest : Locking Unit)

/-- What is left of an attempt: it is inside when the lock is taken, and it is over when the lock
is refused or has been given back. -/
def Phase.settled : Phase → Option Phase
  | entering (.done (.ok held)) => some (inside held)
  | entering (.done (.error _)) => none
  | leaving (.done _) => none
  | phase => some phase

/-- One step of an attempt of a process, and what it does to the table. -/
inductive Phase.Goes (process : Nat) : Phase → LockTable → Option Phase → LockTable → Prop
  | enters {step : LockStep} {next : step.Reply → Locking (Except LockError HeldLock)}
      {t t' : LockTable} {reply : step.Reply} (h : LockTable.May process t step reply t') :
      Goes process (entering (.ask step next)) t (entering (next reply)).settled t'
  | ends (held : HeldLock) (t : LockTable) :
      Goes process (inside held) t (some (leaving (release held))) t
  | leaves {step : LockStep} {next : step.Reply → Locking Unit} {t t' : LockTable}
      {reply : step.Reply} (h : LockTable.May process t step reply t') :
      Goes process (leaving (.ask step next)) t (leaving (next reply)).settled t'

/-- An attempt of a process on a site. -/
structure Attempt where
  process : Nat
  site : String
  phase : Phase

/-- The table, and the attempts in progress, each with its thread. -/
structure Config where
  table : LockTable
  attempts : Nat → Option Attempt

variable {dir : Path} {sites : Set String} {files : FileSystem}

/-- No attempt has been made yet. -/
def Config.initial (files : FileSystem) : Config :=
  ⟨{ files }, fun _ => none⟩

/-- The attempt of a thread is inside, and it is one on the site. -/
def Config.Inside (c : Config) (thread : Nat) (site : String) : Prop :=
  ∃ process held, c.attempts thread = some ⟨process, site, .inside held⟩

/-- An attempt on the site is in progress. -/
def Config.Busy (c : Config) (site : String) : Prop :=
  ∃ thread a, c.attempts thread = some a ∧ a.site = site

/-- One step of any attempt on one of the sites, or the end of a process. -/
inductive Step (dir : Path) (sites : Set String) (c : Config) : Config → Prop
  /-- A thread takes the first step of an attempt. -/
  | begins {thread process : Nat} {site : String} {phase : Option Phase} {table : LockTable}
      (hidle : c.attempts thread = none) (hsite : site ∈ sites)
      (h : Phase.Goes process (.entering (acquire dir site)) c.table phase table) :
      Step dir sites c
        ⟨table, Function.update c.attempts thread (phase.map (Attempt.mk process site))⟩
  /-- A thread goes on with its attempt. -/
  | goes {thread : Nat} {a : Attempt} {phase : Option Phase} {table : LockTable}
      (hattempt : c.attempts thread = some a) (h : a.phase.Goes a.process c.table phase table) :
      Step dir sites c
        ⟨table, Function.update c.attempts thread (phase.map (Attempt.mk a.process a.site))⟩
  /-- A process dies, with all its threads. -/
  | dies (process : Nat) :
      Step dir sites c ⟨c.table.endProcess process, fun thread =>
        (c.attempts thread).filter (·.process != process)⟩

/-- What any number of steps can lead to, with certain files in the beginning. -/
inductive Reachable (dir : Path) (sites : Set String) (files : FileSystem) : Config → Prop
  | initial : Reachable dir sites files (.initial files)
  | step {c c' : Config} (h : Reachable dir sites files c) (hstep : Step dir sites c c') :
      Reachable dir sites files c'

/-! ### Attempts that nothing disturbs -/

/-- A thread may go on by itself until it is inside or its attempt is over. -/
theorem Reachable.undisturbed {process thread : Nat} {site : String}
    {rest : Locking (Except LockError HeldLock)} {t : LockTable}
    {attempts : Nat → Option Attempt}
    (h : Reachable dir sites files ⟨t, Function.update attempts thread
      ((Phase.entering rest).settled.map (Attempt.mk process site))⟩) :
    Reachable dir sites files ⟨(rest.answer (LockTable.perform process) t).2,
      Function.update attempts thread
        ((Phase.entering (.done (rest.answer (LockTable.perform process) t).1)).settled.map
          (Attempt.mk process site))⟩ := by
  -- No other thread moves, so the table is always the one that `answer` has.
  induction rest generalizing t with
  | done outcome => exact h
  | ask step next ih =>
    have hattempt : Function.update attempts thread
        (some ⟨process, site, Phase.entering (.ask step next)⟩) thread =
        some ⟨process, site, .entering (.ask step next)⟩ := Function.update_self ..
    have hstep := h.step (.goes hattempt (.enters (.performs t step)))
    rw [Function.update_idem] at hstep
    exact ih _ hstep

/-- **Taking the lock without disturbance** is one of the ways in which the steps of attempts may
follow each other. -/
theorem Reachable.acquires {c : Config} (h : Reachable dir sites files c) {thread : Nat}
    (hidle : c.attempts thread = none) (process : Nat) {site : String} (hsite : site ∈ sites) :
    Reachable dir sites files
      ⟨((acquire dir site).answer (LockTable.perform process) c.table).2,
        Function.update c.attempts thread ((Phase.entering (.done
          ((acquire dir site).answer (LockTable.perform process) c.table).1)).settled.map
            (Attempt.mk process site))⟩ :=
  (h.step (.begins hidle hsite (.enters (.performs c.table (.takeLocal site))))).undisturbed

/-! ### The steps of an attempt -/

/-- The step that an attempt takes next. -/
inductive Point
  | opening
  | locking (handle : Handle)
  | stamping (handle : Handle)
  | withdrawing (handle : Handle) (e : LockError)
  | givingUp (e : LockError)
  | inside (handle : Handle)
  | unlocking (handle : Handle)
  | closing (handle : Handle)
  | freeing

/-- How far an attempt on the site is at that point. -/
def Point.phase (dir : Path) (site : String) : Point → Phase
  | opening => .entering (openLock site (fileOf dir site))
  | locking handle => .entering (lockOpened site (fileOf dir site) handle)
  | stamping handle => .entering (stampFile site (fileOf dir site) handle)
  | withdrawing handle e => .entering (withdraw site handle e)
  | givingUp e => .entering (giveUp site e)
  | inside handle => .inside ⟨site, fileOf dir site, handle⟩
  | unlocking handle => .leaving (release ⟨site, fileOf dir site, handle⟩)
  | closing handle => .leaving do
      perform (LockStep.closeFile handle)
      perform (LockStep.freeLocal site)
  | freeing => .leaving (perform (LockStep.freeLocal site))

/-- What the attempt asks next, if it does. -/
def Phase.asks? : Phase → Option LockStep
  | entering (.ask step _) => some step
  | leaving (.ask step _) => some step
  | _ => none

/-- What an attempt on the site asks at that point. -/
def Point.asks? (dir : Path) (site : String) : Point → Option LockStep
  | opening => some (.openFile (fileOf dir site))
  | locking handle => some (.lockFile handle)
  | stamping handle => some (.stamp handle)
  | withdrawing handle _ => some (.closeFile handle)
  | givingUp _ => some (.freeLocal site)
  | inside _ => none
  | unlocking handle => some (.unlockFile handle)
  | closing handle => some (.closeFile handle)
  | freeing => some (.freeLocal site)

theorem Point.asks?_phase (p : Point) (site : String) :
    (p.phase dir site).asks? = p.asks? dir site := by
  cases p <;> rfl

/-- One step of an attempt from its point to the next, and what it does to the table. -/
inductive Point.Moves (dir : Path) (process : Nat) (site : String) (t : LockTable) :
    Point → Option Point → LockTable → Prop
  | opens {handle : Handle} {t' : LockTable}
      (h : t.openFile process (fileOf dir site) = (.ok handle, t')) :
      Moves dir process site t opening (some (locking handle)) t'
  | openRefused (e : LockError) : Moves dir process site t opening (some (givingUp e)) t
  | locks {handle : Handle} {loc : Location} (hloc : t.locationOf? handle = some loc)
      (hfree : t.lockedElsewhere handle loc = false) :
      Moves dir process site t (locking handle) (some (stamping handle))
        { t with locked := handle :: t.locked.filter (· != handle) }
  | lockRefused (handle : Handle) (e : LockError) :
      Moves dir process site t (locking handle) (some (withdrawing handle e)) t
  | stamps {handle : Handle} {loc : Location} (bytes : List UInt8)
      (hloc : t.locationOf? handle = some loc) :
      Moves dir process site t (stamping handle) (some (inside handle))
        { t with files := t.files.put loc (.file bytes) }
  | stampRefused {handle : Handle} {loc : Location} (bytes : List UInt8) (e : LockError)
      (hloc : t.locationOf? handle = some loc) :
      Moves dir process site t (stamping handle) (some (withdrawing handle e))
        { t with files := t.files.put loc (.file bytes) }
  | stampLost (handle : Handle) (e : LockError) :
      Moves dir process site t (stamping handle) (some (withdrawing handle e)) t
  | withdraws (handle : Handle) (e : LockError) :
      Moves dir process site t (withdrawing handle e) (some (givingUp e))
        (t.perform process (.closeFile handle)).2
  | givesUp (e : LockError) :
      Moves dir process site t (givingUp e) none (t.perform process (.freeLocal site)).2
  | ends (handle : Handle) : Moves dir process site t (inside handle) (some (unlocking handle)) t
  | unlocks (handle : Handle) :
      Moves dir process site t (unlocking handle) (some (closing handle))
        (t.perform process (.unlockFile handle)).2
  | closes (handle : Handle) :
      Moves dir process site t (closing handle) (some freeing)
        (t.perform process (.closeFile handle)).2
  | frees : Moves dir process site t freeing none (t.perform process (.freeLocal site)).2

section Moves

variable {process : Nat} {site : String} {t t' : LockTable} {phase : Option Phase}

theorem Phase.goes_entering {step : LockStep}
    {next : step.Reply → Locking (Except LockError HeldLock)}
    (h : Phase.Goes process (.entering (.ask step next)) t phase t') :
    ∃ reply, LockTable.May process t step reply t' ∧ phase = (entering (next reply)).settled := by
  cases h with
  | enters hmay => exact ⟨_, hmay, rfl⟩

theorem Phase.goes_leaving {step : LockStep} {next : step.Reply → Locking Unit}
    (h : Phase.Goes process (.leaving (.ask step next)) t phase t') :
    ∃ reply, LockTable.May process t step reply t' ∧ phase = (leaving (next reply)).settled := by
  cases h with
  | leaves hmay => exact ⟨_, hmay, rfl⟩

/-- The first step of an attempt: the local lock is taken, or the attempt is over. -/
theorem Phase.goes_acquire
    (h : Phase.Goes process (.entering (acquire dir site)) t phase t') :
    (process, site) ∈ t.locals ∧ phase = none ∧ t' = t ∨
      (process, site) ∉ t.locals ∧ phase = some (Point.opening.phase dir site) ∧
        t' = { t with locals := (process, site) :: t.locals } := by
  obtain ⟨reply, hmay, rfl⟩ := goes_entering h
  cases hmay with
  | performs =>
    by_cases htaken : t.locals.contains (process, site) = true
    · left
      have hrefused : t.perform process (.takeLocal site) = (false, t) := if_pos htaken
      rw [hrefused]
      exact ⟨List.contains_iff_mem.mp htaken, rfl, rfl⟩
    · right
      have htakes : t.perform process (.takeLocal site) =
          (true, { t with locals := (process, site) :: t.locals }) := if_neg htaken
      rw [htakes]
      exact ⟨fun hmem => htaken (List.contains_iff_mem.mpr hmem), rfl, rfl⟩

/-- **Every later step is one of the moves.** -/
theorem Phase.Goes.moves {p : Point} (h : (p.phase dir site).Goes process t phase t') :
    ∃ p' : Option Point, phase = p'.map (Point.phase dir site) ∧
      p.Moves dir process site t p' t' := by
  -- At every point one step is asked for; the cases are what may come of it.
  cases p with
  | opening =>
    obtain ⟨reply, hmay, rfl⟩ := goes_entering h
    rcases LockTable.may_openFile hmay with ⟨handle, rfl, hopen⟩ | ⟨e, rfl, rfl⟩
    · exact ⟨some (.locking handle), rfl, .opens hopen⟩
    · exact ⟨some (.givingUp (.refused e)), rfl, .openRefused _⟩
  | locking handle =>
    obtain ⟨reply, hmay, rfl⟩ := goes_entering h
    rcases LockTable.may_lockFile hmay with
      ⟨loc, rfl, hloc, hfree, rfl⟩ | ⟨rfl | ⟨e, rfl⟩, rfl⟩
    · exact ⟨some (.stamping handle), rfl, .locks hloc hfree⟩
    · exact ⟨some (.withdrawing handle (.busy (.siteLocked site (fileOf dir site).toString))), rfl,
        .lockRefused _ _⟩
    · exact ⟨some (.withdrawing handle (.refused e)), rfl, .lockRefused _ _⟩
  | stamping handle =>
    obtain ⟨reply, hmay, rfl⟩ := goes_entering h
    obtain ⟨rfl | ⟨e, rfl⟩, ⟨loc, bytes, hloc, rfl⟩ | ⟨⟨e', heq⟩, rfl⟩⟩ := LockTable.may_stamp hmay
    · exact ⟨some (.inside handle), rfl, .stamps _ hloc⟩
    · cases heq
    · exact ⟨some (.withdrawing handle (.refused e)), rfl, .stampRefused _ _ hloc⟩
    · exact ⟨some (.withdrawing handle (.refused e)), rfl, .stampLost _ _⟩
  | withdrawing handle e =>
    obtain ⟨reply, hmay, rfl⟩ := goes_entering h
    cases hmay with
    | performs => exact ⟨some (.givingUp e), rfl, .withdraws _ _⟩
  | givingUp e =>
    obtain ⟨reply, hmay, rfl⟩ := goes_entering h
    cases hmay with
    | performs => exact ⟨none, rfl, .givesUp _⟩
  | inside handle =>
    cases h with
    | ends => exact ⟨some (.unlocking handle), rfl, .ends _⟩
  | unlocking handle =>
    obtain ⟨reply, hmay, rfl⟩ := goes_leaving h
    cases hmay with
    | performs => exact ⟨some (.closing handle), rfl, .unlocks _⟩
  | closing handle =>
    obtain ⟨reply, hmay, rfl⟩ := goes_leaving h
    cases hmay with
    | performs => exact ⟨some .freeing, rfl, .closes _⟩
  | freeing =>
    obtain ⟨reply, hmay, rfl⟩ := goes_leaving h
    cases hmay with
    | performs => exact ⟨none, rfl, .frees⟩

end Moves

end Lock

end PluginSweep
