/-
PluginSweep/Proofs/Lock/Custody.lean

What belongs to whom.  The table of locks has three parts, and each is in order on
its own, given which attempt has what: every local lock has one attempt that has
taken it (`LocalsKept`); every open file has one attempt that has opened it, and is
where its path leads (`FilesKept`); and of the open files at one location at most one
is locked (`LocksKept`).

Each part stays in order when an attempt takes or gives back what belongs to it, and
when a process dies.  Steps that concern one part say nothing about the others, so
these facts are about lists and files, and not about the table.
-/
import PluginSweep.Proofs.Lock.LockFile
import Mathlib.Logic.Function.Basic

namespace PluginSweep.Lock

/-- What a thread has after a change at one thread. -/
theorem update_eq_some_iff {α : Type} {f : Nat → Option α} {i j : Nat} {x : Option α} {a : α} :
    Function.update f i x j = some a ↔ j = i ∧ x = some a ∨ j ≠ i ∧ f j = some a := by
  rw [Function.update_apply]
  split
  · simp [*]
  · simp [*]

/-! ### Local locks -/

/-- Every local lock is that of one thread, and every thread has the one that it took. -/
structure LocalsKept (takes : Nat → Option (Nat × String)) (locals : List (Nat × String)) :
    Prop where
  taken : ∀ {i k}, takes i = some k → k ∈ locals
  once : ∀ {i j k}, takes i = some k → takes j = some k → i = j
  byThread : ∀ {k}, k ∈ locals → ∃ i, takes i = some k

namespace LocalsKept

variable {takes : Nat → Option (Nat × String)} {locals : List (Nat × String)} {i : Nat}
  {k : Nat × String}

theorem take (h : LocalsKept takes locals) (hidle : takes i = none) (hfree : k ∉ locals) :
    LocalsKept (Function.update takes i (some k)) (k :: locals) where
  taken := by
    intro j k' hj
    rcases update_eq_some_iff.mp hj with ⟨-, heq⟩ | ⟨-, hj⟩
    · rw [Option.some.inj heq]
      exact List.mem_cons_self
    · exact List.mem_cons_of_mem _ (h.taken hj)
  once := by
    intro j j' k' hj hj'
    -- Each of the two is the new lock or an old one, and the new one was free.
    rcases update_eq_some_iff.mp hj with ⟨rfl, heq⟩ | ⟨-, hold⟩ <;>
      rcases update_eq_some_iff.mp hj' with ⟨rfl, heq'⟩ | ⟨-, hold'⟩
    · rfl
    · rw [Option.some.inj heq] at hfree
      exact absurd (h.taken hold') hfree
    · rw [Option.some.inj heq'] at hfree
      exact absurd (h.taken hold) hfree
    · exact h.once hold hold'
  byThread := by
    intro k' hmem
    rcases List.mem_cons.mp hmem with rfl | hmem
    · exact ⟨i, update_eq_some_iff.mpr (.inl ⟨rfl, rfl⟩)⟩
    · obtain ⟨j, hj⟩ := h.byThread hmem
      have hne : j ≠ i := by
        rintro rfl
        rw [hidle] at hj
        cases hj
      exact ⟨j, update_eq_some_iff.mpr (.inr ⟨hne, hj⟩)⟩

theorem free (h : LocalsKept takes locals) (hi : takes i = some k) :
    LocalsKept (Function.update takes i none) (locals.filter (· != k)) where
  taken := by
    intro j k' hj
    rcases update_eq_some_iff.mp hj with ⟨-, heq⟩ | ⟨hne, hj⟩
    · cases heq
    · refine List.mem_filter.mpr ⟨h.taken hj, bne_iff_ne.mpr ?_⟩
      rintro rfl
      exact hne (h.once hj hi)
  once := by
    intro j j' k' hj hj'
    rcases update_eq_some_iff.mp hj with ⟨-, heq⟩ | ⟨-, hj⟩
    · cases heq
    · rcases update_eq_some_iff.mp hj' with ⟨-, heq⟩ | ⟨-, hj'⟩
      · cases heq
      · exact h.once hj hj'
  byThread := by
    intro k' hmem
    obtain ⟨hmem, hne⟩ := List.mem_filter.mp hmem
    obtain ⟨j, hj⟩ := h.byThread hmem
    refine ⟨j, update_eq_some_iff.mpr (.inr ⟨?_, hj⟩)⟩
    rintro rfl
    exact bne_iff_ne.mp hne (Option.some.inj (hj.symm.trans hi))

theorem endProcess (h : LocalsKept takes locals) (process : Nat) :
    LocalsKept (fun i => (takes i).filter (·.1 != process))
      (locals.filter (·.1 != process)) where
  taken := by
    intro i k hi
    obtain ⟨hi, hk⟩ := Option.filter_eq_some_iff.mp hi
    exact List.mem_filter.mpr ⟨h.taken hi, hk⟩
  once := by
    intro i j k hi hj
    exact h.once (Option.filter_eq_some_iff.mp hi).1 (Option.filter_eq_some_iff.mp hj).1
  byThread := by
    intro k hmem
    obtain ⟨hmem, hk⟩ := List.mem_filter.mp hmem
    obtain ⟨i, hi⟩ := h.byThread hmem
    exact ⟨i, Option.filter_eq_some_iff.mpr ⟨hi, hk⟩⟩

end LocalsKept

/-! ### Open files -/

/-- An attempt of a process on a site, with the lock file that it has open. -/
structure Keeper where
  process : Nat
  site : String
  handle : Handle

/-- Every open file is that of one thread, and the lock file of a thread is open and is where its
path leads.  No trace goes on from there, and no links have been made since the start. -/
structure FilesKept (dir : Path) (start : FileSystem) (opens : Nat → Option Keeper)
    (files : FileSystem) (opened : List OpenFile) (next : Handle) : Prop where
  stands : files.StandsInDirectory
  links : ∀ {loc target}, files.node? loc = some (.link target) →
    start.node? loc = some (.link target)
  isOpen : ∀ {i k}, opens i = some k → ∃ f ∈ opened, f.handle = k.handle ∧
    f.process = k.process ∧ files.trace .file (fileOf dir k.site) = .ok f.location
  once : ∀ {i j k k'}, opens i = some k → opens j = some k' → k.handle = k'.handle → i = j
  byThread : ∀ {f}, f ∈ opened → ∃ i k, opens i = some k ∧ k.handle = f.handle
  fileOnce : ∀ {f g}, f ∈ opened → g ∈ opened → f.handle = g.handle → f = g
  fresh : ∀ {f}, f ∈ opened → f.handle < next
  deadEnd : ∀ {f}, f ∈ opened → files.DeadEnd f.location

namespace FilesKept

variable {dir : Path} {start files : FileSystem} {opens : Nat → Option Keeper}
  {opened : List OpenFile} {next : Handle} {i : Nat} {k : Keeper}

/-- A file is put where no trace goes on. -/
theorem put (h : FilesKept dir start opens files opened next) {loc : Location}
    (hloc : files.DeadEnd loc) (bytes : List UInt8) :
    FilesKept dir start opens (files.put loc (.file bytes)) opened next where
  stands := h.stands.put hloc
  links := fun hlink => h.links ((FileSystem.node?_put_link_iff hloc).mp hlink)
  isOpen := by
    intro j k hj
    obtain ⟨f, hf, hhandle, hprocess, htrace⟩ := h.isOpen hj
    exact ⟨f, hf, hhandle, hprocess, FileSystem.trace_put_of_deadEnd hloc htrace⟩
  once := h.once
  byThread := h.byThread
  fileOnce := h.fileOnce
  fresh := h.fresh
  deadEnd := fun hf => hloc.put (h.deadEnd hf)

/-- A file is opened under a new handle. -/
theorem add (h : FilesKept dir start opens files opened next) (hidle : opens i = none)
    {process : Nat} {site : String} {loc : Location}
    (htrace : files.trace .file (fileOf dir site) = .ok loc) (hloc : files.DeadEnd loc) :
    FilesKept dir start (Function.update opens i (some ⟨process, site, next⟩)) files
      (opened ++ [⟨next, process, loc⟩]) (next + 1) where
  stands := h.stands
  links := h.links
  isOpen := by
    intro j k hj
    rcases update_eq_some_iff.mp hj with ⟨-, heq⟩ | ⟨-, hj⟩
    · obtain rfl := Option.some.inj heq
      exact ⟨_, List.mem_append_right _ List.mem_cons_self, rfl, rfl, htrace⟩
    · obtain ⟨f, hf, hkept⟩ := h.isOpen hj
      exact ⟨f, List.mem_append_left _ hf, hkept⟩
  once := by
    -- All handles that have been given are smaller than the next one.
    have hother : ∀ {j k}, opens j = some k → k.handle ≠ next := by
      intro j k hj
      obtain ⟨f, hf, hhandle, -⟩ := h.isOpen hj
      exact hhandle ▸ Nat.ne_of_lt (h.fresh hf)
    intro j j' k k' hj hj' heq
    rcases update_eq_some_iff.mp hj with ⟨rfl, hk⟩ | ⟨-, hold⟩ <;>
      rcases update_eq_some_iff.mp hj' with ⟨rfl, hk'⟩ | ⟨-, hold'⟩
    · rfl
    · obtain rfl := Option.some.inj hk
      exact absurd heq.symm (hother hold')
    · obtain rfl := Option.some.inj hk'
      exact absurd heq (hother hold)
    · exact h.once hold hold' heq
  byThread := by
    intro f hf
    rcases List.mem_append.mp hf with hf | hf
    · obtain ⟨j, k, hj, hhandle⟩ := h.byThread hf
      have hne : j ≠ i := by
        rintro rfl
        rw [hidle] at hj
        cases hj
      exact ⟨j, k, update_eq_some_iff.mpr (.inr ⟨hne, hj⟩), hhandle⟩
    · obtain rfl := List.mem_singleton.mp hf
      exact ⟨i, _, update_eq_some_iff.mpr (.inl ⟨rfl, rfl⟩), rfl⟩
  fileOnce := by
    intro f g hf hg heq
    rcases List.mem_append.mp hf with hf | hf <;> rcases List.mem_append.mp hg with hg | hg
    · exact h.fileOnce hf hg heq
    · obtain rfl := List.mem_singleton.mp hg
      exact absurd heq (Nat.ne_of_lt (h.fresh hf))
    · obtain rfl := List.mem_singleton.mp hf
      exact absurd heq.symm (Nat.ne_of_lt (h.fresh hg))
    · rw [List.mem_singleton.mp hf, List.mem_singleton.mp hg]
  fresh := by
    intro f hf
    rcases List.mem_append.mp hf with hf | hf
    · exact Nat.lt_succ_of_lt (h.fresh hf)
    · rw [List.mem_singleton.mp hf]
      exact Nat.lt_succ_self _
  deadEnd := by
    intro f hf
    rcases List.mem_append.mp hf with hf | hf
    · exact h.deadEnd hf
    · rw [List.mem_singleton.mp hf]
      exact hloc

/-- A thread closes the file that it has open. -/
theorem close (h : FilesKept dir start opens files opened next) (hi : opens i = some k) :
    FilesKept dir start (Function.update opens i none) files
      (opened.filter (·.handle != k.handle)) next where
  stands := h.stands
  links := h.links
  isOpen := by
    intro j k' hj
    rcases update_eq_some_iff.mp hj with ⟨-, heq⟩ | ⟨hne, hj⟩
    · cases heq
    · obtain ⟨f, hf, hhandle, hkept⟩ := h.isOpen hj
      -- No other thread has a file with this handle.
      refine ⟨f, List.mem_filter.mpr ⟨hf, bne_iff_ne.mpr fun heq => ?_⟩, hhandle, hkept⟩
      exact hne (h.once hj hi (hhandle.symm.trans heq))
  once := by
    intro j j' k k' hj hj'
    rcases update_eq_some_iff.mp hj with ⟨-, heq⟩ | ⟨-, hj⟩
    · cases heq
    · rcases update_eq_some_iff.mp hj' with ⟨-, heq⟩ | ⟨-, hj'⟩
      · cases heq
      · exact h.once hj hj'
  byThread := by
    intro f hf
    obtain ⟨hf, hne⟩ := List.mem_filter.mp hf
    obtain ⟨j, k', hj, hhandle⟩ := h.byThread hf
    refine ⟨j, k', update_eq_some_iff.mpr (.inr ⟨?_, hj⟩), hhandle⟩
    rintro rfl
    obtain rfl := Option.some.inj (hj.symm.trans hi)
    exact bne_iff_ne.mp hne hhandle.symm
  fileOnce := fun hf hg => h.fileOnce (List.mem_filter.mp hf).1 (List.mem_filter.mp hg).1
  fresh := fun hf => h.fresh (List.mem_filter.mp hf).1
  deadEnd := fun hf => h.deadEnd (List.mem_filter.mp hf).1

/-- The thread that has a file open is one of the process that opened it. -/
theorem process_eq (h : FilesKept dir start opens files opened next) {f : OpenFile}
    (hf : f ∈ opened) (hi : opens i = some k) (hhandle : k.handle = f.handle) :
    k.process = f.process := by
  obtain ⟨g, hg, hghandle, hprocess, -⟩ := h.isOpen hi
  obtain rfl := h.fileOnce hg hf (hghandle.trans hhandle)
  exact hprocess.symm

/-- A file is closed when the process that opened it dies. -/
theorem endProcess (h : FilesKept dir start opens files opened next) (process : Nat) :
    FilesKept dir start (fun i => (opens i).filter (·.process != process)) files
      (opened.filter (·.process != process)) next where
  stands := h.stands
  links := h.links
  isOpen := by
    intro i k hi
    obtain ⟨hi, hk⟩ := Option.filter_eq_some_iff.mp hi
    obtain ⟨f, hf, hhandle, hprocess, htrace⟩ := h.isOpen hi
    exact ⟨f, List.mem_filter.mpr ⟨hf, hprocess ▸ hk⟩, hhandle, hprocess, htrace⟩
  once := by
    intro i j k k' hi hj
    exact h.once (Option.filter_eq_some_iff.mp hi).1 (Option.filter_eq_some_iff.mp hj).1
  byThread := by
    intro f hf
    obtain ⟨hf, hne⟩ := List.mem_filter.mp hf
    obtain ⟨i, k, hi, hhandle⟩ := h.byThread hf
    refine ⟨i, k, Option.filter_eq_some_iff.mpr ⟨hi, ?_⟩, hhandle⟩
    rw [h.process_eq hf hi hhandle]
    exact hne
  fileOnce := fun hf hg => h.fileOnce (List.mem_filter.mp hf).1 (List.mem_filter.mp hg).1
  fresh := fun hf => h.fresh (List.mem_filter.mp hf).1
  deadEnd := fun hf => h.deadEnd (List.mem_filter.mp hf).1

end FilesKept

/-! ### Locked files -/

/-- What threads hold is locked; what is locked is open; and of the open files at one location at
most one is locked. -/
structure LocksKept (holds : Nat → Option Handle) (opened : List OpenFile) (locked : List Handle) :
    Prop where
  held : ∀ {i handle}, holds i = some handle → handle ∈ locked
  isOpen : ∀ {handle}, handle ∈ locked → ∃ f ∈ opened, f.handle = handle
  exclusive : ∀ {f g}, f ∈ opened → g ∈ opened → f.location = g.location → f.handle ∈ locked →
    g.handle ∈ locked → f.handle = g.handle

namespace LocksKept

variable {holds holds' : Nat → Option Handle} {opened : List OpenFile} {locked : List Handle}
  {handle : Handle} {i : Nat}

/-- Threads hold less than before. -/
theorem mono (h : LocksKept holds opened locked)
    (hless : ∀ {j handle}, holds' j = some handle → holds j = some handle) :
    LocksKept holds' opened locked :=
  ⟨fun hj => h.held (hless hj), h.isOpen, h.exclusive⟩

/-- A thread no longer holds anything. -/
theorem drop (h : LocksKept holds opened locked) (i : Nat) :
    LocksKept (Function.update holds i none) opened locked := by
  refine h.mono fun hj => ?_
  rcases update_eq_some_iff.mp hj with ⟨-, heq⟩ | ⟨-, hj⟩
  · cases heq
  · exact hj

/-- A file is opened under a handle that is not locked. -/
theorem add (h : LocksKept holds opened locked) {f : OpenFile} (hf : f.handle ∉ locked) :
    LocksKept holds (opened ++ [f]) locked where
  held := h.held
  isOpen := by
    intro handle hmem
    obtain ⟨g, hg, hhandle⟩ := h.isOpen hmem
    exact ⟨g, List.mem_append_left _ hg, hhandle⟩
  exclusive := by
    intro g g' hg hg' hloc hlocked hlocked'
    rcases List.mem_append.mp hg with hg | hg
    · rcases List.mem_append.mp hg' with hg' | hg'
      · exact h.exclusive hg hg' hloc hlocked hlocked'
      · rw [List.mem_singleton.mp hg'] at hlocked'
        exact absurd hlocked' hf
    · rw [List.mem_singleton.mp hg] at hlocked
      exact absurd hlocked hf

/-- An open file is locked, no other at its location being so. -/
theorem lock (h : LocksKept holds opened locked) {loc : Location}
    (hopen : ∃ f ∈ opened, f.handle = handle)
    (hloc : ∀ f ∈ opened, f.handle = handle → f.location = loc)
    (hfree : ∀ f ∈ opened, f.handle ≠ handle → f.location = loc → f.handle ∉ locked) :
    LocksKept (Function.update holds i (some handle)) opened
      (handle :: locked.filter (· != handle)) where
  held := by
    intro j handle' hj
    rcases update_eq_some_iff.mp hj with ⟨-, heq⟩ | ⟨-, hj⟩
    · rw [Option.some.inj heq]
      exact List.mem_cons_self
    · by_cases heq : handle' = handle
      · rw [heq]
        exact List.mem_cons_self
      · exact List.mem_cons_of_mem _ (List.mem_filter.mpr ⟨h.held hj, bne_iff_ne.mpr heq⟩)
  isOpen := by
    intro handle' hmem
    rcases List.mem_cons.mp hmem with rfl | hmem
    · exact hopen
    · exact h.isOpen (List.mem_filter.mp hmem).1
  exclusive := by
    -- What is locked now is the file itself, or was locked before and is another one.
    have hearlier : ∀ {handle'}, handle' ∈ handle :: locked.filter (· != handle) →
        handle' = handle ∨ handle' ≠ handle ∧ handle' ∈ locked := by
      intro handle' hmem
      rcases List.mem_cons.mp hmem with rfl | hmem
      · exact .inl rfl
      · exact .inr ⟨bne_iff_ne.mp (List.mem_filter.mp hmem).2, (List.mem_filter.mp hmem).1⟩
    intro f g hf hg heq hlocked hlocked'
    rcases hearlier hlocked with hfh | ⟨hfne, hfl⟩ <;>
      rcases hearlier hlocked' with hgh | ⟨hgne, hgl⟩
    · rw [hfh, hgh]
    · exact absurd hgl (hfree g hg hgne (heq ▸ hloc f hf hfh))
    · exact absurd hfl (hfree f hf hfne (heq ▸ hloc g hg hgh))
    · exact h.exclusive hf hg heq hfl hgl

/-- Locks are given back on which no thread relies. -/
theorem unlock (h : LocksKept holds opened locked) {p : Handle → Bool}
    (hheld : ∀ j handle, holds' j = some handle → holds j = some handle ∧ p handle = true) :
    LocksKept holds' opened (locked.filter p) where
  held := by
    intro j handle hj
    obtain ⟨hbefore, hp⟩ := hheld j handle hj
    exact List.mem_filter.mpr ⟨h.held hbefore, hp⟩
  isOpen := fun hmem => h.isOpen (List.mem_filter.mp hmem).1
  exclusive := fun hf hg heq hlocked hlocked' =>
    h.exclusive hf hg heq (List.mem_filter.mp hlocked).1 (List.mem_filter.mp hlocked').1

/-- Only files that are not locked are closed. -/
theorem filter (h : LocksKept holds opened locked) {p : OpenFile → Bool}
    (hkept : ∀ f ∈ opened, f.handle ∈ locked → p f = true) :
    LocksKept holds (opened.filter p) locked where
  held := h.held
  isOpen := by
    intro handle hmem
    obtain ⟨f, hf, rfl⟩ := h.isOpen hmem
    exact ⟨f, List.mem_filter.mpr ⟨hf, hkept f hf hmem⟩, rfl⟩
  exclusive := fun hf hg => h.exclusive (List.mem_filter.mp hf).1 (List.mem_filter.mp hg).1

end LocksKept

end PluginSweep.Lock
