/-
PluginSweep/Proofs/FileSystem/Write.lean

What is written can be read.  A file is written to the location to which its
path is traced, and nothing else changes; so the path must lead to the same
location afterwards.  It does, whatever links there are on the way: a trace goes
through directories and links only, and the location that it ends at is neither
of them when it is written to (`trace_put`, `read_of_write`).

The one thing that has to be ruled out is that the location is met as a link
before it is reached: then the trace would not come back to it
(`traceFrom_ne_of_link`).
-/
import PluginSweep.FileSystem.Change
import PluginSweep.Proofs.FileSystem.Step

namespace PluginSweep.FileSystem

variable {fs : FileSystem} {loc : Location} {node : Node}

/-! ### Replacing a node -/

theorem entryAt?_put_self : ((fs.put loc node).entryAt? loc).map (·.2) = some node := by
  rw [entryAt?, put]
  split
  · rename_i hany
    revert hany
    dsimp only
    induction fs.entries with
    | nil =>
      intro hany
      cases hany
    | cons e rest ih =>
      intro hany
      by_cases he : e.1 = loc
      · simp [he]
      · simp only [List.any_cons, beq_false_of_ne he, Bool.false_or] at hany
        simpa [he, List.find?_cons, beq_false_of_ne he] using ih hany
  · rename_i hnone
    have hnotFound : fs.entries.find? (·.1 == loc) = none := by
      rw [List.find?_eq_none]
      intro e hmem he
      exact hnone (List.any_eq_true.mpr ⟨e, hmem, he⟩)
    simp [hnotFound]

theorem entryAt?_put_of_ne {other : Location} (hne : other ≠ loc) :
    (fs.put loc node).entryAt? other = fs.entryAt? other := by
  rw [entryAt?, entryAt?, put]
  split
  · dsimp only
    induction fs.entries with
    | nil => rfl
    | cons e rest ih =>
      rw [List.map_cons, List.find?_cons, List.find?_cons, ih]
      by_cases he : e.1 = loc
      · simp [he, beq_false_of_ne (Ne.symm hne)]
      · simp [he]
  · simp [beq_false_of_ne (Ne.symm hne)]

theorem node?_put_self (hloc : loc ≠ []) : (fs.put loc node).node? loc = some node := by
  rw [node?, if_neg hloc]
  exact entryAt?_put_self

theorem node?_put_of_ne {other : Location} (hne : other ≠ loc) :
    (fs.put loc node).node? other = fs.node? other := by
  rw [node?, node?, entryAt?_put_of_ne hne]

/-! ### Tracing to a location that is a link -/

variable {detour : Location → List String → Except OsCause Location} {purpose : Purpose}

theorem not_prefix_startOf (hloc : loc ≠ []) {here : Location} (h : ¬ loc <+: here)
    (target : String) : ¬ loc <+: startOf target here := by
  rw [startOf]
  split
  · rwa [List.prefix_nil]
  · exact h

/-- What is followed from outside a link does not end at the link. -/
theorem follow_ne_of_link {target : String} (hlink : fs.node? loc = some (.link target))
    (hpurpose : purpose ≠ .entry)
    (hdetour : ∀ here names, ¬ loc <+: here → detour here names ≠ .ok loc)
    {here : Location} {names : List String} (hhere : ¬ loc <+: here) :
    fs.follow purpose detour here names ≠ .ok loc := by
  have hloc := node?_link_ne_nil hlink
  intro h
  induction names generalizing here with
  | nil =>
    obtain rfl := Except.ok.inj h
    exact hhere (List.prefix_refl _)
  | cons name rest ih =>
    cases leads_of_follow h with
    | skip _ hrest => exact ih hhere hrest
    | up _ hrest => exact ih (fun hup => hhere (hup.trans (List.dropLast_prefix here))) hrest
    | enter _ _ _ hthere hnode hrest =>
      -- What is entered is no link, so that it is still outside.
      refine ih (fun hinside => ?_) hrest
      rcases List.prefix_concat_iff.mp hinside with heq | hinside
      · rw [heq] at hlink
        exact hnode _ (Option.some.inj (hthere.symm.trans hlink))
      · exact hhere hinside
    | link _ _ _ _ _ hrest => exact hdetour _ _ (not_prefix_startOf hloc hhere _) hrest
    | keep _ _ _ hentry _ _ => exact hpurpose hentry
    | free _ _ hthere _ hend =>
      rw [hend, hlink] at hthere
      cases hthere

theorem traceFrom_ne_of_link {target : String} (hlink : fs.node? loc = some (.link target))
    (hpurpose : purpose ≠ .entry) {links : Nat} {here : Location} {names : List String}
    (hhere : ¬ loc <+: here) : fs.traceFrom purpose links here names ≠ .ok loc := by
  induction links generalizing here names with
  | zero =>
    refine follow_ne_of_link hlink hpurpose (fun _ _ _ heq => ?_) hhere
    cases heq
  | succ fewer ih => exact follow_ne_of_link hlink hpurpose (fun _ _ h => ih h) hhere

/-! ### Tracing to a location that is written to -/

/-- What is followed to a location where there is no directory is followed there as well when a
file has been put at the location. -/
theorem follow_put {detour' : Location → List String → Except OsCause Location}
    {bytes : List UInt8} (hfree : fs.node? loc ≠ some .directory)
    (hdetour : ∀ here names, detour here names = .ok loc → detour' here names = .ok loc)
    (hlink : ∀ target here names, fs.node? loc = some (.link target) → ¬ loc <+: here →
      detour here names ≠ .ok loc)
    {here : Location} {names : List String} (h : fs.follow .file detour here names = .ok loc) :
    (fs.put loc (.file bytes)).follow .target detour' here names = .ok loc := by
  have hkept : ∀ {here}, fs.node? here = some .directory →
      (fs.put loc (.file bytes)).node? here = some .directory := by
    intro here hhere
    rw [node?_put_of_ne, hhere]
    rintro rfl
    exact hfree hhere
  have hloc : loc ≠ [] := by
    rintro rfl
    exact hfree rfl
  induction names generalizing here with
  | nil => exact h
  | cons name rest ih =>
    refine Leads.follow (hkept (node?_of_follow h)) ?_
    cases leads_of_follow h with
    | skip hskip hrest => exact .skip hskip (ih hrest)
    | up hup hrest => exact .up hup (ih hrest)
    | enter hname _ hshort hthere hnode hrest =>
      by_cases heq : here ++ [name] = loc
      · subst heq
        exact .enter hname (not_slashRefused_of_ne nofun) hshort (node?_put_self hloc) nofun
          (ih hrest)
      · exact .enter hname (not_slashRefused_of_ne nofun) hshort
          ((node?_put_of_ne heq).trans hthere) hnode (ih hrest)
    | link hname _ hshort hthere _ hrest =>
      -- The link is not at the location, since what is followed from it leads there.
      have hne : here ++ [name] ≠ loc := by
        rintro rfl
        refine hlink _ _ _ hthere (not_prefix_startOf hloc ?_ _) hrest
        exact fun hinside => absurd hinside.length_le (by simp)
      exact .link hname (not_slashRefused_of_ne nofun) hshort
        ((node?_put_of_ne hne).trans hthere) nofun (hdetour _ _ hrest)
    | keep _ _ _ hpurpose _ _ => cases hpurpose
    | free hname hshort _ hlast hend =>
      -- The place has been taken by the file.
      subst hlast hend
      exact .enter hname (not_slashRefused_of_ne nofun) hshort (node?_put_self hloc) nofun rfl

theorem traceFrom_put {bytes : List UInt8} (hfree : fs.node? loc ≠ some .directory)
    {links : Nat} {here : Location} {names : List String}
    (h : fs.traceFrom .file links here names = .ok loc) :
    (fs.put loc (.file bytes)).traceFrom .target links here names = .ok loc := by
  induction links generalizing here names with
  | zero =>
    refine follow_put hfree (fun _ _ heq => ?_) (fun _ _ _ _ _ heq => ?_) h
    · cases heq
    · cases heq
  | succ fewer ih =>
    refine follow_put hfree (fun _ _ => ih) (fun target here names hlink hhere => ?_) h
    exact traceFrom_ne_of_link hlink (by decide) hhere

/-- A path that leads to a location for writing leads to it for reading, when a file has been put
there. -/
theorem trace_put {p : Path} {bytes : List UInt8} (hfree : fs.node? loc ≠ some .directory)
    (h : fs.trace .file p = .ok loc) :
    (fs.put loc (.file bytes)).trace .target p = .ok loc := by
  rw [trace] at h ⊢
  split at h
  · cases h
  · rename_i hshort
    have hcwd : (fs.put loc (.file bytes)).cwd = fs.cwd := by
      rw [put]
      split <;> rfl
    rw [if_neg hshort, hcwd]
    exact traceFrom_put hfree h

/-- Work that begins with the tree at hand has the tree that it starts with. -/
theorem run_get_bind {α : Type} (f : FileSystem → FileWork α) (fs : FileSystem) :
    ((get >>= f : FileWork α).run.run fs) = (f fs).run.run fs :=
  rfl

/-- What comes of writing a file. -/
theorem run_write (fs : FileSystem) (p : Path) (bytes : List UInt8) :
    (write p bytes).run.run fs =
      if admits p then
        match fs.trace .file p with
        | .error cause => (.error (.about cause p.toString), fs)
        | .ok loc => match fs.node? loc with
          | some .directory => (.error (.about .isDirectory p.toString), fs)
          | _ => (.ok (), fs.put loc (.file bytes))
      else (.error .nulInPath, fs) := by
  rw [write, run_get_bind]
  cases admits p with
  | false => rfl
  | true =>
    cases fs.trace .file p with
    | error cause => rfl
    | ok loc =>
      dsimp only
      rcases fs.node? loc with - | (bytes' | - | target) <;> rfl

/-- A file is written where its path leads, if there is no directory. -/
theorem write_eq_ok {fs' : FileSystem} {p : Path} {bytes : List UInt8}
    (h : (write p bytes).run.run fs = (.ok (), fs')) :
    ∃ loc, fs.trace .file p = .ok loc ∧ fs.node? loc ≠ some .directory ∧
      fs' = fs.put loc (.file bytes) := by
  rw [run_write] at h
  split at h
  · split at h
    · cases h
    · rename_i loc htrace
      split at h
      · cases h
      · rename_i hnode
        obtain rfl := (Prod.mk.inj h).2
        exact ⟨loc, htrace, hnode, rfl⟩
  · cases h

/-- A file that cannot be written leaves the tree as it is. -/
theorem write_eq_error {fs' : FileSystem} {p : Path} {bytes : List UInt8} {e : OsError}
    (h : (write p bytes).run.run fs = (.error e, fs')) : fs' = fs := by
  rw [run_write] at h
  split at h
  · split at h
    · exact (Prod.mk.inj h).2.symm
    · split at h
      · exact (Prod.mk.inj h).2.symm
      · cases h
  · exact (Prod.mk.inj h).2.symm

/-- **What has been written can be read.** -/
theorem read_of_write {fs' : FileSystem} {p : Path} {bytes : List UInt8}
    (h : (write p bytes).run.run fs = (.ok (), fs')) : fs'.read p = .ok bytes := by
  obtain ⟨loc, htrace, hfree, rfl⟩ := write_eq_ok h
  have hloc : loc ≠ [] := by
    rintro rfl
    exact hfree rfl
  rw [read, locate, trace_put hfree htrace]
  simp only [node?_put_self hloc]

end PluginSweep.FileSystem
