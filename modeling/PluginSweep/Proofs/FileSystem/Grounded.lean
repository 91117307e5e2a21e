/-
PluginSweep/Proofs/FileSystem/Grounded.lean

Trees that stand on the ground: every entry is in a directory, and no place holds two of
them (`Grounded`).  A trace that ends at a free place ends right below a directory, at a
name that can be that of an entry (`standing_of_trace`); and what is replaced or removed
is never a directory.  So every change leaves such a tree behind, whether or not it is
refused (`grounded_makeDirectory`, `grounded_write`, `grounded_unlink`).
-/
import Mathlib.Data.List.Induction
import Mathlib.Data.List.Nodup
import PluginSweep.Proofs.FileSystem.Changing
import PluginSweep.Proofs.FileSystem.Thinning
import PluginSweep.Proofs.Walk.Trail

namespace PluginSweep.FileSystem

variable {fs : FileSystem} {purpose : Purpose} {here loc other : Location} {names : List String}
  {name : String} {node : Node} {p : Path}

/-! ### Grounded trees -/

/-- Every entry stands in a directory, and so does whoever is at work. -/
structure Connected (fs : FileSystem) : Prop where
  parent : ∀ e ∈ fs.entries, fs.node? e.1.dropLast = some .directory
  cwd : fs.node? fs.cwd = some .directory

/-- The place can be that of an entry: it is in a directory, and its name can be that of one. -/
structure Standing (fs : FileSystem) (loc : Location) : Prop where
  parent : fs.node? loc.dropLast = some .directory
  proper : ∀ name ∈ loc.getLast?, Proper name

/-- Every entry has a place of its own that can be that of an entry. -/
structure Grounded (fs : FileSystem) : Prop where
  distinct : (fs.entries.map (·.1)).Nodup
  standing : ∀ e ∈ fs.entries, fs.Standing e.1
  cwd : fs.node? fs.cwd = some .directory

theorem WellFormed.grounded (h : fs.WellFormed) (hconnected : fs.Connected) : fs.Grounded where
  distinct := h.distinct
  standing := fun e he => ⟨hconnected.parent e he,
    fun name hname => (h.joinable e he name (List.mem_of_getLast? hname)).1⟩
  cwd := hconnected.cwd

theorem Grounded.standing_of_node? (h : fs.Grounded) (hnode : fs.node? loc = some node) :
    fs.Standing loc := by
  by_cases hloc : loc = []
  · subst hloc
    exact ⟨rfl, fun name hname => by cases hname⟩
  · exact h.standing _ (mem_entries_of_node? hloc hnode)

/-- What is at a place is in a directory. -/
theorem Grounded.parent_of_node? (h : fs.Grounded)
    (hnode : fs.node? (loc ++ [name]) = some node) : fs.node? loc = some .directory := by
  have hparent := (h.standing_of_node? hnode).parent
  rwa [List.dropLast_concat] at hparent

theorem Grounded.proper_of_node? (h : fs.Grounded)
    (hnode : fs.node? (loc ++ [name]) = some node) : Proper name :=
  (h.standing_of_node? hnode).proper name List.getLast?_concat

/-- Names that lead from one directory to another lead there through directories. -/
theorem Grounded.through (h : fs.Grounded) (hnode : fs.node? (loc ++ names) = some .directory) :
    fs.Through loc names := by
  induction names using List.reverseRecOn with
  | nil =>
    refine ⟨fun name hname => absurd hname List.not_mem_nil, fun before hbefore => ?_⟩
    rwa [List.prefix_nil.mp hbefore]
  | append_singleton before name ih =>
    have hentry : fs.node? (loc ++ before ++ [name]) = some .directory := by
      rwa [List.append_assoc]
    exact (ih (h.parent_of_node? hentry)).append (h.proper_of_node? hentry) hnode

/-- Where no two entries are at one place, an entry is what is at its place. -/
theorem node?_of_mem (hdistinct : (fs.entries.map (·.1)).Nodup)
    (hmem : (loc, node) ∈ fs.entries) (hloc : loc ≠ []) : fs.node? loc = some node := by
  obtain ⟨found, hfound⟩ : ∃ found, fs.entryAt? loc = some found :=
    Option.isSome_iff_exists.mp (List.find?_isSome.mpr ⟨_, hmem, beq_self_eq_true loc⟩)
  have hat : found.1 = loc := by simpa using List.find?_some hfound
  have hfoundMem := List.mem_of_find?_eq_some hfound
  have hsame : found = (loc, node) := List.inj_on_of_nodup_map hdistinct hfoundMem hmem hat
  rw [node?, if_neg hloc, hfound, hsame]
  rfl

theorem Grounded.mem_namesIn_iff (h : fs.Grounded) :
    name ∈ fs.namesIn loc ↔ ∃ node, fs.node? (loc ++ [name]) = some node := by
  have hne : loc ++ [name] ≠ [] := List.append_ne_nil_of_right_ne_nil _ (List.cons_ne_nil _ _)
  rw [mem_namesIn]
  exact exists_congr fun node =>
    ⟨fun hmem => node?_of_mem h.distinct hmem hne, fun hnode => mem_entries_of_node? hne hnode⟩

/-! ### Free places -/

theorem standing_of_follow (hfs : fs.Grounded)
    {detour : Location → List String → Except OsCause Location}
    (hdetour : ∀ here names, fs.node? here ≠ none → detour here names = .ok loc → fs.Standing loc)
    (hhere : fs.node? here ≠ none) (h : fs.follow purpose detour here names = .ok loc) :
    fs.Standing loc := by
  induction names generalizing here with
  | nil =>
    obtain rfl := Except.ok.inj h
    obtain ⟨node, hnode⟩ := Option.ne_none_iff_exists'.mp hhere
    exact hfs.standing_of_node? hnode
  | cons name rest ih =>
    have hdir := node?_of_follow h
    -- A proper name in a directory always stands.
    have hstanding : Proper name → fs.Standing (here ++ [name]) := by
      refine fun hname => ⟨by rwa [List.dropLast_concat], fun other hother => ?_⟩
      rw [List.getLast?_concat] at hother
      exact Option.some.inj hother ▸ hname
    cases leads_of_follow h with
    | skip _ hrest => exact ih hhere hrest
    | up _ hrest =>
      -- The parent of what is there is there.
      refine ih ?_ hrest
      rw [(hfs.standing_of_node? hdir).parent]
      exact Option.some_ne_none _
    | enter _ _ _ hthere _ hrest => exact ih (by rw [hthere]; exact Option.some_ne_none _) hrest
    | link _ _ _ _ _ hrest =>
      refine hdetour _ _ ?_ hrest
      rw [startOf]
      split
      · exact Option.some_ne_none _
      · exact hhere
    | keep hname _ _ _ _ hloc => exact hloc ▸ hstanding hname
    | free hname _ _ _ hloc => exact hloc ▸ hstanding hname

/-- **A trace ends where an entry can stand**, whether or not there is one. -/
theorem standing_of_trace (hfs : fs.Grounded) (h : fs.trace purpose p = .ok loc) :
    fs.Standing loc := by
  have htrace : ∀ links here names, fs.node? here ≠ none →
      fs.traceFrom purpose links here names = .ok loc → fs.Standing loc := by
    intro links
    induction links with
    | zero =>
      intro here names hhere h
      exact standing_of_follow hfs (fun _ _ _ hloop => by cases hloop) hhere h
    | succ fewer ih =>
      intro here names hhere h
      exact standing_of_follow hfs ih hhere h
  rw [trace] at h
  split at h
  · cases h
  · refine htrace _ _ _ ?_ h
    split
    · exact Option.some_ne_none _
    · rw [hfs.cwd]
      exact Option.some_ne_none _

/-! ### Changes -/

theorem node?_put_of_directory (hloc : loc ≠ [])
    (hnode : node = .directory ∨ fs.node? loc ≠ some .directory)
    (hother : fs.node? other = some .directory) :
    (fs.put loc node).node? other = some .directory := by
  by_cases heq : other = loc
  · subst heq
    obtain rfl := hnode.resolve_right (not_not_intro hother)
    exact node?_put_self hloc
  · rwa [node?_put_of_ne heq]

theorem map_fst_put (fs : FileSystem) (loc : Location) (node : Node) :
    (fs.put loc node).entries.map (·.1) =
      if loc ∈ fs.entries.map (·.1) then fs.entries.map (·.1)
      else fs.entries.map (·.1) ++ [loc] := by
  have hany : (fs.entries.any (·.1 == loc)) = true ↔ loc ∈ fs.entries.map (·.1) := by
    simp [List.any_eq_true]
  rw [put]
  by_cases hmem : loc ∈ fs.entries.map (·.1)
  · rw [if_pos (hany.mpr hmem), if_pos hmem, List.map_map]
    refine List.map_congr_left fun e _ => ?_
    by_cases he : e.1 = loc
    · simp [he]
    · simp [he]
  · rw [if_neg (mt hany.mp hmem), if_neg hmem, List.map_append]
    rfl

theorem mem_map_fst_put : other ∈ (fs.put loc node).entries.map (·.1) →
    other = loc ∨ other ∈ fs.entries.map (·.1) := by
  rw [map_fst_put]
  split
  · exact .inr
  · simp [or_comm]

theorem Grounded.put (h : fs.Grounded) (hloc : loc ≠ []) (hstanding : fs.Standing loc)
    (hnode : node = .directory ∨ fs.node? loc ≠ some .directory) :
    (fs.put loc node).Grounded where
  distinct := by
    rw [map_fst_put]
    split
    · exact h.distinct
    · rename_i hnew
      exact List.nodup_append.mpr ⟨h.distinct, List.nodup_singleton _, fun a ha b hb heq =>
        hnew (List.mem_singleton.mp hb ▸ heq ▸ ha)⟩
  standing := by
    intro e he
    have hold : fs.Standing e.1 := by
      rcases mem_map_fst_put (List.mem_map_of_mem he) with heq | hmem
      · rwa [heq]
      · obtain ⟨e', he', heq⟩ := List.mem_map.mp hmem
        exact heq ▸ h.standing e' he'
    exact ⟨node?_put_of_directory hloc hnode hold.parent, hold.proper⟩
  cwd := by
    rw [cwd_put]
    exact node?_put_of_directory hloc hnode h.cwd

theorem Grounded.remove (h : fs.Grounded) (hnode : fs.node? loc ≠ some .directory) :
    (fs.remove loc).Grounded := by
  have hkept : ∀ other, fs.node? other = some .directory →
      (fs.remove loc).node? other = some .directory := by
    intro other hother
    rw [node?_remove_of_ne]
    · exact hother
    · rintro rfl
      exact hnode hother
  refine ⟨h.distinct.sublist (List.filter_sublist.map _), fun e he => ?_, hkept _ h.cwd⟩
  have hstanding := h.standing e (List.mem_filter.mp he).1
  exact ⟨hkept _ hstanding.parent, hstanding.proper⟩

theorem grounded_makeDirectory (p : Path) : Keeps Grounded (makeDirectory p) := by
  intro fs hfs
  rw [run_makeDirectory]
  split
  · split
    · exact hfs
    · rename_i loc htrace
      split
      · exact hfs
      · rename_i hfree
        refine hfs.put ?_ (standing_of_trace hfs htrace) (.inl rfl)
        rintro rfl
        cases hfree
  · exact hfs

theorem grounded_write (p : Path) (bytes : List UInt8) : Keeps Grounded (write p bytes) := by
  intro fs hfs
  rw [run_write]
  split
  · split
    · exact hfs
    · rename_i loc htrace
      split
      · exact hfs
      · rename_i hnode
        refine hfs.put ?_ (standing_of_trace hfs htrace) (.inr hnode)
        rintro rfl
        exact hnode rfl
  · exact hfs

theorem grounded_unlink (p : Path) : Keeps Grounded (unlink p) := by
  intro fs hfs
  rw [run_unlink]
  split
  · exact hfs
  · split
    · exact hfs
    · exact hfs
    · rename_i node hdirectory hnode
      refine hfs.remove fun hdir => hdirectory ?_
      rw [hnode] at hdir
      exact Option.some.inj hdir

end PluginSweep.FileSystem
