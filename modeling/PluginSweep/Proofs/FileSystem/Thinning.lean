/-
PluginSweep/Proofs/FileSystem/Thinning.lean

Trees with fewer ways through them.  A trace goes through directories and links only, so
where a tree has no directory and no link that another has not (`Thins`), a path that
leads to something in it leads there in the other as well (`trace_of_thins`).  So it is
when a file is put into a tree (`thins_put`).

A path that ends with the name of an entry leads on from the directory before that name
(`exists_locate_of_trace`), and to the entry itself unless that is a link which is
followed (`eq_concat_of_traceFrom`).
-/
import PluginSweep.Proofs.FileSystem.Below
import PluginSweep.Proofs.FileSystem.DeadEnd

namespace PluginSweep

/-! ### Names at the end of paths -/

/-- One more name makes the text of a path no shorter. -/
theorem Path.size_toString_le (p : Path) {name : String} (hname : name ≠ "") :
    p.toString.utf8ByteSize ≤ (⟨p.anchor, p.names ++ [name]⟩ : Path).toString.utf8ByteSize := by
  obtain ⟨anchor, names⟩ := p
  have hpos : 0 < name.utf8ByteSize :=
    Nat.pos_of_ne_zero fun hzero => hname (String.utf8ByteSize_eq_zero_iff.mp hzero)
  have hlonger : (names ++ [name]).isEmpty = false := by
    cases names <;> rfl
  rw [toString, toString, hlonger, Bool.and_false, if_neg Bool.false_ne_true]
  cases names with
  | nil =>
    rw [List.nil_append, String.utf8ByteSize_append, String.intercalate_singleton]
    split
    · exact Nat.le_add_left_of_le hpos
    · rw [String.utf8ByteSize_append]
      exact Nat.add_le_add_left (Nat.zero_le _) _
  | cons first rest =>
    rw [List.isEmpty_cons, Bool.and_false, if_neg Bool.false_ne_true, String.utf8ByteSize_append,
      String.utf8ByteSize_append, String.intercalate_append_of_ne_nil (List.cons_ne_nil _ _)
        (List.cons_ne_nil _ _), String.utf8ByteSize_append, String.utf8ByteSize_append,
      Nat.add_assoc]
    exact Nat.add_le_add_left (Nat.le_add_right _ _) _

namespace FileSystem

variable {fs fs' : FileSystem} {purpose : Purpose} {here loc other mid : Location}
  {names : List String} {name : String} {p : Path} {node : Node}

/-- A name that is that of an entry leads to the entry, unless that is a link which is followed. -/
theorem eq_concat_of_follow {detour : Location → List String → Except OsCause Location}
    (hname : Proper name)
    (hnode : purpose = .entry ∨ ∀ target, fs.node? (here ++ [name]) ≠ some (.link target))
    (h : fs.follow purpose detour here [name] = .ok loc) : loc = here ++ [name] := by
  obtain ⟨hskip, hup⟩ := proper_iff.mp hname
  cases leads_of_follow h with
  | skip hname' _ => exact absurd hname' hskip
  | up hname' _ => exact absurd (beq_iff_eq.mpr hname') hup
  | enter _ _ _ _ _ hrest => exact (Except.ok.inj hrest).symm
  | link _ _ _ hthere hlast _ =>
    rcases hnode with rfl | hnot
    · exact absurd rfl (hlast rfl)
    · exact absurd hthere (hnot _)
  | keep _ _ _ _ _ hloc => exact hloc.symm
  | free _ _ _ _ hloc => exact hloc.symm

theorem eq_concat_of_traceFrom {links : Nat} (hname : Proper name)
    (hnode : purpose = .entry ∨ ∀ target, fs.node? (here ++ [name]) ≠ some (.link target))
    (h : fs.traceFrom purpose links here [name] = .ok loc) : loc = here ++ [name] := by
  cases links with
  | zero => exact eq_concat_of_follow hname hnode h
  | succ fewer => exact eq_concat_of_follow hname hnode h

theorem node?_of_traceFrom {links : Nat} {rest : List String}
    (h : fs.traceFrom purpose links here (name :: rest) = .ok loc) :
    fs.node? here = some .directory := by
  cases links with
  | zero => exact node?_of_follow h
  | succ fewer => exact node?_of_follow h

/-- A path that ends with a name leads on from the directory to which the path without it leads. -/
theorem exists_locate_of_trace (hname : Proper name)
    (h : fs.trace purpose ⟨p.anchor, p.names ++ [name]⟩ = .ok loc) :
    ∃ dir left, fs.locate p = .ok (dir, .directory) ∧
      fs.traceFrom purpose left dir [name] = .ok loc := by
  rw [trace] at h
  split at h
  · cases h
  · rename_i hshort
    obtain ⟨dir, left, hdir, hrest⟩ := traceFrom_append (.inr (List.cons_ne_nil _ _)) h
    refine ⟨dir, left, ?_, hrest⟩
    have hne : name ≠ "" := by
      rintro rfl
      exact absurd hname (by decide)
    have hnotLong : ¬ p.toString.utf8ByteSize > pathLimit :=
      fun hlong => hshort (Nat.lt_of_lt_of_le hlong (p.size_toString_le hne))
    have htrace : fs.trace .target p = .ok dir := by
      rw [trace, if_neg hnotLong]
      exact hdir
    rw [locate, htrace]
    simp only [node?_of_traceFrom hrest]

/-! ### What a file is made at -/

theorem follow_target_of_file {detour detour' : Location → List String → Except OsCause Location}
    (hdetour : ∀ here names, detour here names = .ok loc → detour' here names = .ok loc)
    (h : fs.follow .file detour here names = .ok loc) :
    fs.follow .target detour' here names = .ok loc := by
  induction names generalizing here with
  | nil => exact h
  | cons name rest ih =>
    refine Leads.follow (node?_of_follow h) ?_
    cases leads_of_follow h with
    | skip hskip hrest => exact .skip hskip (ih hrest)
    | up hup hrest => exact .up hup (ih hrest)
    | enter hname _ hshort hthere hnode hrest =>
      exact .enter hname (not_slashRefused_of_ne nofun) hshort hthere hnode (ih hrest)
    | link hname _ hshort hthere _ hrest =>
      exact .link hname (not_slashRefused_of_ne nofun) hshort hthere nofun (hdetour _ _ hrest)
    | keep _ _ _ hpurpose _ _ => cases hpurpose
    | free hname hshort hthere hlast hloc => exact .free hname hshort hthere hlast hloc

theorem traceFrom_target_of_file {links : Nat} (h : fs.traceFrom .file links here names = .ok loc) :
    fs.traceFrom .target links here names = .ok loc := by
  induction links generalizing here names with
  | zero => exact follow_target_of_file (fun _ _ heq => by cases heq) h
  | succ fewer ih => exact follow_target_of_file (fun _ _ => ih) h

/-- A file is made where its path leads. -/
theorem trace_target_of_file (h : fs.trace .file p = .ok loc) : fs.trace .target p = .ok loc := by
  rw [trace] at h ⊢
  split at h
  · cases h
  · rename_i hshort
    rw [if_neg hshort]
    exact traceFrom_target_of_file h

/-! ### Removing an entry -/

theorem entryAt?_remove_self : (fs.remove loc).entryAt? loc = none := by
  rw [entryAt?, remove, List.find?_eq_none]
  intro e he heq
  exact absurd heq (by simpa using (List.mem_filter.mp he).2)

theorem entryAt?_remove_of_ne (hne : other ≠ loc) :
    (fs.remove loc).entryAt? other = fs.entryAt? other := by
  rw [entryAt?, entryAt?, remove, List.find?_filter]
  refine congrArg (fun q => List.find? q fs.entries) (funext fun e => ?_)
  by_cases he : e.1 = other
  · simp [he, hne]
  · simp [he]

theorem node?_remove_self (hloc : loc ≠ []) : (fs.remove loc).node? loc = none := by
  rw [node?, if_neg hloc, entryAt?_remove_self]
  rfl

theorem node?_remove_of_ne (hne : other ≠ loc) : (fs.remove loc).node? other = fs.node? other := by
  rw [node?, node?, entryAt?_remove_of_ne hne]

theorem node?_of_remove (hloc : loc ≠ []) (h : (fs.remove loc).node? other = some node) :
    fs.node? other = some node := by
  by_cases heq : other = loc
  · rw [heq, node?_remove_self hloc] at h
    cases h
  · rwa [node?_remove_of_ne heq] at h

/-- To remove a file leaves the ways through the tree as they are. -/
theorem sameWays_remove {bytes : List UInt8} (hfile : fs.node? loc = some (.file bytes)) :
    SameWays (fs.remove loc) fs := by
  have hloc : loc ≠ [] := by
    rintro rfl
    cases hfile
  have hother : ∀ {other node}, node ≠ .file bytes →
      ((fs.remove loc).node? other = some node ↔ fs.node? other = some node) := by
    intro other node hne
    refine ⟨node?_of_remove hloc, fun hnode => ?_⟩
    rwa [node?_remove_of_ne]
    rintro rfl
    exact hne (Option.some.inj (hnode.symm.trans hfile))
  exact ⟨rfl, fun _ => hother Node.noConfusion, fun _ _ => hother Node.noConfusion⟩

/-! ### Thinning -/

/-- The tree has no directory and no link that the other has not. -/
structure Thins (fs' fs : FileSystem) : Prop where
  cwd : fs'.cwd = fs.cwd
  directory : ∀ loc, fs'.node? loc = some .directory → fs.node? loc = some .directory
  link : ∀ loc target, fs'.node? loc = some (.link target) → fs.node? loc = some (.link target)

theorem thins_put (hloc : loc ≠ []) (bytes : List UInt8) : Thins (fs.put loc (.file bytes)) fs := by
  have hother : ∀ {other node}, node ≠ .file bytes →
      (fs.put loc (.file bytes)).node? other = some node → fs.node? other = some node := by
    intro other node hne hnode
    by_cases heq : other = loc
    · rw [heq, node?_put_self hloc] at hnode
      exact absurd (Option.some.inj hnode).symm hne
    · rwa [node?_put_of_ne heq] at hnode
  exact ⟨cwd_put, fun _ => hother Node.noConfusion, fun _ _ => hother Node.noConfusion⟩

theorem follow_of_thins {detour detour' : Location → List String → Except OsCause Location}
    (hthin : Thins fs' fs) (hnode' : fs'.node? loc = some node) (hnode : fs.node? loc = some node)
    (hdetour : ∀ here names, detour' here names = .ok loc → detour here names = .ok loc)
    (h : fs'.follow .target detour' here names = .ok loc) :
    fs.follow .target detour here names = .ok loc := by
  induction names generalizing here with
  | nil => exact h
  | cons name rest ih =>
    refine Leads.follow (hthin.directory _ (node?_of_follow h)) ?_
    cases leads_of_follow h with
    | skip hskip hrest => exact .skip hskip (ih hrest)
    | up hup hrest => exact .up hup (ih hrest)
    | @enter there hname hslash hshort hthere hlink hrest =>
      cases there with
      | directory =>
        exact .enter hname hslash hshort (hthin.directory _ hthere) nofun (ih hrest)
      | link target => exact absurd rfl (hlink target)
      | file bytes =>
        -- No name comes after a file, so the path leads to it.
        cases rest with
        | nil =>
          obtain rfl := Except.ok.inj hrest
          obtain rfl := Option.some.inj (hthere.symm.trans hnode')
          exact .enter hname hslash hshort hnode nofun rfl
        | cons next rest => cases hthere.symm.trans (node?_of_follow hrest)
    | link hname hslash hshort hthere hlast hrest =>
      exact .link hname hslash hshort (hthin.link _ _ hthere) hlast (hdetour _ _ hrest)
    | keep _ _ _ hpurpose _ _ => cases hpurpose
    | free _ _ hthere _ hloc =>
      -- The place is free, and so it is not where the path leads.
      rw [hloc, hnode'] at hthere
      cases hthere

theorem traceFrom_of_thins (hthin : Thins fs' fs) (hnode' : fs'.node? loc = some node)
    (hnode : fs.node? loc = some node) {links : Nat}
    (h : fs'.traceFrom .target links here names = .ok loc) :
    fs.traceFrom .target links here names = .ok loc := by
  induction links generalizing here names with
  | zero => exact follow_of_thins hthin hnode' hnode (fun _ _ heq => by cases heq) h
  | succ fewer ih => exact follow_of_thins hthin hnode' hnode (fun _ _ => ih) h

/-- **Where a path leads in a thinner tree, it leads in the other**, if the same is there in
both. -/
theorem trace_of_thins (hthin : Thins fs' fs) (hnode' : fs'.node? loc = some node)
    (hnode : fs.node? loc = some node) (h : fs'.trace .target p = .ok loc) :
    fs.trace .target p = .ok loc := by
  rw [trace] at h ⊢
  split at h
  · cases h
  · rename_i hshort
    rw [if_neg hshort, ← hthin.cwd]
    exact traceFrom_of_thins hthin hnode' hnode h

theorem locate_of_thins (hthin : Thins fs' fs) (hnode : fs.node? loc = some node)
    (h : fs'.locate p = .ok (loc, node)) : fs.locate p = .ok (loc, node) := by
  obtain ⟨htrace, hnode'⟩ := locate_eq_ok_iff.mp h
  exact locate_eq_ok_iff.mpr ⟨trace_of_thins hthin hnode' hnode htrace, hnode⟩

end FileSystem

end PluginSweep
